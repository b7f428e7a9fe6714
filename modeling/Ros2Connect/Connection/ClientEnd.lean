import Ros2Connect.Connection.Client

/-!
How a client ends: what it waits for when its threads have nothing left to do,
and that they come to that in a bounded number of steps.
-/

namespace Ros2Connect

open Lib

namespace Client

variable {κ : Type} [DecidableEq κ]

/-- No step is left that does not wait for something outside of the client. -/
def Stuck (s : State κ) : Prop :=
  ∀ label : Label κ, label.isExternal = false → enabled s label = false

/-- What a client may wait for: nothing any more; the end of its one connection;
or, for ever, the end of a connection whose thread could not be started, a cancel
that came before the spin, or a thread of a manager that has missed its
notification. -/
inductive Waiting (s : State κ) : Prop where
  | halted : s.main = .halted → s.manager.connections = [] →
      (∀ connection, ConnectionManager.Ended (s.manager.history connection)) →
      s.isConnecting = false → .cancel ∈ s.calls → Waiting s
  | connected (connection : κ) : s.main = .spinning false → s.position = .running →
      s.manager.connections = [connection] → Waiting s
  | unmanaged : s.main = .spinning false → s.position = .running →
      (∀ connection, s.manager.history connection = []) → Waiting s
  | canceled (reset : Bool) (before : List Call) : s.main = .spinning reset →
      s.position = .returned → s.calls = before ++ [.spin] → .cancel ∈ before → Waiting s
  | blocked : s.main = .blocked ∨ s.position = .blocked → Waiting s

section Waiting

variable {s : State κ}

/-- The client's thread has something to do, unless it waits for a connection. -/
theorem Stuck.position (h : Stuck s) : (s.position = .running ∧ s.iocStopped = false) ∨
    (s.position = .returned ∨ s.position = .unstarted) ∨ s.position = .blocked := by
  cases hposition : s.position with
  | unstarted => exact .inr (.inl (.inr rfl))
  | connecting => simpa [enabled, hposition] using h .connect rfl
  | opening => simpa [enabled, hposition] using h (.opened none false) rfl
  | running =>
      have hreturns := h .runReturns rfl
      simp only [enabled, hposition, beq_self_eq_true, Bool.true_and] at hreturns
      exact .inl ⟨rfl, hreturns⟩
  | callback => simpa [enabled, hposition] using h .callback rfl
  | stopping step => simpa [enabled, hposition] using h .stopThread rfl
  | returned => exact .inr (.inl (.inl rfl))
  | blocked => exact .inr (.inr rfl)

/-- The main thread has something to do, unless it spins, has halted or is in a
call that does not return. -/
theorem Stuck.main (h : Stuck s) (hinv : Inv s) (hposition : s.position ≠ .blocked) :
    (∃ reset, s.main = .spinning reset ∧ s.spinning = true ∧ s.ok = true) ∨
      s.main = .halted ∨ s.main = .blocked := by
  cases hmain : s.main with
  | starting => simpa [enabled, hmain] using h (.startThread true) rfl
  | adding reset => simpa [enabled, hmain] using h .spin rfl
  | spinning reset =>
      have hreturns := h .spinReturns rfl
      simp only [enabled, hmain, Bool.or_eq_false_iff, Bool.not_eq_false'] at hreturns
      exact .inl ⟨reset, rfl, hreturns⟩
  | halting early step => simpa [enabled, hmain] using h .halt rfl
  | joining early =>
      have hjoin := h .join rfl
      have hstopped := hinv.main (by rw [hmain]; rfl)
      rcases h.position with ⟨-, hrunning⟩ | (hreturned | hunstarted) | hblocked
      · rw [hstopped] at hrunning
        cases hrunning
      · simp [enabled, hmain, hreturned] at hjoin
      · simp [enabled, hmain, hunstarted] at hjoin
      · exact absurd hblocked hposition
  | halted => exact .inr (.inl rfl)
  | blocked => exact .inr (.inr rfl)

end Waiting

/-- What is left of a call of `stopThread`. -/
def StopStep.remaining : StopStep → Nat
  | .stopping => 4
  | .iocStop => 3
  | .stopAllConnections => 2
  | .cancel => 1

/-- A client that was reset has its spin left. -/
def Main.remaining : Main → Nat
  | .starting => 15
  | .adding reset => if reset then 2 else 7
  | .spinning reset => if reset then 1 else 6
  | .halting early step => step.remaining + if early then 3 else 1
  | .joining early => if early then 3 else 1
  | .halted | .blocked => 0

def Position.remaining : Position → Nat
  | .connecting => 7
  | .opening | .callback => 6
  | .running => 5
  | .stopping step => step.remaining
  | .unstarted | .returned | .blocked => 0

/-- What is left to do for both threads, with a request taking two steps. -/
def State.remaining (s : State κ) : Nat :=
  s.main.remaining + s.position.remaining + 2 * s.manager.requests.length

def Label.isRequest : Label κ → Bool
  | .stopConnection _ => true
  | _ => false

section Remaining

variable {s : State κ}

theorem requests_stop (step : StopStep) : (s.stop step).manager.requests = s.manager.requests := by
  cases step with
  | stopAllConnections => exact (kept_stopAllConnections s.manager).2
  | stopping | iocStop | cancel => rfl

theorem remaining_stop (step : StopStep) : (s.stop step).main = s.main ∧
    (s.stop step).position = s.position ∧
      (s.stop step).manager.requests = s.manager.requests := by
  cases step <;> exact ⟨rfl, rfl, requests_stop _⟩

theorem remaining_halt (henabled : enabled s .halt = true) :
    s.halt.remaining + 1 ≤ s.remaining := by
  cases hmain : s.main with
  | halting early step =>
      obtain ⟨-, hposition, hrequests⟩ := remaining_stop (s := s) step
      cases step <;>
        simp only [State.halt, hmain, State.remaining, hposition, hrequests, Main.remaining,
          StopStep.remaining] <;> omega
  | starting | adding | spinning | joining | halted | blocked => simp [enabled, hmain] at henabled

theorem remaining_stopThread (henabled : enabled s .stopThread = true) :
    s.stopThread.remaining + 1 ≤ s.remaining := by
  cases hposition : s.position with
  | stopping step =>
      obtain ⟨hmain, -, hrequests⟩ := remaining_stop (s := s) step
      cases step <;>
        simp only [State.stopThread, hposition, State.remaining, hmain, hrequests,
          Position.remaining, StopStep.remaining] <;> omega
  | unstarted | connecting | opening | running | callback | returned | blocked =>
      simp [enabled, hposition] at henabled

theorem remaining_spin (henabled : enabled s .spin = true) :
    s.spin.remaining + 1 ≤ s.remaining := by
  cases hmain : s.main with
  | adding reset =>
      cases reset <;> simp [State.spin, hmain, State.remaining, Main.remaining]
  | starting | spinning | halting | joining | halted | blocked => simp [enabled, hmain] at henabled

theorem remaining_spinReturns (henabled : enabled s .spinReturns = true) :
    s.spinReturns.remaining + 1 ≤ s.remaining := by
  cases hmain : s.main with
  | spinning reset =>
      cases reset <;>
        simp [State.spinReturns, hmain, State.remaining, Main.remaining, StopStep.remaining]
  | starting | adding | halting | joining | halted | blocked => simp [enabled, hmain] at henabled

theorem remaining_join (henabled : enabled s .join = true) :
    s.join.remaining + 1 ≤ s.remaining := by
  cases hmain : s.main with
  | joining early =>
      cases early <;> simp [State.join, hmain, State.remaining, Main.remaining]
  | starting | adding | spinning | halting | halted | blocked => simp [enabled, hmain] at henabled

omit [DecidableEq κ] in
/-- A SIGINT leaves no more to do than a spin would. -/
theorem remaining_signal (s : State κ) : s.signal.remaining ≤ s.remaining := by
  unfold State.signal
  split
  next hmain => simp [State.remaining, hmain, Main.remaining, StopStep.remaining]
  next hmain => simp [State.remaining, hmain, Main.remaining, StopStep.remaining]
  next => exact Nat.le_refl _

/-- Stopping connections takes no request back, how far it may get. -/
theorem requests_stopAllUpTo (manager : ConnectionManager.State κ) (connection : κ) :
    (manager.stopAllUpTo connection).requests = manager.requests := by
  have hbefore : ∀ (before : List κ) (manager : ConnectionManager.State κ),
      (before.foldl (fun s other => s.stopInternal id other
        (.reason .goingAway "Application shutdown") false) manager).requests =
          manager.requests := by
    intro before
    induction before with
    | nil => exact fun _ => rfl
    | cons other rest ih =>
        intro manager
        refine (ih _).trans ?_
        simp only [ConnectionManager.State.stopInternal]
        split <;> rfl
  exact hbefore _ manager

theorem remaining_haltBlocks {connection : κ}
    (henabled : enabled s (.haltBlocks connection) = true) :
    (next s (.haltBlocks connection)).remaining + 1 ≤ s.remaining := by
  cases hmain : s.main with
  | halting early step =>
      simp only [next, State.remaining, requests_stopAllUpTo, hmain, Main.remaining]
      cases step <;> simp only [StopStep.remaining] <;> omega
  | starting | adding | spinning | joining | halted | blocked => simp [enabled, hmain] at henabled

/-- A handler takes a request out of the queue. -/
theorem remaining_execute {request : ConnectionManager.Request κ}
    (hposition : s.position = .running) (hmem : request ∈ s.manager.requests) :
    (s.execute request).remaining + 1 ≤ s.remaining := by
  let manager := { s.manager with requests := s.manager.requests.erase request }
  have hrequests : (manager.execute request).requests = s.manager.requests.erase request :=
    (kept_execute manager request).2
  have hnext : (ConnectionManager.next s.manager (.execute request)).requests.length + 1 =
      s.manager.requests.length := by
    have hlength := List.length_erase_of_mem hmem
    have hpos := List.length_pos_of_mem hmem
    have hafter : (ConnectionManager.next s.manager (.execute request)).requests =
        s.manager.requests.erase request := hrequests
    rw [hafter, hlength]
    omega
  unfold State.execute
  split <;> simp only [State.remaining, hposition, Position.remaining] <;> omega

/-- A step of one of the threads leaves less to do. -/
theorem remaining_next {label : Label κ} (henabled : enabled s label = true) :
    (next s label).remaining + (if !label.isExternal then 1 else 0) ≤
      s.remaining + if label.isRequest then 2 else 0 := by
  cases label with
  | startThread created =>
      simp only [enabled, beq_iff_eq] at henabled
      cases created with
      | true =>
          simp [next, State.startThread, State.remaining, henabled, Main.remaining,
            Position.remaining, Label.isExternal, Label.isRequest]
          omega
      | false =>
          simp [next, State.startThread, State.remaining, henabled, Main.remaining,
            Label.isExternal, Label.isRequest]
  | spin => exact remaining_spin henabled
  | spinReturns => exact remaining_spinReturns henabled
  | halt => exact remaining_halt henabled
  | join => exact remaining_join henabled
  | connect =>
      simp only [enabled, beq_iff_eq] at henabled
      simp only [next, State.connect]
      split <;>
        simp [State.remaining, henabled, Position.remaining, Label.isExternal, Label.isRequest]
  | opened connection started =>
      simp only [enabled, Bool.and_eq_true, beq_iff_eq] at henabled
      cases connection with
      | none =>
          simp [next, State.opened, State.remaining, henabled.1, Position.remaining,
            StopStep.remaining, Label.isExternal, Label.isRequest]
      | some connection =>
          cases started <;>
            simp [next, State.opened, ConnectionManager.State.startConnection,
              ConnectionManager.State.record, State.remaining, henabled.1, Position.remaining,
              Label.isExternal, Label.isRequest]
  | execute request =>
      simp only [enabled, ConnectionManager.enabled, Bool.and_eq_true, beq_iff_eq,
        decide_eq_true_eq] at henabled
      exact remaining_execute henabled.1.1 henabled.2
  | callback =>
      simp only [enabled, beq_iff_eq] at henabled
      simp [next, State.cancel, State.remaining, henabled, Position.remaining, Label.isExternal,
        Label.isRequest]
  | runReturns =>
      simp only [enabled, Bool.and_eq_true, beq_iff_eq] at henabled
      simp [next, State.remaining, henabled.1, Position.remaining, StopStep.remaining,
        Label.isExternal, Label.isRequest]
  | stopThread => exact remaining_stopThread henabled
  | shutdown => simp [next, State.remaining, Label.isExternal, Label.isRequest]
  | signal => exact remaining_signal s
  | haltBlocks connection => exact remaining_haltBlocks henabled
  | stopThreadBlocks connection =>
      simp only [enabled, Bool.and_eq_true, beq_iff_eq] at henabled
      simp [next, State.remaining, henabled.1, Position.remaining, StopStep.remaining,
        requests_stopAllUpTo, Label.isExternal, Label.isRequest]
  | executeBlocks request =>
      simp only [enabled, ConnectionManager.enabled, Bool.and_eq_true, beq_iff_eq,
        decide_eq_true_eq] at henabled
      have hlength := @List.length_erase_le _ _ request s.manager.requests
      simp [next, State.remaining, henabled.1.1.1, Position.remaining,
        ConnectionManager.State.stopping, ConnectionManager.State.record, Label.isExternal,
        Label.isRequest]
      omega
  | stopConnection request =>
      simp [next, State.remaining, Label.isExternal, Label.isRequest]
      omega
  | throws =>
      simp only [enabled, Bool.or_eq_true, beq_iff_eq] at henabled
      rcases henabled with hposition | hposition <;>
        simp [next, State.remaining, hposition, Position.remaining, StopStep.remaining,
          Label.isExternal, Label.isRequest]

/-- A run has at most fifteen steps of its threads, and two for each request:
however it is scheduled, the client comes to wait. -/
theorem run_bounded (labels : List (Label κ)) (s : State κ)
    (h : (client κ).replay (fun _ _ => True) .start labels = some s) :
    labels.countP (fun label => !label.isExternal) ≤ 15 + 2 * labels.countP Label.isRequest := by
  have hpaid := Machine.countP_replay_le (M := client κ) (fun _ => True)
    (fun _ _ _ _ _ => trivial) (fun label => !label.isExternal) Label.isRequest 2
    State.remaining (fun _ _ _ henabled _ => remaining_next henabled) trivial h
  exact (Nat.le_add_right _ _).trans hpaid

/-- A connection is lost twice, and the client halts. -/
private def lostRun : List (Label Nat) :=
  [.startThread true, .connect, .opened (some 1) true, .spin, .stopConnection ⟨1, .default⟩,
    .stopConnection ⟨1, .default⟩, .execute ⟨1, .default⟩, .callback, .runReturns, .stopThread,
    .stopThread, .stopThread, .stopThread, .spinReturns, .halt, .halt, .halt, .halt, .join]

theorem run_bounded_lost : ∃ s : State Nat,
    (client Nat).replay (fun _ _ => True) .start lostRun = some s ∧
      lostRun.countP (fun label => !label.isExternal) ≤
        15 + 2 * lostRun.countP Label.isRequest := by
  have hrun : ((client Nat).replay (fun _ _ => True) .start lostRun).isSome = true := by
    decide +kernel
  obtain ⟨s, hs⟩ := Option.isSome_iff_exists.mp hrun
  exact ⟨s, hs, run_bounded lostRun s hs⟩

end Remaining

end Client

end Ros2Connect
