import Ros2Connect.Connection.ConnectServer

/-!
How a server ends: while it is not halted it comes to wait for clients, a halt
comes to its end in a bounded number of steps, and leaves at most one connection
behind. A server also waits in a call that does not return, and in a spin whose
cancel came before it.
-/

namespace Ros2Connect

open Lib

namespace ConnectServer

variable {κ : Type} [DecidableEq κ]

/-- No step is left that does not wait for something outside of the server. -/
def Stuck (s : State κ) : Prop :=
  ∀ label : Label κ, label.isExternal = false → enabled s label = false

/-- In `io_context::run`, with an accept on the open acceptor and no handler
queued. -/
structure Listening (server : Server.State) : Prop where
  position : server.position = .running
  iocStopped : server.iocStopped = false
  outstanding : server.outstanding ≠ []
  queue : server.queue = []

/-- What a server may wait for: nothing any more, or a client; or, for ever, the
end of a spin, when a SIGINT has halted it before, or a thread of a manager that
has missed its notification. -/
inductive Waiting (s : State κ) : Prop where
  | halted : s.main = .halted → Waiting s
  | listening (server : Server.State) : s.main = .spinning false → s.server = some server →
      Listening server → server.isOpen = true → s.manager.requests = [] → Waiting s
  | reset : s.main = .spinning true → Waiting s
  | blocked : Blocked s → Waiting s

section Stuck

variable {s : State κ}

theorem Stuck.thread (h : Stuck s) (hreturns : s.blocked = false) {server : Server.State}
    (hserver : s.server = some server) (label : Server.Label) (hlabel : isThreadStep label = true)
    (hinternal : (Label.thread (κ := κ) label).isExternal = false) :
    Server.enabled server label = false := by
  have hdisabled := h (.thread label) hinternal
  simpa [enabled, hlabel, hreturns, hserver] using hdisabled

/-- The server's thread has something to do, unless it waits for a client. -/
theorem Stuck.server [Infinite κ] (h : Stuck s) (hreturns : s.blocked = false)
    {server : Server.State} (hserver : s.server = some server) :
    Listening server ∨ server.position = .returned := by
  have hthread := h.thread hreturns hserver
  cases hposition : server.position with
  | loop | listenLoop | listening =>
      simpa [Server.enabled, hposition] using hthread .checkStopping rfl rfl
  | startListening =>
      simpa [Server.enabled, hposition] using hthread (.startListening false) rfl rfl
  | asyncAccept => simpa [Server.enabled, hposition] using hthread .asyncAccept rfl rfl
  | running =>
      have hreturn := hthread .returnRun rfl rfl
      have henter := hthread .enterHandler rfl rfl
      simp only [Server.enabled, hposition, beq_self_eq_true, Bool.true_and, Bool.or_eq_false_iff,
        Bool.and_eq_false_iff, beq_eq_false_iff_ne] at hreturn
      simp [Server.enabled, hposition, hreturn.1] at henter
      refine Or.inl ⟨hposition, hreturn.1, ?_, henter⟩
      exact hreturn.2.resolve_right fun hqueue => hqueue henter
  | handling completion => simpa [Server.enabled, hposition] using hthread .handle rfl rfl
  | startConnection socket =>
      obtain ⟨connection, hfresh⟩ := Infinite.exists_notMem_finset s.manager.started.toFinset
      have hstart := h (.startConnection connection true) rfl
      rw [List.mem_toFinset] at hfresh
      simp [enabled, hreturns, hserver, hfresh, Server.enabled, hposition] at hstart
  | rearm => simpa [Server.enabled, hposition] using hthread .rearm rfl rfl
  | lost => simpa [Server.enabled, hposition] using hthread .stopListening rfl rfl
  | restart => simpa [Server.enabled, hposition] using hthread .restart rfl rfl
  | returned => exact Or.inr rfl

/-- The main thread has something to do, unless it spins or has halted. -/
theorem Stuck.main [Infinite κ] (h : Stuck s) (hinv : Inv s) (hreturns : ¬ Blocked s) :
    (∃ reset, s.main = .spinning reset ∧ s.ok = true) ∨ s.main = .halted := by
  obtain ⟨hmains, hthreads⟩ := not_or.mp hreturns
  cases hmain : s.main with
  | starting => simpa [enabled, hmain] using h (.startThread true true) rfl
  | adding reset => simpa [enabled, hmain] using h .spin rfl
  | spinning reset =>
      have hspins := h .spinReturns rfl
      simp only [enabled, hmain, Bool.or_eq_false_iff, Bool.not_eq_false'] at hspins
      exact Or.inl ⟨reset, rfl, hspins.2⟩
  | halting early step => simpa [enabled, hmain] using h .halt rfl
  | joining early =>
      have hjoin := h .join rfl
      cases hserver : s.server with
      | none => simp [enabled, hmain, hserver] at hjoin
      | some server =>
          rcases h.server (eq_false_of_ne_true hthreads) hserver with hlistening | hreturned
          · have hidle := (hinv.follows server hserver).not_isRunning (by rw [hmain]; rfl)
            simp [isRunning, hlistening.position, hlistening.iocStopped] at hidle
          · simp [enabled, hmain, hserver, hreturned] at hjoin
  | halted => exact Or.inr rfl
  | blocked => exact absurd hmain hmains

end Stuck

/-- The main thread halts or has halted the server before the spin. -/
def Main.isEarly : Main → Bool
  | .halting early _ | .joining early => early
  | .adding reset | .spinning reset => reset
  | .starting | .halted | .blocked => false

/-- The parts of `halt` that are left. -/
def StopStep.remaining : StopStep → Nat
  | .stopping => 5
  | .iocStop => 4
  | .stopListening => 3
  | .stopAllConnections => 2
  | .cancel => 1

/-- The steps of the main thread until it has halted: a server that was reset has
its spin left. -/
def Main.remaining : Main → Nat
  | .starting => 9
  | .adding reset => if reset then 2 else 8
  | .spinning reset => if reset then 1 else 7
  | .halting early step => step.remaining + if early then 3 else 1
  | .joining early => if early then 3 else 1
  | .halted | .blocked => 0

/-- The steps of a thread until it finds `stopping` set, when no handler is
executed after the one it is in. -/
def remainingSteps (server : Server.State) : Nat :=
  match server.position with
  | .handling _ => 6
  | .startConnection _ => 5
  | .rearm => 4
  | .lost => 3
  | .restart | .startListening | .asyncAccept => 2
  | .loop | .listenLoop | .listening | .running => 1
  | .returned => 0

def State.remaining (s : State κ) : Nat := s.main.remaining + s.server.elim 0 remainingSteps

section Remaining

variable {s : State κ}

omit [DecidableEq κ] in
/-- A thread of a server that is halted comes closer to its end. -/
theorem remainingSteps_thread {main : Main} {server : Server.State} {label : Server.Label}
    (h : Follows main server) (hmain : main.isIocStopped = true)
    (hlabel : isThreadStep label = true)
    (hinternal : (Label.thread (κ := κ) label).isExternal = false)
    (henabled : Server.enabled server label = true) :
    remainingSteps (Server.next server label) + 1 ≤ remainingSteps server := by
  have hstopping : server.stopping = true :=
    h.stopping.symm.trans (Main.isStopping_of_isIocStopped hmain)
  cases label with
  | otherHandler | startConnection | throwHandler | stopThread | stopIoc | closeAcceptor =>
      cases hlabel
  | complete result => cases hinternal
  | checkStopping =>
      simp only [Server.enabled, Bool.or_eq_true, beq_iff_eq] at henabled
      rcases henabled with (hposition | hposition) | hposition <;>
        simp [Server.next, Server.State.checkStopping, hstopping, remainingSteps, hposition]
  | startListening ok =>
      simp only [Server.enabled, beq_iff_eq] at henabled
      simp only [Server.next, Server.State.startListening]
      split <;> simp [remainingSteps, henabled]
  | asyncAccept =>
      simp only [Server.enabled, beq_iff_eq] at henabled
      simp [Server.next, remainingSteps, henabled]
  | enterHandler =>
      have hidle := h.not_isRunning hmain
      simp only [Server.enabled, Bool.and_eq_true, beq_iff_eq, Bool.not_eq_true'] at henabled
      simp [isRunning, henabled.1.1, henabled.1.2] at hidle
  | handle =>
      cases hposition : server.position with
      | handling completion =>
          simp only [Server.next, Server.State.handle, hposition]
          split
          · split <;> simp [remainingSteps, hposition]
          · simp [remainingSteps, hposition]
      | loop | listenLoop | startListening | listening | asyncAccept | running | startConnection
      | rearm | lost | restart | returned => simp [Server.enabled, hposition] at henabled
  | rearm =>
      simp only [Server.enabled, beq_iff_eq] at henabled
      simp [Server.next, remainingSteps, henabled]
  | returnRun =>
      simp only [Server.enabled, Bool.and_eq_true, beq_iff_eq] at henabled
      simp [Server.next, hstopping, remainingSteps, henabled.1]
  | stopListening =>
      simp only [Server.enabled, beq_iff_eq] at henabled
      simp [Server.next, remainingSteps, henabled]
  | restart =>
      simp only [Server.enabled, beq_iff_eq] at henabled
      simp [Server.next, remainingSteps, henabled]

omit [DecidableEq κ] in
theorem remaining_of_server {server : Server.State} (hserver : s.server = some server) :
    s.remaining = s.main.remaining + remainingSteps server := by
  simp [State.remaining, hserver]

omit [DecidableEq κ] in
theorem remaining_onServer {server : Server.State} (hserver : s.server = some server)
    (label : Server.Label) : (s.onServer label).remaining =
      s.main.remaining + remainingSteps (Server.next server label) := by
  simp [State.remaining, State.onServer, hserver]

/-- A step of a server that halts: a step of its own leaves less to do, and no
other one more. -/
structure Closer (s : State κ) (label : Label κ) (t : State κ) : Prop where
  isIocStopped : t.main.isIocStopped = true
  isEarly : t.main.isEarly = true → s.main.isEarly = true
  remaining : t.remaining + (if !label.isExternal then 1 else 0) ≤ s.remaining

omit [DecidableEq κ] in
/-- A step of the main thread. -/
theorem Closer.ofMain {label : Label κ} {t : State κ}
    (hserver : t.server.elim 0 remainingSteps = s.server.elim 0 remainingSteps)
    (hmain : t.main.isIocStopped = true) (hearly : t.main.isEarly = true → s.main.isEarly = true)
    (hless : t.main.remaining + 1 ≤ s.main.remaining) : Closer s label t := by
  refine ⟨hmain, hearly, ?_⟩
  unfold State.remaining
  rw [hserver]
  split <;> omega

omit [DecidableEq κ] in
/-- A step of the server's thread. -/
theorem Closer.ofServer (hmain : s.main.isIocStopped = true) {label : Label κ}
    {server : Server.State} (hserver : s.server = some server) (step : Server.Label)
    (hless : remainingSteps (Server.next server step) + (if !label.isExternal then 1 else 0) ≤
      remainingSteps server) : Closer s label (s.onServer step) := by
  refine ⟨hmain, id, ?_⟩
  rw [remaining_onServer hserver, remaining_of_server hserver]
  omega

theorem closer_halt (hmain : s.main.isIocStopped = true) (henabled : enabled s .halt = true) :
    Closer s .halt s.halt := by
  have hserver : (s.onServer .closeAcceptor).server.elim 0 remainingSteps =
      s.server.elim 0 remainingSteps := by
    cases hserver : s.server with
    | none => simp [State.onServer, hserver]
    | some server =>
        simp only [State.onServer, hserver, Option.map_some, Option.elim_some]
        rfl
  cases hposition : s.main with
  | halting early step =>
      cases step with
      | stopping | iocStop =>
          rw [hposition] at hmain
          cases hmain
      | stopListening | stopAllConnections | cancel =>
          simp only [State.halt, hposition]
          refine .ofMain ?_ rfl ?_ ?_
          · first | exact hserver | rfl
          · simp [hposition, Main.isEarly]
          · simp only [hposition, Main.remaining, StopStep.remaining]
            omega
  | starting | adding | spinning | joining | halted | blocked =>
      simp [enabled, hposition] at henabled

theorem closer_join (henabled : enabled s .join = true) : Closer s .join s.join := by
  cases hposition : s.main with
  | joining early =>
      have hjoined : s.join = { s with main := if early then .adding true else .halted } := by
        simp only [State.join, hposition]
      rw [hjoined]
      cases early with
      | true =>
          exact .ofMain rfl rfl (by simp [hposition, Main.isEarly])
            (by simp [hposition, Main.remaining])
      | false =>
          exact .ofMain rfl rfl (by simp [Main.isEarly]) (by simp [hposition, Main.remaining])
  | starting | adding | spinning | halting | halted | blocked =>
      simp [enabled, hposition] at henabled

/-- The spin of a server that was reset. -/
theorem closer_spin (hmain : s.main.isIocStopped = true) (henabled : enabled s .spin = true) :
    Closer s .spin s.spin := by
  cases hposition : s.main with
  | adding reset =>
      rw [hposition] at hmain
      obtain rfl : reset = true := hmain
      simp only [State.spin, hposition]
      exact .ofMain rfl rfl (by simp [hposition, Main.isEarly])
        (by simp [hposition, Main.remaining])
  | starting | spinning | halting | joining | halted | blocked =>
      simp [enabled, hposition] at henabled

theorem closer_spinReturns (hmain : s.main.isIocStopped = true)
    (henabled : enabled s .spinReturns = true) : Closer s .spinReturns s.spinReturns := by
  cases hposition : s.main with
  | spinning reset =>
      rw [hposition] at hmain
      obtain rfl : reset = true := hmain
      simp only [State.spinReturns, hposition]
      exact .ofMain rfl rfl (by simp [Main.isEarly]) (by simp [hposition, Main.remaining])
  | starting | adding | halting | joining | halted | blocked =>
      simp [enabled, hposition] at henabled

theorem closer_haltBlocks {connection : κ} (henabled : enabled s (.haltBlocks connection) = true) :
    Closer s (.haltBlocks connection) (next s (.haltBlocks connection)) := by
  cases hposition : s.main with
  | halting early step =>
      refine .ofMain rfl rfl (by simp [next, hposition, Main.isEarly]) ?_
      cases step <;> simp only [next, hposition, Main.remaining, StopStep.remaining] <;> omega
  | starting | adding | spinning | joining | halted | blocked =>
      simp [enabled, hposition] at henabled

omit [DecidableEq κ] in
/-- A SIGINT finds no server to halt. -/
theorem signal_eq (hmain : s.main.isIocStopped = true) : s.signal = s := by
  unfold State.signal
  split
  next hposition =>
    rw [hposition] at hmain
    cases hmain
  next hposition =>
    rw [hposition] at hmain
    cases hmain
  next => rfl

/-- Every step of a halt leaves less to do, and no other step leaves more. -/
theorem closer_next (h : Inv s) (hmain : s.main.isIocStopped = true) {label : Label κ}
    (henabled : enabled s label = true) : Closer s label (next s label) := by
  cases label with
  | startThread =>
      have hstarting : s.main = .starting := by simpa [enabled] using henabled
      rw [hstarting] at hmain
      cases hmain
  | spin => exact closer_spin hmain henabled
  | spinReturns => exact closer_spinReturns hmain henabled
  | halt => exact closer_halt hmain henabled
  | join => exact closer_join henabled
  | haltBlocks connection => exact closer_haltBlocks henabled
  | signal =>
      rw [next, signal_eq hmain]
      exact ⟨hmain, id, Nat.le_refl _⟩
  | thread label =>
      simp only [enabled, Bool.and_eq_true] at henabled
      obtain ⟨server, hserver, hstep⟩ := (Option.any_eq_true _ _).mp henabled.2
      have hfollows := h.follows server hserver
      refine .ofServer hmain hserver label ?_
      cases hexternal : (Label.thread (κ := κ) label).isExternal with
      | false =>
          exact remainingSteps_thread (κ := κ) hfollows hmain henabled.1.1 hexternal hstep
      | true =>
          cases label with
          | complete result =>
              have hsame : remainingSteps (Server.next server (.complete result)) =
                  remainingSteps server := by
                simp only [Server.next, Server.State.complete]
                split <;> rfl
              simp [hsame]
          | checkStopping | startListening | asyncAccept | enterHandler | handle | rearm
          | returnRun | stopListening | restart | otherHandler | startConnection | throwHandler
          | stopThread | stopIoc | closeAcceptor => cases hexternal
  | startConnection connection started =>
      simp only [enabled, Bool.and_eq_true] at henabled
      obtain ⟨server, hserver, hstep⟩ := (Option.any_eq_true _ _).mp henabled.2
      refine ⟨hmain, id, ?_⟩
      cases hposition : server.position with
      | startConnection socket =>
          simp [next, State.startConnection, State.remaining, State.onServer, hserver,
            Server.next, Server.State.startConnection, hposition, remainingSteps,
            Label.isExternal]
      | loop | listenLoop | startListening | listening | asyncAccept | running | handling | rearm
      | lost | restart | returned => simp [Server.enabled, hposition] at hstep
  | execute request | executeBlocks request =>
      simp only [enabled, Bool.and_eq_true] at henabled
      obtain ⟨server, hserver, hrunning⟩ := (Option.any_eq_true _ _).mp henabled.2
      rw [(h.follows server hserver).not_isRunning hmain] at hrunning
      cases hrunning
  | throws =>
      simp only [enabled, Bool.and_eq_true] at henabled
      obtain ⟨server, hserver, hstep⟩ := (Option.any_eq_true _ _).mp henabled.2
      have hidle := (h.follows server hserver).not_isRunning hmain
      rw [hidle, Bool.false_or] at hstep
      refine .ofServer hmain hserver .throwHandler ?_
      cases hposition : server.position <;>
        simp [hposition, Server.Position.isHandler] at hstep <;>
        simp [Server.next, remainingSteps, hposition, Label.isExternal]
  | shutdown | stopConnection => exact ⟨hmain, id, Nat.le_refl _⟩

/-- A state in which `halt` has stopped the `io_context`, early only if it was so
before. -/
structure Halting (early : Bool) (s : State κ) : Prop where
  reachable : (node κ).Reachable s
  isIocStopped : s.main.isIocStopped = true
  isEarly : s.main.isEarly = true → early = true

theorem Halting.closer {early : Bool} (h : Halting early s) {label : Label κ}
    (henabled : enabled s label = true) : Closer s label (next s label) :=
  closer_next (inv_of_reachable h.reachable) h.isIocStopped henabled

theorem Halting.next {early : Bool} (h : Halting early s) {label : Label κ}
    (henabled : enabled s label = true) : Halting early (next s label) :=
  ⟨h.reachable.step henabled trivial, (h.closer henabled).isIocStopped,
    fun hearly => h.isEarly ((h.closer henabled).isEarly hearly)⟩

end Remaining

end ConnectServer

end Ros2Connect
