import Ros2Connect.Lib.Transition

/-!
`Server::run` and its accept handler. The thread goes from the loop into
`io_context::run`, where it executes the completion handlers in their order, and
back when a handler throws or nothing is left to do; `stopThread` closes the
acceptor from outside. A handler that is queued when an exception leaves
`io_context::run` stays queued.
-/

namespace Ros2Connect

open Lib

namespace Server

/-- The error code of a completed accept: none, `operation_canceled`, or
another one. -/
inductive Result where
  | success
  | canceled
  | error
  deriving Repr, DecidableEq

/-- A queued handler; the socket was created on the `io_context` the accept was
started with. -/
structure Completion where
  ioc : Nat
  result : Result
  deriving Repr, DecidableEq

/-- A connection with the `io_context` of its socket and the one moved into it. -/
structure Accepted where
  socket : Nat
  moved : Option Nat
  deriving Repr, DecidableEq

/-- Where the thread is. -/
inductive Position where
  | loop
  | listenLoop
  | startListening
  | listening
  | asyncAccept
  /-- In `io_context::run`, between two handlers. -/
  | running
  | handling (completion : Completion)
  | startConnection (socket : Nat)
  /-- The handler goes on to `asyncAccept`. -/
  | rearm
  /-- `io_context::run` has returned or thrown. -/
  | lost
  | restart
  | returned
  deriving Repr, DecidableEq

structure State where
  position : Position
  stopping : Bool
  isListening : Bool
  isOpen : Bool
  iocStopped : Bool
  /-- The accepts on the acceptor. -/
  outstanding : List Nat
  queue : List Completion
  newSockIOC : Option Nat
  /-- The next `io_context` to be created. -/
  fresh : Nat
  connections : List Accepted
  deriving Repr, DecidableEq

inductive Label where
  | checkStopping
  | startListening (ok : Bool)
  | asyncAccept
  | complete (result : Result)
  | otherHandler (throws : Bool)
  | enterHandler
  | handle
  | startConnection
  | rearm
  | throwHandler
  | returnRun
  | stopListening
  | restart
  | stopThread
  | stopIoc
  | closeAcceptor
  deriving Repr, DecidableEq

namespace State

/-- `onBeforeStartThread` has succeeded. -/
def start : State where
  position := .loop
  stopping := false
  isListening := true
  isOpen := true
  iocStopped := false
  outstanding := []
  queue := []
  newSockIOC := none
  fresh := 0
  connections := []

/-- `acceptor.close` completes the accepts with `operation_canceled`. -/
def close (s : State) : State :=
  { s with
    isOpen := false
    outstanding := []
    queue := s.queue ++ s.outstanding.map fun ioc => ⟨ioc, .canceled⟩ }

def stopListening (s : State) : State := { s.close with isListening := false }

/-- An accept on a closed acceptor is completed with an error. -/
def asyncAccept (s : State) : State :=
  let s' := { s with newSockIOC := some s.fresh, fresh := s.fresh + 1 }
  if s.isOpen then { s' with outstanding := s.outstanding ++ [s.fresh] }
  else { s' with queue := s.queue ++ [⟨s.fresh, .error⟩] }

/-- The checks of `stopping` in `run`. -/
def checkStopping (s : State) : State :=
  if s.stopping then { s with position := .returned }
  else
    match s.position with
    | .loop => { s with position := if s.isListening then .asyncAccept else .listenLoop }
    | .listenLoop => { s with position := .startListening }
    | _ => { s with position := .asyncAccept }

/-- Opening fails for an acceptor that is open; a failure closes it. -/
def startListening (s : State) (ok : Bool) : State :=
  if ok && !s.isOpen then { s with isOpen := true, isListening := true, position := .listening }
  else { s.close with position := .listenLoop }

/-- An outstanding accept is completed. -/
def complete (s : State) (result : Result) : State :=
  match s.outstanding with
  | [] => s
  | ioc :: rest => { s with outstanding := rest, queue := s.queue ++ [⟨ioc, result⟩] }

def enterHandler (s : State) : State :=
  match s.queue with
  | [] => s
  | completion :: rest => { s with queue := rest, position := .handling completion }

/-- The handler of `async_accept`. -/
def handle (s : State) : State :=
  match s.position with
  | .handling completion =>
      if s.isOpen then
        match completion.result with
        | .canceled => { s with position := .running }
        | .error => { s with position := .rearm }
        | .success => { s with position := .startConnection completion.ioc }
      else { s with position := .running }
  | _ => s

/-- `newSockIOC` is moved into the new connection. -/
def startConnection (s : State) : State :=
  match s.position with
  | .startConnection socket =>
      { s with
        newSockIOC := none
        connections := s.connections ++ [⟨socket, s.newSockIOC⟩]
        position := .rearm }
  | _ => s

end State

/-- In a handler of `async_accept`. -/
def Position.isHandler : Position → Bool
  | .handling _ | .startConnection _ | .rearm => true
  | _ => false

/-- A handler runs while the `io_context` is not stopped; `io_context::run`
returns once it is, or when no accept is left. Only `stopThread` sets
`stopping`, stops the `io_context` and closes the acceptor from outside. -/
def enabled (s : State) : Label → Bool
  | .checkStopping => s.position == .loop || s.position == .listenLoop || s.position == .listening
  | .startListening _ => s.position == .startListening
  | .asyncAccept => s.position == .asyncAccept
  | .complete result => s.outstanding != [] && result != .canceled
  | .otherHandler _ => s.position == .running && !s.iocStopped
  | .enterHandler => s.position == .running && !s.iocStopped && s.queue != []
  | .handle => match s.position with
      | .handling _ => true
      | _ => false
  | .startConnection => match s.position with
      | .startConnection _ => true
      | _ => false
  | .rearm => s.position == .rearm
  | .throwHandler => s.position.isHandler
  | .returnRun => s.position == .running &&
      (s.iocStopped || s.outstanding == [] && s.queue == [])
  | .stopListening => s.position == .lost
  | .restart => s.position == .restart
  | .stopThread => true
  | .stopIoc => s.stopping
  | .closeAcceptor => s.stopping

def next (s : State) : Label → State
  | .checkStopping => s.checkStopping
  | .startListening ok => s.startListening ok
  | .asyncAccept => { s.asyncAccept with position := .running }
  | .complete result => s.complete result
  | .otherHandler throws => { s with position := if throws then .lost else .running }
  | .enterHandler => s.enterHandler
  | .handle => s.handle
  | .startConnection => s.startConnection
  | .rearm => { s.asyncAccept with position := .running }
  | .throwHandler => { s with position := .lost }
  | .returnRun => { s with position := if s.stopping then .returned else .lost }
  | .stopListening => { s.stopListening with position := .restart }
  | .restart => { s with iocStopped := false, position := .loop }
  | .stopThread => { s with stopping := true }
  | .stopIoc => { s with iocStopped := true }
  | .closeAcceptor => s.stopListening

def machine : Machine State Label where
  start := .start
  enabled := enabled
  next := next

/-- At most one accept is outstanding, and every connection has got the
`io_context` its socket was created on. -/
structure Accepting (s : State) : Prop where
  outstanding : s.outstanding.length ≤ 1
  connections : ∀ connection ∈ s.connections, connection.moved = some connection.socket

/-- When `run` starts an accept, no handler of an earlier one that was not
canceled is queued. -/
def Renewed (s : State) : Label → Prop
  | .asyncAccept => ∀ completion ∈ s.queue, completion.result = .canceled
  | _ => True

def Completion.live (completion : Completion) : Bool := completion.result != .canceled

/-- What the position owes: the handler of an accept that was not canceled
starts the next one. -/
def Position.held : Position → Nat
  | .handling completion => if completion.live then 1 else 0
  | .startConnection _ | .rearm => 1
  | _ => 0

/-- Outside of `io_context::run`, with the acceptor closed or new. -/
def Position.isIdle : Position → Bool
  | .loop | .listenLoop | .startListening | .listening | .asyncAccept | .restart => true
  | _ => false

/-- The position names the `io_context` of a socket. -/
def Position.Holds (position : Position) (ioc : Nat) : Prop :=
  position = .handling ⟨ioc, .success⟩ ∨ position = .startConnection ioc

/-- One accept that is outstanding, queued or in its handler, and `newSockIOC` is
the one it was started with. -/
structure Single (s : State) : Prop where
  one : s.outstanding.length + s.queue.countP Completion.live + s.position.held ≤ 1
  idle : s.position.isIdle = true → s.outstanding = []
  outstanding : ∀ ioc ∈ s.outstanding, s.newSockIOC = some ioc
  queue : ∀ completion ∈ s.queue, completion.result = .success →
    s.newSockIOC = some completion.ioc
  holds : ∀ ioc, s.position.Holds ioc → s.newSockIOC = some ioc
  connections : ∀ connection ∈ s.connections, connection.moved = some connection.socket

theorem Single.start : Single State.start where
  one := by decide
  idle _ := rfl
  outstanding := by simp [State.start]
  queue := by simp [State.start]
  holds ioc h := by rcases h with h | h <;> cases h
  connections := by simp [State.start]

variable {s : State}

theorem Single.accepting (h : Single s) : Accepting s where
  outstanding := by
    have hone := h.one
    omega
  connections := h.connections

/-- The thread moves on without an accept of its own. -/
theorem Single.move (h : Single s) (position : Position)
    (hheld : position.held ≤ s.position.held)
    (hidle : position.isIdle = true → s.outstanding = [])
    (hholds : ∀ ioc, position.Holds ioc → s.position.Holds ioc) :
    Single { s with position := position } where
  one := by
    have hone := h.one
    simp only
    omega
  idle := hidle
  outstanding := h.outstanding
  queue := h.queue
  holds ioc hposition := h.holds ioc (hholds ioc hposition)
  connections := h.connections

theorem countP_canceled (iocs : List Nat) :
    (iocs.map fun ioc => (⟨ioc, .canceled⟩ : Completion)).countP Completion.live = 0 := by
  rw [List.countP_eq_zero]
  intro completion hmem
  obtain ⟨ioc, -, rfl⟩ := List.mem_map.mp hmem
  exact Bool.false_ne_true

/-- Closing the acceptor leaves canceled handlers only. -/
theorem Single.close (h : Single s) : Single s.close where
  one := by
    have hone := h.one
    simp only [State.close, List.countP_append, countP_canceled, List.length_nil]
    omega
  idle _ := rfl
  outstanding := by simp [State.close]
  queue := by
    intro completion hmem hsuccess
    rcases List.mem_append.mp hmem with hold | hcanceled
    · exact h.queue completion hold hsuccess
    · obtain ⟨ioc, -, rfl⟩ := List.mem_map.mp hcanceled
      cases hsuccess
  holds := h.holds
  connections := h.connections

theorem Single.stopListening (h : Single s) : Single s.stopListening :=
  let hclose := h.close
  ⟨hclose.one, hclose.idle, hclose.outstanding, hclose.queue, hclose.holds, hclose.connections⟩

/-- An accept is started where no other one is left. -/
theorem Single.asyncAccept (h : Single s) (hnone : s.outstanding = [])
    (hqueue : s.queue.countP Completion.live = 0) :
    Single { s.asyncAccept with position := .running } := by
  have hcanceled : ∀ completion ∈ s.queue, completion.result ≠ .success := by
    intro completion hmem hsuccess
    have hlive := List.countP_eq_zero.mp hqueue completion hmem
    simp [Completion.live, hsuccess] at hlive
  unfold State.asyncAccept
  split
  · exact {
      one := by simp [hnone, hqueue, Position.held]
      idle := nofun
      outstanding := by simp [hnone]
      queue := fun completion hmem hsuccess => absurd hsuccess (hcanceled completion hmem)
      holds := by simp [Position.Holds]
      connections := h.connections }
  · exact {
      one := by simp [hnone, hqueue, Position.held, Completion.live]
      idle := nofun
      outstanding := by simp [hnone]
      queue := by
        intro completion hmem hsuccess
        rcases List.mem_append.mp hmem with hold | hnew
        · exact absurd hsuccess (hcanceled completion hold)
        · rw [List.mem_singleton.mp hnew] at hsuccess
          cases hsuccess
      holds := by simp [Position.Holds]
      connections := h.connections }

theorem Single.complete (h : Single s) (result : Result) : Single (s.complete result) := by
  unfold State.complete
  split
  · exact h
  next ioc rest houtstanding =>
    have hone := h.one
    simp only [houtstanding, List.length_cons] at hone
    have hrest : rest = [] := List.eq_nil_of_length_eq_zero (by omega)
    have hioc : s.newSockIOC = some ioc := h.outstanding ioc (by simp [houtstanding])
    exact {
      one := by
        have hlive : [Completion.mk ioc result].countP Completion.live ≤ 1 :=
          List.countP_le_length
        simp only [List.countP_append]
        omega
      idle := fun _ => hrest
      outstanding := by simp [hrest]
      queue := by
        intro completion hmem hsuccess
        rcases List.mem_append.mp hmem with hold | hnew
        · exact h.queue completion hold hsuccess
        · rw [List.mem_singleton.mp hnew]
          exact hioc
      holds := h.holds
      connections := h.connections }

theorem Single.enterHandler (h : Single s) : Single s.enterHandler := by
  unfold State.enterHandler
  split
  · exact h
  next completion rest hqueue =>
    have hone := h.one
    simp only [hqueue, List.countP_cons] at hone
    exact {
      one := by
        simp only [Position.held]
        omega
      idle := nofun
      outstanding := h.outstanding
      queue := fun other hother => h.queue other (hqueue ▸ List.mem_cons_of_mem _ hother)
      holds := by
        rintro ioc (hholds | hholds)
        · cases hholds
          have hmem : (⟨ioc, .success⟩ : Completion) ∈ s.queue := by simp [hqueue]
          exact h.queue _ hmem rfl
        · cases hholds
      connections := h.connections }

theorem Single.handle (h : Single s) : Single s.handle := by
  unfold State.handle
  split
  next completion hposition =>
    split
    · split
      · exact h.move _ (Nat.zero_le _) nofun (by simp [Position.Holds])
      next hresult =>
        refine h.move _ ?_ nofun (by simp [Position.Holds])
        simp [hposition, Position.held, Completion.live, hresult]
      next hresult =>
        refine h.move _ ?_ nofun ?_
        · simp [hposition, Position.held, Completion.live, hresult]
        · rintro ioc (hholds | hholds)
          · cases hholds
          · cases hholds
            rw [hposition]
            exact Or.inl (by rw [← hresult])
    · exact h.move _ (Nat.zero_le _) nofun (by simp [Position.Holds])
  next => exact h

/-- The connection gets the `io_context` its accept was started with. -/
theorem Single.startConnection (h : Single s) : Single s.startConnection := by
  unfold State.startConnection
  split
  next socket hposition =>
    have hone := h.one
    simp only [hposition, Position.held] at hone
    have hnone : s.outstanding = [] := List.eq_nil_of_length_eq_zero (by omega)
    have hqueue : s.queue.countP Completion.live = 0 := by omega
    exact {
      one := by simp [hnone, hqueue, Position.held]
      idle := nofun
      outstanding := by simp [hnone]
      queue := by
        intro completion hmem hsuccess
        have hlive := List.countP_eq_zero.mp hqueue completion hmem
        simp [Completion.live, hsuccess] at hlive
      holds := by simp [Position.Holds]
      connections := by
        intro connection hmem
        rcases List.mem_append.mp hmem with hold | hnew
        · exact h.connections connection hold
        · rw [List.mem_singleton.mp hnew]
          exact h.holds socket (Or.inr hposition) }
  next => exact h

theorem Single.checkStopping (h : Single s) (hidle : s.position.isIdle = true) :
    Single s.checkStopping := by
  have hnone := h.idle hidle
  unfold State.checkStopping
  split
  · exact h.move _ (Nat.zero_le _) nofun (by simp [Position.Holds])
  · split
    · split
      · exact h.move _ (Nat.zero_le _) (fun _ => hnone)
          (by simp [Position.Holds])
      · exact h.move _ (Nat.zero_le _) (fun _ => hnone)
          (by simp [Position.Holds])
    · exact h.move _ (Nat.zero_le _) (fun _ => hnone)
        (by simp [Position.Holds])
    · exact h.move _ (Nat.zero_le _) (fun _ => hnone)
        (by simp [Position.Holds])

/-- In `io_context::run`, and right behind it, nothing is owed and no new accept
is started. -/
theorem Single.leave (h : Single s) {position : Position}
    (hposition : position = .running ∨ position = .lost ∨ position = .returned) :
    Single { s with position := position } := by
  rcases hposition with rfl | rfl | rfl <;>
    exact h.move _ (Nat.zero_le _) nofun (by simp [Position.Holds])

theorem Single.next (h : Single s) {label : Label} (henabled : enabled s label = true)
    (hrenewed : Renewed s label) : Single (next s label) := by
  cases label with
  | checkStopping =>
      apply h.checkStopping
      simp only [enabled, Bool.or_eq_true, beq_iff_eq] at henabled
      rcases henabled with (hposition | hposition) | hposition <;> simp [hposition, Position.isIdle]
  | startListening ok =>
      have hposition : s.position = .startListening := by simpa [enabled] using henabled
      have hnone := h.idle (by simp [hposition, Position.isIdle])
      simp only [Server.next, State.startListening]
      split
      · have hlistening := h.move .listening (Nat.zero_le _) (fun _ => hnone)
          (by simp [Position.Holds])
        exact ⟨hlistening.one, hlistening.idle, hlistening.outstanding, hlistening.queue,
          hlistening.holds, hlistening.connections⟩
      · exact h.close.move _ (Nat.zero_le _) (fun _ => rfl) (by simp [Position.Holds])
  | asyncAccept =>
      have hposition : s.position = .asyncAccept := by simpa [enabled] using henabled
      apply h.asyncAccept (h.idle (by simp [hposition, Position.isIdle]))
      rw [List.countP_eq_zero]
      intro completion hmem
      simp [Completion.live, hrenewed completion hmem]
  | complete result => exact h.complete result
  | otherHandler throws => exact h.leave (by cases throws <;> simp)
  | enterHandler => exact h.enterHandler
  | handle => exact h.handle
  | startConnection => exact h.startConnection
  | rearm =>
      have hposition : s.position = .rearm := by simpa [enabled] using henabled
      have hone := h.one
      simp only [hposition, Position.held] at hone
      exact h.asyncAccept (List.eq_nil_of_length_eq_zero (by omega)) (by omega)
  | throwHandler => exact h.leave (by simp)
  | returnRun =>
      apply h.leave
      split <;> simp
  | stopListening =>
      exact h.stopListening.move _ (Nat.zero_le _) (fun _ => rfl) (by simp [Position.Holds])
  | restart =>
      have hposition : s.position = .restart := by simpa [enabled] using henabled
      have hloop := h.move .loop (Nat.zero_le _)
        (fun _ => h.idle (by simp [hposition, Position.isIdle])) (by simp [Position.Holds])
      exact ⟨hloop.one, hloop.idle, hloop.outstanding, hloop.queue, hloop.holds,
        hloop.connections⟩
  | stopThread =>
      exact ⟨h.one, h.idle, h.outstanding, h.queue, h.holds, h.connections⟩
  | stopIoc =>
      exact ⟨h.one, h.idle, h.outstanding, h.queue, h.holds, h.connections⟩
  | closeAcceptor => exact h.stopListening

instance (s : State) : DecidablePred (Renewed s)
  | .asyncAccept =>
      inferInstanceAs (Decidable (∀ completion ∈ s.queue, completion.result = .canceled))
  | .checkStopping | .startListening _ | .complete _ | .otherHandler _ | .enterHandler | .handle
  | .startConnection | .rearm | .throwHandler | .returnRun | .stopListening | .restart
  | .stopThread | .stopIoc | .closeAcceptor => .isTrue trivial

/-- In every run in which `run` starts its accepts with no handler of another one
left that was not canceled, there is one accept at a time. -/
theorem run_accepts {s : State} (h : machine.ReachableWith Renewed s) : Accepting s :=
  (h.invariant Single .start fun _ _ hs henabled hrenewed =>
    hs.next henabled hrenewed).accepting

/-- A connection is accepted, the next accept fails, and the handler of the
accept canceled by an exception runs after the restart. -/
theorem run_accepts_restarted : ∃ s : State,
    (s.connections = [⟨0, some 0⟩, ⟨3, some 3⟩] ∧ s.outstanding = [4]) ∧ Accepting s := by
  have hrun : ∃ s, machine.ReachableWith Renewed s ∧
      s.connections = [⟨0, some 0⟩, ⟨3, some 3⟩] ∧ s.outstanding = [4] :=
    Machine.ReachableWith.exists_replay (fun _ _ h => h)
      (fun s : State => s.connections = [⟨0, some 0⟩, ⟨3, some 3⟩] ∧ s.outstanding = [4]) .start
      [.checkStopping, .asyncAccept, .complete .success, .enterHandler, .handle,
        .startConnection, .rearm, .complete .error, .enterHandler, .handle, .rearm,
        .otherHandler true, .stopListening, .restart, .checkStopping, .checkStopping,
        .startListening true, .checkStopping, .asyncAccept, .enterHandler, .handle,
        .complete .success, .enterHandler, .handle, .startConnection, .rearm] (by decide)
  obtain ⟨s, hs, hstate⟩ := hrun
  exact ⟨s, hstate, run_accepts hs⟩

/-- A connection that was accepted before an exception is handed the `io_context`
of the accept started after it, and a second accept is started. -/
theorem run_accepts_twice : ¬ ∀ s : State, machine.Reachable s → Accepting s := by
  intro hall
  have hrun : ∃ s, machine.Reachable s ∧
      2 ≤ s.outstanding.length ∧ s.connections = [⟨0, some 1⟩] :=
    Machine.exists_reachable
      (fun s : State => 2 ≤ s.outstanding.length ∧ s.connections = [⟨0, some 1⟩])
      [.checkStopping, .asyncAccept, .complete .success, .otherHandler true, .stopListening,
        .restart, .checkStopping, .checkStopping, .startListening true, .checkStopping,
        .asyncAccept, .enterHandler, .handle, .startConnection, .rearm] (by decide)
  obtain ⟨s, hs, htwo, -⟩ := hrun
  have honce := (hall s hs).outstanding
  omega

end Server

end Ros2Connect
