import Ros2Connect.Lib.Transition
import Ros2Connect.Connection.ConnectionBase

/-!
`stopConnectionInternal` against the connection's own thread, position by
position: the handlers with the key check and the three managers that
`onAuthorized` starts on the one side, and on the other side the managers that
`onStopThread` stops and joins, the join of the connection's thread and `close`.
-/

namespace Ros2Connect

open Lib

namespace StopConnection

inductive Manager where
  | publisherManager
  | subscriberManager
  | serviceActionManager
  deriving Repr, DecidableEq

/-- The `std::thread` of a manager. -/
inductive ThreadState where
  | null
  | running
  /-- `run` has returned. -/
  | finished
  /-- `join` has returned, and the object is not deleted yet. -/
  | joined
  deriving Repr, DecidableEq

/-- The parts of `startThread`. -/
inductive StartStep where
  | discard
  | reset
  | create
  deriving Repr, DecidableEq

/-- The parts of `joinThread`. -/
inductive JoinStep where
  | check
  | join
  | delete
  deriving Repr, DecidableEq

/-- Where the connection's thread is. -/
inductive Turn where
  | waiting
  | handling
  /-- In `getAuthenticationFromUserKey`. -/
  | checking
  | startThread (manager : Manager) (step : StartStep)
  | returned
  deriving Repr, DecidableEq

/-- Where the thread that executes `stopConnectionInternal` is. -/
inductive Stopper where
  | idle
  | stopThread (manager : Manager)
  | joinThread (manager : Manager) (step : JoinStep)
  | joinConnection
  | returned
  deriving Repr, DecidableEq

structure State where
  threads : Manager → ThreadState
  stopping : Manager → Bool
  connected : Bool
  turn : Turn
  iocStopped : Bool
  stopper : Stopper
  /-- A `std::thread` was destroyed before it was joined. -/
  terminated : Bool

inductive Label where
  | connect
  | beginHandler
  | endHandler
  | beginCheck
  | endCheck (valid : Bool)
  | discardThread (manager : Manager)
  | resetStopping (manager : Manager)
  | createThread (manager : Manager) (spawned : Bool)
  | returnRun
  | finish (manager : Manager)
  | stop
  | stopThread (manager : Manager)
  | checkThread (manager : Manager)
  | joinThread (manager : Manager)
  | deleteThread (manager : Manager)
  | joinConnection
  deriving Repr, DecidableEq

def State.start : State where
  threads := fun _ => .null
  stopping := fun _ => false
  connected := false
  turn := .waiting
  iocStopped := false
  stopper := .idle
  terminated := false

/-- `onAuthorized` goes on to the next manager. -/
def Turn.after : Manager → Turn
  | .publisherManager => .startThread .subscriberManager .discard
  | .subscriberManager => .startThread .serviceActionManager .discard
  | .serviceActionManager => .handling

/-- `onStopThread` goes on to the next manager. -/
def Stopper.after : Manager → Stopper
  | .publisherManager => .stopThread .subscriberManager
  | .subscriberManager => .stopThread .serviceActionManager
  | .serviceActionManager => .joinConnection

namespace State

def onAuthorized (s : State) : State :=
  { s with turn := .startThread .publisherManager .discard }

def onConnected (authenticationOmit : Bool) (s : State) : State :=
  if authenticationOmit then { s with connected := true }.onAuthorized
  else { s with connected := true }

/-- `startThread` deletes the thread it finds. -/
def discardThread (s : State) (manager : Manager) : State :=
  match s.threads manager with
  | .running | .finished => { s with terminated := true }
  | .null | .joined =>
      { s with
        threads := Function.update s.threads manager .null
        turn := .startThread manager .reset }

def resetStopping (s : State) (manager : Manager) : State :=
  { s with
    stopping := Function.update s.stopping manager false
    turn := .startThread manager .create }

def createThread (s : State) (manager : Manager) (spawned : Bool) : State :=
  { s with
    threads := Function.update s.threads manager (if spawned then .running else .null)
    turn := .after manager }

def stopThread (s : State) (manager : Manager) : State :=
  { s with
    stopping := Function.update s.stopping manager true
    stopper := .joinThread manager .check }

def checkThread (s : State) (manager : Manager) : State :=
  { s with
    stopper := if s.threads manager = .null then .after manager else .joinThread manager .join }

def joinThread (s : State) (manager : Manager) : State :=
  { s with
    threads := Function.update s.threads manager .joined
    stopper := .joinThread manager .delete }

def deleteThread (s : State) (manager : Manager) : State :=
  match s.threads manager with
  | .running | .finished => { s with terminated := true }
  | .null | .joined =>
      { s with
        threads := Function.update s.threads manager .null
        stopper := .after manager }

end State

/-- A stopped `io_context` begins no handler; the thread of a manager leaves its
loop once it finds `stopping` set. -/
def enabled (authenticationOmit : Bool) (s : State) : Label → Bool
  | .connect => !s.terminated && s.turn == .waiting && !s.connected && !s.iocStopped
  | .beginHandler => !s.terminated && s.turn == .waiting && s.connected && !s.iocStopped
  | .endHandler => !s.terminated && s.turn == .handling
  | .beginCheck => !s.terminated && s.turn == .waiting && s.connected && !s.iocStopped &&
      !authenticationOmit
  | .endCheck _ => !s.terminated && s.turn == .checking
  | .discardThread manager => !s.terminated && s.turn == .startThread manager .discard
  | .resetStopping manager => !s.terminated && s.turn == .startThread manager .reset
  | .createThread manager _ => !s.terminated && s.turn == .startThread manager .create
  | .returnRun => !s.terminated && s.turn == .waiting && s.iocStopped
  | .finish manager => !s.terminated && s.threads manager == .running && s.stopping manager
  | .stop => !s.terminated && s.stopper == .idle
  | .stopThread manager => !s.terminated && s.stopper == .stopThread manager
  | .checkThread manager => !s.terminated && s.stopper == .joinThread manager .check
  | .joinThread manager => !s.terminated && s.stopper == .joinThread manager .join &&
      s.threads manager == .finished
  | .deleteThread manager => !s.terminated && s.stopper == .joinThread manager .delete
  | .joinConnection => !s.terminated && s.stopper == .joinConnection && s.turn == .returned

def next (authenticationOmit : Bool) (s : State) : Label → State
  | .connect => s.onConnected authenticationOmit
  | .beginHandler => { s with turn := .handling }
  | .endHandler => { s with turn := .waiting }
  | .beginCheck => { s with turn := .checking }
  | .endCheck valid => if valid then s.onAuthorized else { s with turn := .handling }
  | .discardThread manager => s.discardThread manager
  | .resetStopping manager => s.resetStopping manager
  | .createThread manager spawned => s.createThread manager spawned
  | .returnRun => { s with turn := .returned }
  | .finish manager => { s with threads := Function.update s.threads manager .finished }
  | .stop => { s with iocStopped := true, stopper := .stopThread .publisherManager }
  | .stopThread manager => s.stopThread manager
  | .checkThread manager => s.checkThread manager
  | .joinThread manager => s.joinThread manager
  | .deleteThread manager => s.deleteThread manager
  | .joinConnection => { s with stopper := .returned }

def connection (authenticationOmit : Bool) : Machine State Label where
  start := .start
  enabled := enabled authenticationOmit
  next := next authenticationOmit

/-- The order in which `onStopThread` takes the managers. -/
def Manager.place : Manager → Nat
  | .publisherManager => 0
  | .subscriberManager => 1
  | .serviceActionManager => 2

/-- `stopConnectionInternal` is done with a manager. -/
def Stopper.passed (manager : Manager) : Stopper → Bool
  | .idle => false
  | .stopThread other | .joinThread other _ => decide (manager.place < other.place)
  | .joinConnection | .returned => true

/-- The thread of a manager is not created after `stopConnectionInternal` is done
with the manager. -/
def StartsInTime (s : State) : Label → Prop
  | .createThread manager true => s.stopper.passed manager = false
  | _ => True

instance (s : State) : DecidablePred (StartsInTime s)
  | .createThread manager true => inferInstanceAs (Decidable (s.stopper.passed manager = false))
  | .createThread _ false | .connect | .beginHandler | .endHandler | .beginCheck | .endCheck _
  | .discardThread _ | .resetStopping _ | .returnRun | .finish _ | .stop | .stopThread _
  | .checkThread _ | .joinThread _ | .deleteThread _ | .joinConnection => isTrue trivial

variable {authenticationOmit : Bool} {s t : State} {label : Label} {manager other : Manager}

/-- The thread object a turn of the connection as a whole sees. -/
def ThreadState.object : ThreadState → ThreadObject
  | .null | .joined => .null
  | .running | .finished => .joinable

/-- `startThread` is its three parts without a step in between. -/
theorem startThread_parts (hlive : s.terminated = false) (manager : Manager) (spawned : Bool) :
    startThread (s.threads manager).object spawned =
      if (s.discardThread manager).terminated then .error .unjoinedThread
      else .ok ((((s.discardThread manager).resetStopping manager).createThread manager
        spawned).threads manager).object := by
  cases hthread : s.threads manager <;> cases spawned <;>
    simp [startThread, ThreadState.object, State.discardThread, State.resetStopping,
      State.createThread, hthread, hlive]

theorem Stopper.passed_after :
    (Stopper.after manager).passed other = true ↔
      other = manager ∨ (Stopper.stopThread manager).passed other = true := by
  cases manager <;> cases other <;> decide

theorem Stopper.not_passed_self (step : JoinStep) :
    (Stopper.joinThread manager step).passed manager = false := by
  simp [Stopper.passed]

/-- The managers `stopConnectionInternal` is done with have no thread. -/
def Stopped (s : State) : Prop :=
  ∀ manager, s.stopper.passed manager = true → s.threads manager = .null

theorem Stopped.start : Stopped .start := fun _ h => nomatch h

theorem Stopped.keep (h : Stopped s) (hthreads : t.threads = s.threads)
    (hpassed : ∀ other, t.stopper.passed other = true → s.stopper.passed other = true) :
    Stopped t := by
  intro other hother
  rw [hthreads]
  exact h other (hpassed other hother)

/-- The thread of one manager is null, and `stopConnectionInternal` may be done
with it. -/
theorem Stopped.clear (h : Stopped s)
    (hthreads : t.threads = Function.update s.threads manager .null)
    (hpassed : ∀ other, t.stopper.passed other = true →
      other = manager ∨ s.stopper.passed other = true) : Stopped t := by
  intro other hother
  rw [hthreads]
  by_cases hsame : other = manager
  · rw [hsame, Function.update_self]
  · rw [Function.update_of_ne hsame]
    exact h other ((hpassed other hother).resolve_left hsame)

/-- `stopConnectionInternal` is not done with the manager whose thread changes. -/
theorem Stopped.advance (h : Stopped s) {thread : ThreadState}
    (hmanager : s.stopper.passed manager = false)
    (hthreads : t.threads = Function.update s.threads manager thread)
    (hpassed : ∀ other, t.stopper.passed other = true → s.stopper.passed other = true) :
    Stopped t := by
  intro other hother
  have hbefore := hpassed other hother
  have hne : other ≠ manager := by
    rintro rfl
    cases hmanager.symm.trans hbefore
  rw [hthreads, Function.update_of_ne hne]
  exact h other hbefore

/-- A manager that has a thread is not passed. -/
theorem Stopped.not_passed (h : Stopped s) (hthread : s.threads manager ≠ .null) :
    s.stopper.passed manager = false := by
  by_contra hpassed
  exact hthread (h manager (by simpa using hpassed))

theorem Stopped.discardThread (h : Stopped s) : Stopped (s.discardThread manager) := by
  unfold State.discardThread
  split
  · exact h.keep rfl fun _ => id
  · exact h.keep rfl fun _ => id
  · exact h.clear rfl fun _ => .inr
  · exact h.clear rfl fun _ => .inr

theorem Stopped.checkThread (h : Stopped s) (hstopper : s.stopper = .joinThread manager .check) :
    Stopped (s.checkThread manager) := by
  by_cases hnull : s.threads manager = .null
  · have hthreads : (s.checkThread manager).threads =
        Function.update s.threads manager .null := by
      simp [State.checkThread, ← hnull]
    refine h.clear hthreads fun other hother => ?_
    simp only [State.checkThread, hnull, if_true, Stopper.passed_after] at hother
    rw [hstopper]
    exact hother
  · refine h.keep rfl fun other hother => ?_
    simp only [State.checkThread, hnull, if_false] at hother
    rw [hstopper]
    exact hother

theorem Stopped.deleteThread (h : Stopped s)
    (hstopper : s.stopper = .joinThread manager .delete) : Stopped (s.deleteThread manager) := by
  have hpassed : ∀ other, (Stopper.after manager).passed other = true →
      other = manager ∨ s.stopper.passed other = true := by
    intro other hother
    rw [hstopper]
    exact Stopper.passed_after.mp hother
  unfold State.deleteThread
  split
  · exact h.keep rfl fun _ => id
  · exact h.keep rfl fun _ => id
  · exact h.clear rfl hpassed
  · exact h.clear rfl hpassed

/-- What one step keeps. -/
theorem Stopped.next (h : Stopped s) (henabled : enabled authenticationOmit s label = true)
    (hok : StartsInTime s label) : Stopped (next authenticationOmit s label) := by
  cases label with
  | connect =>
      simp only [StopConnection.next, State.onConnected]
      split <;> exact h.keep rfl fun _ => id
  | endCheck valid =>
      simp only [StopConnection.next]
      split <;> exact h.keep rfl fun _ => id
  | discardThread manager => exact h.discardThread
  | createThread manager spawned =>
      cases spawned with
      | false => exact h.clear rfl fun _ => .inr
      | true => exact h.advance hok rfl fun _ => id
  | finish manager =>
      simp only [enabled, Bool.and_eq_true, beq_iff_eq] at henabled
      have hthread : s.threads manager ≠ .null := by simp [henabled.1.2]
      exact h.advance (h.not_passed hthread) rfl fun _ => id
  | stop =>
      refine h.keep rfl fun other hother => ?_
      cases other <;> cases hother
  | stopThread manager =>
      have hstopper : s.stopper = .stopThread manager := by
        simp only [enabled, Bool.and_eq_true, beq_iff_eq] at henabled
        exact henabled.2
      refine h.keep rfl fun other hother => ?_
      rw [hstopper]
      exact hother
  | checkThread manager =>
      simp only [enabled, Bool.and_eq_true, beq_iff_eq] at henabled
      exact h.checkThread henabled.2
  | joinThread manager =>
      have hstopper : s.stopper = .joinThread manager .join := by
        simp only [enabled, Bool.and_eq_true, beq_iff_eq] at henabled
        exact henabled.1.2
      have hmanager : s.stopper.passed manager = false := by
        rw [hstopper]
        exact Stopper.not_passed_self .join
      refine h.advance hmanager rfl fun other hother => ?_
      rw [hstopper]
      exact hother
  | deleteThread manager =>
      simp only [enabled, Bool.and_eq_true, beq_iff_eq] at henabled
      exact h.deleteThread henabled.2
  | joinConnection =>
      simp only [enabled, Bool.and_eq_true, beq_iff_eq] at henabled
      refine h.keep rfl fun other _ => ?_
      rw [henabled.1.2]
      rfl
  | beginHandler | endHandler | beginCheck | resetStopping | returnRun =>
      exact h.keep rfl fun _ => id

/-- Between the parts of `startThread` a manager has no thread. -/
def Discarded (s : State) : Prop :=
  ∀ manager, s.turn = .startThread manager .reset ∨ s.turn = .startThread manager .create →
    s.threads manager = .null

theorem Discarded.ofTurn
    (hturn : ∀ manager, t.turn ≠ .startThread manager .reset ∧
      t.turn ≠ .startThread manager .create) : Discarded t := by
  rintro manager (hreset | hcreate)
  · exact absurd hreset (hturn manager).1
  · exact absurd hcreate (hturn manager).2

/-- The connection's thread stays where it is, and no thread appears. -/
theorem Discarded.keep (h : Discarded s) (hturn : t.turn = s.turn)
    (hthreads : ∀ other, s.threads other = .null → t.threads other = .null) : Discarded t := by
  intro other hother
  rw [hturn] at hother
  exact hthreads other (h other hother)

/-- A thread that is there is changed. -/
theorem Discarded.change (h : Discarded s) {thread : ThreadState} (hturn : t.turn = s.turn)
    (hthread : s.threads manager ≠ .null)
    (hthreads : t.threads = Function.update s.threads manager thread) : Discarded t := by
  refine h.keep hturn fun other hnull => ?_
  have hne : other ≠ manager := by
    rintro rfl
    exact hthread hnull
  rw [hthreads, Function.update_of_ne hne]
  exact hnull

theorem Discarded.discardThread (h : Discarded s) (manager : Manager) :
    Discarded (s.discardThread manager) := by
  have hcleared : Discarded { s with
      threads := Function.update s.threads manager .null
      turn := .startThread manager .reset } := by
    rintro other (hreset | hcreate)
    · obtain ⟨rfl, -⟩ := Turn.startThread.inj hreset
      exact Function.update_self ..
    · cases hcreate
  unfold State.discardThread
  split
  · exact h.keep rfl fun _ => id
  · exact h.keep rfl fun _ => id
  · exact hcleared
  · exact hcleared

theorem Discarded.deleteThread (h : Discarded s) (manager : Manager) :
    Discarded (s.deleteThread manager) := by
  have hcleared : ∀ other, s.threads other = .null →
      Function.update s.threads manager ThreadState.null other = .null := by
    intro other hnull
    by_cases hsame : other = manager
    · rw [hsame, Function.update_self]
    · rw [Function.update_of_ne hsame, hnull]
  unfold State.deleteThread
  split
  · exact h.keep rfl fun _ => id
  · exact h.keep rfl fun _ => id
  · exact h.keep rfl hcleared
  · exact h.keep rfl hcleared

theorem Discarded.next (h : Discarded s) (henabled : enabled authenticationOmit s label = true) :
    Discarded (next authenticationOmit s label) := by
  cases label with
  | connect =>
      simp only [StopConnection.next, State.onConnected]
      split
      · exact .ofTurn fun manager => by simp [State.onAuthorized]
      · exact h.keep rfl fun _ => id
  | endCheck valid =>
      simp only [StopConnection.next]
      split <;> exact .ofTurn fun manager => by simp [State.onAuthorized]
  | discardThread manager => exact h.discardThread manager
  | resetStopping manager =>
      simp only [enabled, Bool.and_eq_true, beq_iff_eq] at henabled
      rintro other (hreset | hcreate)
      · cases hreset
      · obtain ⟨rfl, -⟩ := Turn.startThread.inj hcreate
        exact h manager (.inl henabled.2)
  | createThread manager spawned =>
      exact .ofTurn fun other => by
        cases manager <;> simp [StopConnection.next, State.createThread, Turn.after]
  | finish manager =>
      simp only [enabled, Bool.and_eq_true, beq_iff_eq] at henabled
      exact h.change rfl (by simp [henabled.1.2]) rfl
  | joinThread manager =>
      simp only [enabled, Bool.and_eq_true, beq_iff_eq] at henabled
      exact h.change rfl (by simp [henabled.2]) rfl
  | deleteThread manager => exact h.deleteThread manager
  | stop | stopThread | checkThread | joinConnection => exact h.keep rfl fun _ => id
  | beginHandler | endHandler | beginCheck | returnRun =>
      exact .ofTurn fun manager => by simp [StopConnection.next]

/-- `stopConnectionInternal` never comes back to a manager. -/
theorem passed_next (h : s.stopper.passed manager = true)
    (henabled : enabled authenticationOmit s label = true) :
    (next authenticationOmit s label).stopper.passed manager = true := by
  cases label with
  | connect =>
      simp only [next, State.onConnected]
      split <;> exact h
  | endCheck valid =>
      simp only [next]
      split <;> exact h
  | discardThread other =>
      simp only [next, State.discardThread]
      split <;> exact h
  | stop =>
      simp only [enabled, Bool.and_eq_true, beq_iff_eq] at henabled
      rw [henabled.2] at h
      cases h
  | stopThread other =>
      simp only [enabled, Bool.and_eq_true, beq_iff_eq] at henabled
      rw [henabled.2] at h
      exact h
  | checkThread other =>
      simp only [enabled, Bool.and_eq_true, beq_iff_eq] at henabled
      rw [henabled.2] at h
      simp only [next, State.checkThread]
      split
      · exact Stopper.passed_after.mpr (.inr h)
      · exact h
  | joinThread other =>
      simp only [enabled, Bool.and_eq_true, beq_iff_eq] at henabled
      rw [henabled.1.2] at h
      exact h
  | deleteThread other =>
      simp only [enabled, Bool.and_eq_true, beq_iff_eq] at henabled
      simp only [next, State.deleteThread]
      rw [henabled.2] at h
      split
      · rwa [henabled.2]
      · rwa [henabled.2]
      · exact Stopper.passed_after.mpr (.inr h)
      · exact Stopper.passed_after.mpr (.inr h)
  | joinConnection => rfl
  | beginHandler | endHandler | beginCheck | resetStopping | createThread | returnRun | finish =>
      exact h

/-- A thread of a manager that `stopConnectionInternal` is done with. -/
structure Left (manager : Manager) (s : State) : Prop where
  discarded : Discarded s
  passed : s.stopper.passed manager = true
  thread : s.threads manager = .running ∨ s.threads manager = .finished

theorem Left.thread_next (h : Left manager s)
    (henabled : enabled authenticationOmit s label = true) :
    (next authenticationOmit s label).threads manager = .running ∨
      (next authenticationOmit s label).threads manager = .finished := by
  have hnotNull : s.threads manager ≠ .null := by
    rcases h.thread with hrunning | hfinished
    · simp [hrunning]
    · simp [hfinished]
  have hother : ∀ {other : Manager} {thread : ThreadState}, other ≠ manager →
      Function.update s.threads other thread manager = .running ∨
        Function.update s.threads other thread manager = .finished := by
    intro other thread hne
    rw [Function.update_of_ne (Ne.symm hne)]
    exact h.thread
  have hnotPassed : ∀ step, s.stopper ≠ .joinThread manager step := by
    intro step hstopper
    have hpassed := h.passed
    rw [hstopper, Stopper.not_passed_self] at hpassed
    cases hpassed
  cases label with
  | connect =>
      simp only [next, State.onConnected]
      split <;> exact h.thread
  | endCheck valid =>
      simp only [next]
      split <;> exact h.thread
  | discardThread other =>
      by_cases hsame : other = manager
      · subst hsame
        simp only [next, State.discardThread]
        rcases h.thread with hthread | hthread <;> simp [hthread]
      · simp only [next, State.discardThread]
        split
        · exact h.thread
        · exact h.thread
        · exact hother hsame
        · exact hother hsame
  | createThread other spawned =>
      simp only [enabled, Bool.and_eq_true, beq_iff_eq] at henabled
      apply hother
      rintro rfl
      exact hnotNull (h.discarded other (.inr henabled.2))
  | finish other =>
      by_cases hsame : other = manager
      · subst hsame
        exact .inr (Function.update_self ..)
      · exact hother hsame
  | joinThread other =>
      simp only [enabled, Bool.and_eq_true, beq_iff_eq] at henabled
      apply hother
      rintro rfl
      exact hnotPassed _ henabled.1.2
  | deleteThread other =>
      simp only [enabled, Bool.and_eq_true, beq_iff_eq] at henabled
      have hne : other ≠ manager := by
        rintro rfl
        exact hnotPassed _ henabled.2
      simp only [next, State.deleteThread]
      split
      · exact h.thread
      · exact h.thread
      · exact hother hne
      · exact hother hne
  | beginHandler | endHandler | beginCheck | resetStopping | returnRun | stop | stopThread
  | checkThread | joinConnection => exact h.thread

theorem Left.next (h : Left manager s) (henabled : enabled authenticationOmit s label = true) :
    Left manager (next authenticationOmit s label) where
  discarded := h.discarded.next henabled
  passed := passed_next h.passed henabled
  thread := h.thread_next henabled

theorem discarded_of_reachable {ok : State → Label → Prop}
    (h : (connection authenticationOmit).ReachableWith ok s) : Discarded s :=
  h.invariant Discarded (.ofTurn fun manager => by simp [connection, State.start])
    (fun _ _ hinv henabled _ => hinv.next henabled)

/-- The runs that go on from a state. -/
def connectionFrom (authenticationOmit : Bool) (s : State) : Machine State Label :=
  { connection authenticationOmit with start := s }

/-- As long as no manager's thread is created after `stopConnectionInternal` is
done with the manager, no thread is left when it has returned; a thread that is
created later is never joined. -/
theorem stopConnectionInternal_stops (authenticationOmit : Bool) (s : State)
    (h : (connection authenticationOmit).ReachableWith StartsInTime s) :
    (s.stopper = .returned → ∀ manager, s.threads manager = .null) ∧
      ∀ label, (connection authenticationOmit).enabled s label = true →
        ¬ StartsInTime s label → ∃ manager, ∀ t,
          (connectionFrom authenticationOmit
            ((connection authenticationOmit).next s label)).Reachable t →
          t.threads manager = .running ∨ t.threads manager = .finished := by
  have hstopped : Stopped s :=
    h.invariant Stopped .start (fun _ _ hinv henabled hok => hinv.next henabled hok)
  refine ⟨fun hreturned manager => hstopped manager (by rw [hreturned]; rfl), ?_⟩
  intro label henabled hlate
  cases label with
  | createThread manager spawned =>
      cases spawned with
      | false => exact absurd trivial hlate
      | true =>
          refine ⟨manager, fun t ht => ?_⟩
          have hleft : Left manager (next authenticationOmit s (.createThread manager true)) := by
            have hpassed : s.stopper.passed manager = true := by
              simpa [StartsInTime] using hlate
            exact ⟨(discarded_of_reachable h).next henabled, hpassed,
              .inl (Function.update_self ..)⟩
          exact (ht.invariant (Left manager) hleft
            (fun _ _ hinv henabled _ => hinv.next henabled)).thread
  | _ => exact absurd trivial hlate

/-- The connection is authorized, the managers run, and it is stopped. -/
def stoppedInTime : List Label :=
  [.connect, .beginCheck, .endCheck true, .discardThread .publisherManager,
    .resetStopping .publisherManager, .createThread .publisherManager true,
    .discardThread .subscriberManager, .resetStopping .subscriberManager,
    .createThread .subscriberManager true, .discardThread .serviceActionManager,
    .resetStopping .serviceActionManager, .createThread .serviceActionManager true, .endHandler,
    .stop, .stopThread .publisherManager, .checkThread .publisherManager,
    .finish .publisherManager, .joinThread .publisherManager, .deleteThread .publisherManager,
    .stopThread .subscriberManager, .checkThread .subscriberManager, .finish .subscriberManager,
    .joinThread .subscriberManager, .deleteThread .subscriberManager,
    .stopThread .serviceActionManager, .checkThread .serviceActionManager,
    .finish .serviceActionManager, .joinThread .serviceActionManager,
    .deleteThread .serviceActionManager, .returnRun, .joinConnection]

theorem stopConnectionInternal_stops_authorized : ∃ s : State, s.stopper = .returned ∧
    s.connected = true ∧ ∀ manager, s.threads manager = .null := by
  have hrun : ∃ s, (connection false).ReachableWith StartsInTime s ∧
      s.stopper = .returned ∧ s.connected = true :=
    Machine.ReachableWith.exists_replay (fun _ _ h => h)
      (fun s : State => s.stopper = .returned ∧ s.connected = true) .start stoppedInTime
      (by decide)
  obtain ⟨s, hreach, hreturned, hconnected⟩ := hrun
  exact ⟨s, hreturned, hconnected,
    (stopConnectionInternal_stops false s hreach).1 hreturned⟩

/-- A user key is checked while the managers are stopped, and is then found to
be valid. -/
theorem stopConnectionInternal_leaves_thread :
    ∃ s : State, (connection false).Reachable s ∧ s.stopper = .returned ∧
      s.threads .publisherManager = .running :=
  Machine.exists_reachable
    (fun s : State => s.stopper = .returned ∧ s.threads .publisherManager = .running)
    [.connect, .beginCheck, .stop, .stopThread .publisherManager, .checkThread .publisherManager,
      .stopThread .subscriberManager, .checkThread .subscriberManager,
      .stopThread .serviceActionManager, .checkThread .serviceActionManager, .endCheck true,
      .discardThread .publisherManager, .resetStopping .publisherManager,
      .createThread .publisherManager true, .discardThread .subscriberManager,
      .resetStopping .subscriberManager, .createThread .subscriberManager false,
      .discardThread .serviceActionManager, .resetStopping .serviceActionManager,
      .createThread .serviceActionManager false, .endHandler, .returnRun, .joinConnection]
    (by decide)

end StopConnection

end Ros2Connect
