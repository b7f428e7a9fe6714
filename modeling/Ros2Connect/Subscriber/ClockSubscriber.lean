import Ros2Connect.Lib.Transition

/-!
`ClockSubscriber` between two threads: the one that serves a SUBSCRIPTION
message by `start` or `stop`, and the one whose `io_context` executes the
handlers of the timer. `expires_after` and `cancel` complete every pending wait,
whose handlers run later and do not look at their error code.
-/

namespace Ros2Connect

open Lib

namespace ClockSubscriber

/-- The period of the timer, in the unit of its clock. -/
def period : Nat := 10000000

/-- The parts of `restartTimer`. -/
inductive Restart where
  | expiresAfter
  | asyncWait
  deriving Repr, DecidableEq

/-- Where the thread that calls `start` and `stop` is. -/
inductive Caller where
  | idle
  | starting (step : Restart)
  | cancelling
  deriving Repr, DecidableEq

/-- Where the thread that executes the handlers is. -/
inductive Handler where
  | idle
  /-- Called for a wait that expired or was aborted. -/
  | entered (aborted : Bool)
  | sent
  | restarting (step : Restart)
  deriving Repr, DecidableEq

/-- A clock message, sent by the handler of an expired or of an aborted wait. -/
structure Clock where
  time : Nat
  aborted : Bool
  deriving Repr, DecidableEq

structure State where
  now : Nat
  timerRunning : Bool
  expiry : Nat
  /-- The waits for the timer. -/
  pending : Nat
  /-- The handlers of completed waits, in the order in which they run; true for
  those of aborted ones. -/
  queued : List Bool
  caller : Caller
  handler : Handler
  sent : List Clock
  deriving Repr, DecidableEq

inductive Label where
  | elapse (duration : Nat)
  | expire
  | start
  | stop
  | startExpiresAfter
  | startAsyncWait
  | cancel
  | enterHandler
  | sendClock
  | checkTimerRunning
  | restartExpiresAfter
  | restartAsyncWait
  deriving Repr, DecidableEq

namespace State

def start : State where
  now := 0
  timerRunning := false
  expiry := 0
  pending := 0
  queued := []
  caller := .idle
  handler := .idle
  sent := []

/-- The pending waits are completed with `operation_aborted`. -/
def abort (s : State) : State :=
  { s with pending := 0, queued := s.queued ++ List.replicate s.pending true }

def expiresAfter (s : State) : State :=
  { s.abort with expiry := s.now + period }

def asyncWait (s : State) : State :=
  { s with pending := s.pending + 1 }

/-- The next handler is called. -/
def enterHandler (s : State) : State :=
  match s.queued with
  | [] => s
  | aborted :: rest => { s with queued := rest, handler := .entered aborted }

/-- The handler sends whatever its wait has ended with. -/
def sendClock (s : State) : State :=
  match s.handler with
  | .entered aborted => { s with handler := .sent, sent := s.sent ++ [⟨s.now, aborted⟩] }
  | _ => s

end State

def enabled (s : State) : Label → Bool
  | .elapse _ => true
  | .expire => decide (0 < s.pending) && decide (s.expiry ≤ s.now)
  | .start => s.caller == .idle
  | .stop => s.caller == .idle
  | .startExpiresAfter => s.caller == .starting .expiresAfter
  | .startAsyncWait => s.caller == .starting .asyncWait
  | .cancel => s.caller == .cancelling
  | .enterHandler => s.handler == .idle && s.queued != []
  | .sendClock => s.handler == .entered true || s.handler == .entered false
  | .checkTimerRunning => s.handler == .sent
  | .restartExpiresAfter => s.handler == .restarting .expiresAfter
  | .restartAsyncWait => s.handler == .restarting .asyncWait

def next (s : State) : Label → State
  | .elapse duration => { s with now := s.now + duration }
  | .expire => { s with pending := s.pending - 1, queued := s.queued ++ [false] }
  | .start => { s with timerRunning := true, caller := .starting .expiresAfter }
  | .stop => { s with timerRunning := false, caller := .cancelling }
  | .startExpiresAfter => { s.expiresAfter with caller := .starting .asyncWait }
  | .startAsyncWait => { s.asyncWait with caller := .idle }
  | .cancel => { s.abort with caller := .idle }
  | .enterHandler => s.enterHandler
  | .sendClock => s.sendClock
  | .checkTimerRunning =>
      { s with handler := if s.timerRunning then .restarting .expiresAfter else .idle }
  | .restartExpiresAfter => { s.expiresAfter with handler := .restarting .asyncWait }
  | .restartAsyncWait => { s.asyncWait with handler := .idle }

def machine : Machine State Label where
  start := .start
  enabled := enabled
  next := next

/-- At most one wait or handler is outstanding, and every clock message was sent
for a wait that expired, one period after the one before. -/
structure Paced (s : State) : Prop where
  outstanding : s.pending + s.queued.length ≤ 1
  expired : ∀ clock ∈ s.sent, clock.aborted = false
  spaced : s.sent.Pairwise fun first second => first.time + period ≤ second.time

/-- `start` finds no wait and no handler, queued or running, and `stop` no wait
to abort. -/
def Unhindered (s : State) : Label → Prop
  | .start => s.pending = 0 ∧ s.queued = [] ∧ s.handler = .idle
  | .cancel => s.pending = 0
  | _ => True

def Caller.held : Caller → Nat
  | .starting _ => 1
  | _ => 0

def Handler.held : Handler → Nat
  | .idle => 0
  | _ => 1

/-- A wait is pending or about to be. -/
def Armed (s : State) : Prop :=
  0 < s.pending ∨ s.caller = .starting .asyncWait ∨ s.handler = .restarting .asyncWait

/-- A handler is queued or about to send. -/
def Due (s : State) : Prop :=
  s.queued ≠ [] ∨ ∃ aborted, s.handler = .entered aborted

/-- One chain of waits and handlers, at one place at a time. -/
structure Chain (s : State) : Prop where
  one : s.pending + s.queued.length + s.caller.held + s.handler.held ≤ 1
  queued : ∀ aborted ∈ s.queued, aborted = false
  entered : s.handler ≠ .entered true
  sent : ∀ clock ∈ s.sent, clock.aborted = false ∧ clock.time ≤ s.now
  spaced : s.sent.Pairwise fun first second => first.time + period ≤ second.time
  armed : Armed s → ∀ clock ∈ s.sent, clock.time + period ≤ s.expiry
  due : Due s → ∀ clock ∈ s.sent, clock.time + period ≤ s.now

theorem Chain.start : Chain State.start where
  one := by decide
  queued := by simp [State.start]
  entered := by decide
  sent := by simp [State.start]
  spaced := List.Pairwise.nil
  armed := by simp [State.start]
  due := by simp [State.start]

variable {s : State}

theorem Chain.paced (h : Chain s) : Paced s where
  outstanding := by
    have hone := h.one
    omega
  expired clock hclock := (h.sent clock hclock).1
  spaced := h.spaced

/-- Where no wait is pending nothing is aborted. -/
theorem State.abort_of_pending (h : s.pending = 0) : s.abort = s := by
  cases s
  cases h
  simp [State.abort]

theorem Chain.elapse (h : Chain s) (duration : Nat) :
    Chain { s with now := s.now + duration } where
  one := h.one
  queued := h.queued
  entered := h.entered
  sent clock hclock := ⟨(h.sent clock hclock).1, Nat.le_add_right_of_le (h.sent clock hclock).2⟩
  spaced := h.spaced
  armed := h.armed
  due hdue clock hclock := Nat.le_add_right_of_le (h.due hdue clock hclock)

/-- A wait that expires was armed a period after the last message. -/
theorem Chain.expire (h : Chain s) (hpending : 0 < s.pending) (hexpired : s.expiry ≤ s.now) :
    Chain { s with pending := s.pending - 1, queued := s.queued ++ [false] } where
  one := by
    have hone := h.one
    simp only [List.length_append, List.length_singleton]
    omega
  queued := by
    intro aborted haborted
    rcases List.mem_append.mp haborted with hold | hnew
    · exact h.queued aborted hold
    · exact List.mem_singleton.mp hnew
  entered := h.entered
  sent := h.sent
  spaced := h.spaced
  armed _ := h.armed (Or.inl hpending)
  due _ clock hclock := Nat.le_trans (h.armed (Or.inl hpending) clock hclock) hexpired

/-- A call that finds nothing outstanding begins the chain. -/
theorem Chain.begin (h : Chain s)
    (hnone : s.pending = 0 ∧ s.queued = [] ∧ s.handler = .idle) :
    Chain { s with timerRunning := true, caller := .starting .expiresAfter } where
  one := by simp [hnone, Caller.held, Handler.held]
  queued := h.queued
  entered := h.entered
  sent := h.sent
  spaced := h.spaced
  armed := by simp [Armed, hnone]
  due := by simp [Due, hnone]

theorem Chain.stop (h : Chain s) (hcaller : s.caller = .idle) :
    Chain { s with timerRunning := false, caller := .cancelling } where
  one := by simpa [hcaller, Caller.held] using h.one
  queued := h.queued
  entered := h.entered
  sent := h.sent
  spaced := h.spaced
  armed harmed := h.armed (by simpa [Armed, hcaller] using harmed)
  due := h.due

theorem Chain.cancel (h : Chain s) (hcaller : s.caller = .cancelling) (hpending : s.pending = 0) :
    Chain { s.abort with caller := .idle } := by
  rw [State.abort_of_pending hpending]
  exact {
    one := by simpa [hcaller, Caller.held] using h.one
    queued := h.queued
    entered := h.entered
    sent := h.sent
    spaced := h.spaced
    armed := fun harmed => h.armed (by simpa [Armed, hcaller] using harmed)
    due := h.due }

/-- The thread that restarts the timer has the chain to itself. -/
theorem Chain.alone (h : Chain s)
    (hheld : s.caller = .starting .expiresAfter ∨ s.handler = .restarting .expiresAfter) :
    s.pending = 0 ∧ s.queued = [] ∧ ∀ aborted, s.handler ≠ .entered aborted := by
  have hone := h.one
  rcases hheld with hcaller | hhandler
  · simp only [hcaller, Caller.held] at hone
    refine ⟨by omega, List.eq_nil_of_length_eq_zero (by omega), fun aborted hentered => ?_⟩
    simp only [hentered, Handler.held] at hone
    omega
  · simp only [hhandler, Handler.held] at hone
    refine ⟨by omega, List.eq_nil_of_length_eq_zero (by omega), ?_⟩
    simp [hhandler]

/-- The new expiry is a period after everything sent so far. -/
theorem Chain.expiresAfter (h : Chain s) {caller : Caller} {handler : Handler}
    (hheld : s.caller = .starting .expiresAfter ∨ s.handler = .restarting .expiresAfter)
    (hcaller : caller.held = s.caller.held) (hhandler : handler.held = s.handler.held)
    (hentered : ∀ aborted, handler = .entered aborted → s.handler = .entered aborted) :
    Chain { s.expiresAfter with caller := caller, handler := handler } := by
  obtain ⟨hpending, hqueued, hnot⟩ := h.alone hheld
  unfold State.expiresAfter
  rw [State.abort_of_pending hpending]
  exact {
    one := by
      have hone := h.one
      simp only [hcaller, hhandler]
      exact hone
    queued := h.queued
    entered := fun heq => hnot true (hentered true heq)
    sent := h.sent
    spaced := h.spaced
    armed := fun _ clock hclock => Nat.add_le_add_right (h.sent clock hclock).2 period
    due := by
      rintro (hdue | ⟨aborted, hdue⟩)
      · exact absurd hqueued hdue
      · exact absurd (hentered aborted hdue) (hnot aborted) }

/-- The wait takes the chain over from the thread that has restarted the
timer. -/
theorem Chain.asyncWait (h : Chain s) {caller : Caller} {handler : Handler}
    (harmed : Armed s)
    (hheld : caller.held + handler.held + 1 = s.caller.held + s.handler.held)
    (hentered : ∀ aborted, handler = .entered aborted → s.handler = .entered aborted) :
    Chain { s.asyncWait with caller := caller, handler := handler } where
  one := by
    have hone := h.one
    simp only [State.asyncWait]
    omega
  queued := h.queued
  entered heq := h.entered (hentered true heq)
  sent := h.sent
  spaced := h.spaced
  armed _ := h.armed harmed
  due := by
    rintro (hdue | ⟨aborted, hdue⟩)
    · exact h.due (Or.inl hdue)
    · exact h.due (Or.inr ⟨aborted, hentered aborted hdue⟩)

theorem Chain.enterHandler (h : Chain s) (hhandler : s.handler = .idle) :
    Chain s.enterHandler := by
  unfold State.enterHandler
  split
  · exact h
  next aborted rest hqueued =>
    have hdue : Due s := Or.inl (by simp [hqueued])
    have haborted : aborted = false := h.queued aborted (by simp [hqueued])
    exact {
      one := by
        have hone := h.one
        simp only [hqueued, hhandler, List.length_cons, Handler.held] at hone ⊢
        omega
      queued := fun other hother => h.queued other (hqueued ▸ List.mem_cons_of_mem _ hother)
      entered := by simp [haborted]
      sent := h.sent
      spaced := h.spaced
      armed := fun harmed => h.armed (by simpa [Armed, hhandler] using harmed)
      due := fun _ => h.due hdue }

/-- The handler of an expired wait sends a period after the last message. -/
theorem Chain.sendClock (h : Chain s) : Chain s.sendClock := by
  unfold State.sendClock
  split
  next aborted hhandler =>
    have hdue := h.due (Or.inr ⟨aborted, hhandler⟩)
    have haborted : aborted = false := by
      cases aborted with
      | false => rfl
      | true => exact absurd hhandler h.entered
    have hone := h.one
    simp only [hhandler, Handler.held] at hone
    exact {
      one := hone
      queued := h.queued
      entered := by simp
      sent := by
        intro clock hclock
        rcases List.mem_append.mp hclock with hold | hnew
        · exact h.sent clock hold
        · rw [List.mem_singleton.mp hnew]
          exact ⟨haborted, Nat.le_refl _⟩
      spaced := by
        refine List.pairwise_append.mpr ⟨h.spaced, List.pairwise_singleton _ _, ?_⟩
        intro first hfirst second hsecond
        rw [List.mem_singleton.mp hsecond]
        exact hdue first hfirst
      armed := by
        rintro (harmed | harmed | harmed)
        · have hpending : 0 < s.pending := harmed
          omega
        · have hcaller : s.caller = .starting .asyncWait := harmed
          simp only [hcaller, Caller.held] at hone
          omega
        · cases harmed
      due := by
        rintro (hqueued | ⟨_, hentered⟩)
        · have hnone : s.queued = [] := List.eq_nil_of_length_eq_zero (by omega)
          exact absurd hnone hqueued
        · cases hentered }
  next => exact h

theorem Chain.checkTimerRunning (h : Chain s) (hhandler : s.handler = .sent) :
    Chain { s with handler := if s.timerRunning then .restarting .expiresAfter else .idle } := by
  have hone := h.one
  simp only [hhandler, Handler.held] at hone
  split
  · exact {
      one := hone
      queued := h.queued
      entered := by simp
      sent := h.sent
      spaced := h.spaced
      armed := fun harmed => h.armed (by simpa [Armed, hhandler] using harmed)
      due := fun hdue => h.due (by simpa [Due, hhandler] using hdue) }
  · exact {
      one := by
        simp only [Handler.held]
        omega
      queued := h.queued
      entered := by simp
      sent := h.sent
      spaced := h.spaced
      armed := fun harmed => h.armed (by simpa [Armed, hhandler] using harmed)
      due := fun hdue => h.due (by simpa [Due, hhandler] using hdue) }

theorem Chain.next (h : Chain s) {label : Label} (henabled : enabled s label = true)
    (hunhindered : Unhindered s label) : Chain (next s label) := by
  cases label with
  | elapse duration => exact h.elapse duration
  | expire =>
      simp only [enabled, Bool.and_eq_true, decide_eq_true_eq] at henabled
      exact h.expire henabled.1 henabled.2
  | start => exact h.begin hunhindered
  | stop => exact h.stop (by simpa [enabled] using henabled)
  | startExpiresAfter =>
      have hcaller : s.caller = .starting .expiresAfter := by simpa [enabled] using henabled
      exact h.expiresAfter (Or.inl hcaller) (by rw [hcaller]; rfl) rfl fun _ heq => heq
  | startAsyncWait =>
      have hcaller : s.caller = .starting .asyncWait := by simpa [enabled] using henabled
      have hheld : Caller.idle.held + s.handler.held + 1 = s.caller.held + s.handler.held := by
        simp only [hcaller, Caller.held]
        omega
      exact h.asyncWait (Or.inr (Or.inl hcaller)) hheld fun _ heq => heq
  | cancel => exact h.cancel (by simpa [enabled] using henabled) hunhindered
  | enterHandler =>
      simp only [enabled, Bool.and_eq_true, beq_iff_eq] at henabled
      exact h.enterHandler henabled.1
  | sendClock => exact h.sendClock
  | checkTimerRunning => exact h.checkTimerRunning (by simpa [enabled] using henabled)
  | restartExpiresAfter =>
      have hhandler : s.handler = .restarting .expiresAfter := by simpa [enabled] using henabled
      apply h.expiresAfter (Or.inr hhandler) rfl (by rw [hhandler]; rfl)
      simp
  | restartAsyncWait =>
      have hhandler : s.handler = .restarting .asyncWait := by simpa [enabled] using henabled
      have hheld : s.caller.held + Handler.idle.held + 1 = s.caller.held + s.handler.held := by
        simp only [hhandler, Handler.held]
      exact h.asyncWait (Or.inr (Or.inr hhandler)) hheld (by simp)

/-- In every run in which `start` finds nothing outstanding and `stop` no wait
to abort, one chain of waits sends the clock at the pace of the timer. -/
theorem restartTimer_paced {s : State} (h : machine.ReachableWith Unhindered s) : Paced s :=
  (h.invariant Chain .start fun _ _ hs henabled hunhindered =>
    hs.next henabled hunhindered).paced

instance (s : State) : DecidablePred (Unhindered s)
  | .start => inferInstanceAs (Decidable (s.pending = 0 ∧ s.queued = [] ∧ s.handler = .idle))
  | .cancel => inferInstanceAs (Decidable (s.pending = 0))
  | .elapse _ | .expire | .stop | .startExpiresAfter | .startAsyncWait | .enterHandler
  | .sendClock | .checkTimerRunning | .restartExpiresAfter | .restartAsyncWait => .isTrue trivial

/-- The timer expires twice, and is stopped between its handler and the next
wait. -/
theorem restartTimer_paced_twice : ∃ s : State,
    s.sent = [⟨10000000, false⟩, ⟨20000000, false⟩] ∧ Paced s := by
  have hrun : ∃ s, machine.ReachableWith Unhindered s ∧
      s.sent = [⟨10000000, false⟩, ⟨20000000, false⟩] :=
    Machine.ReachableWith.exists_replay (fun _ _ h => h)
      (fun s : State => s.sent = [⟨10000000, false⟩, ⟨20000000, false⟩]) .start
      [.start, .startExpiresAfter, .startAsyncWait, .elapse 10000000, .expire, .enterHandler,
        .sendClock, .checkTimerRunning, .restartExpiresAfter, .restartAsyncWait,
        .elapse 10000000, .expire, .stop, .cancel, .enterHandler, .sendClock,
        .checkTimerRunning] (by decide)
  obtain ⟨s, hs, hsent⟩ := hrun
  exact ⟨s, hsent, restartTimer_paced hs⟩

/-- A second `start` leaves the handler of the first wait, which it aborts,
beside the new wait. -/
theorem restartTimer_doubles : ¬ ∀ s : State, machine.Reachable s → Paced s := by
  intro hall
  have hrun : ∃ s, machine.Reachable s ∧ 2 ≤ s.pending + s.queued.length :=
    Machine.exists_reachable (fun s : State => 2 ≤ s.pending + s.queued.length)
      [.start, .startExpiresAfter, .startAsyncWait, .start, .startExpiresAfter,
        .startAsyncWait] (by decide)
  obtain ⟨s, hs, houtstanding⟩ := hrun
  have honce := (hall s hs).outstanding
  omega

end ClockSubscriber

end Ros2Connect
