import Ros2Connect.Lib.Monitor
import Ros2Connect.Lib.Transition

/-!
The threads that wait without a time limit: the `run` loops of the managers and
of `ThreadedSubscriber`, `executeRemove`, and the loops of the handles. They are
the same hand-off written nine times: a queue under a mutex, a predicate that is
true when the queue is not empty or a flag is set, and functions that set the
flag without the mutex and then call `notify_all`. A predicate reads its flags one
after another, and other threads may run between the reads.
-/

namespace Ros2Connect

open Lib

namespace WaitLoop

/-- `stopping` of the `Thread`, `Service` or `Action`, `done` of the handle. -/
inductive Flag where
  | stopping
  | done
  deriving Repr, DecidableEq

/-- The functions that set a flag without the mutex of the wait and notify then. -/
inductive Notifier where
  | stopThread
  | stop
  | sendAndDone
  | cancelAccepted
  | goalRejected
  | resultSucceeded
  | resultCanceled
  | resultAborted
  deriving Repr, DecidableEq

def Notifier.sets : Notifier → Flag
  | stopThread | stop => .stopping
  | sendAndDone | cancelAccepted | goalRejected | resultSucceeded | resultCanceled
  | resultAborted => .done

/-- How the handling of one element of the queue ends. -/
inductive Outcome where
  | again
  /-- `executeGoal` gave up: `done` is set, and the next wait finds it. -/
  | failed
  /-- A cancel request is put back while the goal is not answered. -/
  | requeue
  /-- `done` is set and the function returns. -/
  | finished
  deriving Repr, DecidableEq

end WaitLoop

open WaitLoop in
/-- What the loops differ in. -/
structure WaitLoop where
  /-- The body is that of `while (!this->stopping)`. -/
  repeats : Bool
  /-- The flags the predicate reads after `!queue.empty()`, in their order. -/
  reads : List Flag
  /-- The flags tested after the wait, in their order. -/
  exits : List Flag
  /-- The element is popped and the mutex released before it is handled. -/
  pops : Bool
  outcomes : List Outcome
  notifiers : List Notifier
  /-- Every flag that is set is one the predicate reads. -/
  covers : ∀ i ∈ notifiers, i.sets ∈ reads

namespace WaitLoop

/-- The loop that handles its queue until it is stopped. -/
def untilStopping (notifier : Notifier) (h : notifier.sets = .stopping) : WaitLoop where
  repeats := true
  reads := [.stopping]
  exits := [.stopping]
  pops := true
  outcomes := [.again]
  notifiers := [notifier]
  covers := by simp [h]

def publisherManagerRun : WaitLoop := untilStopping .stopThread rfl

def subscriberManagerRun : WaitLoop := untilStopping .stopThread rfl

def serviceActionManagerRun : WaitLoop := untilStopping .stopThread rfl

def threadedSubscriberRun : WaitLoop := untilStopping .stopThread rfl

def serviceExecuteRemove : WaitLoop := untilStopping .stop rfl

def actionExecuteRemove : WaitLoop := untilStopping .stop rfl

/-- It waits once, keeps the mutex to the end and leaves the cancel request in the
queue. -/
def serviceClientExecuteHandle : WaitLoop where
  repeats := false
  reads := [.done, .stopping]
  exits := [.done, .stopping]
  pops := false
  outcomes := [.finished]
  notifiers := [.stop, .sendAndDone]
  covers := by decide

def actionClientExecuteHandle : WaitLoop where
  repeats := true
  reads := [.done, .stopping]
  exits := [.stopping, .done]
  pops := true
  outcomes := [.again, .failed, .requeue]
  notifiers := [.stop, .cancelAccepted, .goalRejected, .resultSucceeded, .resultCanceled,
    .resultAborted]
  covers := by decide

/-- `done` is set by the thread itself only, and needs no notification. -/
def actionServerExecuteAccepted : WaitLoop where
  repeats := true
  reads := [.done, .stopping]
  exits := [.stopping, .done]
  pops := true
  outcomes := [.again, .finished]
  notifiers := [.stop]
  covers := by decide

def waitLoops : List WaitLoop :=
  [publisherManagerRun, subscriberManagerRun, serviceActionManagerRun, threadedSubscriberRun,
    serviceExecuteRemove, actionExecuteRemove, serviceClientExecuteHandle,
    actionClientExecuteHandle, actionServerExecuteAccepted]

/-- Where the thread is. -/
inductive Position (μ : Type) where
  | head
  /-- From the lock before the wait to the return of the wait. -/
  | waiting
  | exits (rest : List Flag)
  | take
  | handling (x : μ)
  | leaving
  | ended
  deriving Repr, DecidableEq

structure State (μ : Type) where
  monitor : Monitor Flag Notifier μ
  position : Position μ

inductive Label (μ : Type) where
  | head
  | lock
  | test
  | read
  | block
  | returned
  | exit
  | take
  | handled (outcome : Outcome)
  | leave
  /-- `wait` may wake up with no notification. -/
  | spurious
  | set (notifier : Notifier)
  | notify (notifier : Notifier)
  /-- A `notify_all` that follows no flag, such as that of `goalAccepted` or of
  `executeRemove`. -/
  | notifyAll
  | pushLock
  | push (x : μ)
  | pushNotify
  | pushUnlock
  deriving Repr, DecidableEq

variable {μ : Type} (loop : WaitLoop)

def State.inWait (s : State μ) : Bool :=
  match s.position with
  | .waiting => true
  | _ => false

def enabled (s : State μ) : Label μ → Bool
  | .head => match s.position with
    | .head => true
    | _ => false
  | .lock => s.inWait && (s.monitor.waiter == .outside || s.monitor.waiter == .woken) &&
      s.monitor.mutex == .free
  | .test => s.inWait && s.monitor.waiter == .testing
  | .read => s.inWait && match s.monitor.waiter with
    | .reading (_ :: _) => true
    | _ => false
  | .block => s.inWait && s.monitor.waiter == .reading []
  | .returned => s.inWait && s.monitor.waiter == .inside
  | .exit => match s.position with
    | .exits _ => true
    | _ => false
  | .take => match s.position with
    | .take => true
    | _ => false
  | .handled outcome => match s.position with
    | .handling _ => loop.outcomes.contains outcome &&
        (outcome != .requeue || s.monitor.mutex == .free)
    | _ => false
  | .leave => match s.position with
    | .leaving => true
    | _ => false
  | .spurious => s.monitor.waiter == .blocked
  | .set notifier => loop.notifiers.contains notifier && s.monitor.notifier notifier == .idle
  | .notify notifier => s.monitor.notifier notifier == .set
  | .notifyAll => true
  | .pushLock => s.monitor.mutex == .free
  | .push _ => s.monitor.mutex == .pusher .locked
  | .pushNotify => s.monitor.mutex == .pusher .pushed
  | .pushUnlock => s.monitor.mutex == .pusher .notified

/-- An empty queue after the wait is `continue` in a loop and a return otherwise. -/
def takeNext (s : State μ) : State μ :=
  match s.monitor.queue with
  | [] =>
      if loop.repeats then { monitor := s.monitor.release, position := .head }
      else { s with position := .leaving }
  | x :: _ =>
      { monitor := if loop.pops then s.monitor.pop.release else s.monitor
        position := .handling x }

def finish (s : State μ) (x : μ) : Outcome → State μ
  | .again => { s with position := .head }
  | .failed => { monitor := s.monitor.raise .done, position := .head }
  | .requeue => { monitor := s.monitor.append x, position := .head }
  | .finished => { monitor := s.monitor.raise .done, position := .leaving }

def next (s : State μ) : Label μ → State μ
  | .head =>
      if loop.repeats && s.monitor.flag .stopping then { s with position := .ended }
      else { s with position := .waiting }
  | .lock => { s with monitor := s.monitor.lock }
  | .test => { s with monitor := s.monitor.test loop.reads }
  | .read => { s with monitor := s.monitor.read }
  | .block => { s with monitor := s.monitor.block }
  | .returned => { s with position := .exits loop.exits }
  | .exit => match s.position with
    | .exits (f :: rest) =>
        { s with position := if s.monitor.flag f then .leaving else .exits rest }
    | _ => { s with position := .take }
  | .take => loop.takeNext s
  | .handled outcome => match s.position with
    | .handling x => finish s x outcome
    | _ => s
  | .leave => { monitor := s.monitor.release, position := .ended }
  | .spurious => { s with monitor := s.monitor.wake }
  | .set notifier => { s with monitor := s.monitor.set Notifier.sets notifier }
  | .notify notifier => { s with monitor := s.monitor.notify notifier }
  | .notifyAll => { s with monitor := s.monitor.wake }
  | .pushLock => { s with monitor := s.monitor.pushLock }
  | .push x => { s with monitor := s.monitor.push x }
  | .pushNotify => { s with monitor := s.monitor.pushNotify }
  | .pushUnlock => { s with monitor := s.monitor.pushUnlock }

/-- `queue` is what lies in the queue when the thread starts: the goal of an
`ActionClient` does. -/
def machine (queue : List μ) : Machine (State μ) (Label μ) where
  start := { monitor := Monitor.start queue, position := .head }
  enabled := loop.enabled
  next := loop.next

/-- The steps that wake a blocked thread. -/
def Label.wakes : Label μ → Bool
  | .spurious | .notify _ | .notifyAll | .pushNotify => true
  | _ => false

/-- No notifier notifies while the predicate, false so far, can only come out false. -/
def timely (s : State μ) : Label μ → Bool
  | .notify _ => !s.monitor.aboutToBlock
  | _ => true

variable {loop} {queue : List μ}

/-- Outside the wait the thread is neither blocked nor reading the predicate. -/
def Placed (s : State μ) : Prop :=
  s.inWait = false → s.monitor.waiter.clear = true

theorem placed_of_inWait {s : State μ} (h : s.inWait = true) : Placed s := by
  intro hnot
  rw [h] at hnot
  cases hnot

/-- The statements before and after the wait. -/
def Label.away : Label μ → Bool
  | .head | .exit | .take | .handled _ | .leave => true
  | _ => false

theorem inWait_of_away {s : State μ} {label : Label μ} (h : label.away = true)
    (henabled : loop.enabled s label = true) : s.inWait = false := by
  cases label <;> cases hposition : s.position <;>
    simp_all [Label.away, enabled, State.inWait]

theorem placed_step {s : State μ} {label : Label μ} (h : Placed s)
    (henabled : loop.enabled s label = true) : Placed (loop.next s label) := by
  cases label with
  | lock | test | read | block =>
      simp only [enabled, Bool.and_eq_true] at henabled
      exact placed_of_inWait (by simp_all [next, State.inWait])
  | head =>
      have hclear := h (inWait_of_away rfl henabled)
      simp only [next]
      split
      · exact fun _ => hclear
      · exact placed_of_inWait rfl
  | returned =>
      simp only [enabled, Bool.and_eq_true, beq_iff_eq] at henabled
      intro _
      simp [next, henabled.2, Monitor.Waiter.clear]
  | exit =>
      have hclear := h (inWait_of_away rfl henabled)
      intro _
      simp only [next]
      split <;> exact hclear
  | take =>
      have hclear := h (inWait_of_away rfl henabled)
      intro _
      simp only [next, takeNext]
      split
      · split
        · exact Monitor.clear_release hclear
        · exact hclear
      · split
        · exact Monitor.clear_release (m := s.monitor.pop) hclear
        · exact hclear
  | handled outcome =>
      have hclear := h (inWait_of_away rfl henabled)
      intro _
      simp only [next]
      split
      · cases outcome <;> exact hclear
      · exact hclear
  | leave =>
      have hclear := h (inWait_of_away rfl henabled)
      exact fun _ => Monitor.clear_release hclear
  | spurious => exact fun hnot => Monitor.clear_wake (h hnot)
  | notify notifier => exact fun hnot => Monitor.clear_wake (h hnot)
  | notifyAll => exact fun hnot => Monitor.clear_wake (h hnot)
  | pushNotify => exact fun hnot => Monitor.clear_wake (h hnot)
  | set notifier => exact h
  | pushLock => exact h
  | push x => exact h
  | pushUnlock => exact h

theorem placed {s : State μ} (h : (loop.machine queue).Reachable s) : Placed s :=
  h.invariant Placed (fun _ => rfl) (fun _ _ hs henabled _ => placed_step hs henabled)

/-- What one step does to the monitor. -/
theorem monitor_step {s : State μ} {label : Label μ} (hplaced : Placed s)
    (henabled : loop.enabled s label = true) :
    s.monitor.Step Notifier.sets loop.reads (timely s label = true)
      (loop.next s label).monitor := by
  cases label with
  | head =>
      simp only [next]
      split <;> exact .stay
  | lock => exact .lock
  | test =>
      simp only [enabled, Bool.and_eq_true, beq_iff_eq] at henabled
      exact .test henabled.2
  | read => exact .read
  | block =>
      simp only [enabled, Bool.and_eq_true, beq_iff_eq] at henabled
      exact .block henabled.2
  | returned => exact .stay
  | exit =>
      simp only [next]
      split <;> exact .stay
  | take =>
      simp only [next, takeNext]
      split
      · split
        · exact .release
        · exact .stay
      · split
        · exact .take
        · exact .stay
  | handled outcome =>
      have hclear := hplaced (inWait_of_away rfl henabled)
      simp only [next]
      split
      · cases outcome with
        | again => exact .stay
        | failed => exact .raise Flag.done
        | requeue => exact .append _ hclear
        | finished => exact .raise Flag.done
      · exact .stay
  | leave => exact .release
  | spurious => exact .wake
  | set notifier =>
      simp only [enabled, Bool.and_eq_true, List.contains_iff_mem] at henabled
      exact .set notifier (loop.covers notifier henabled.1)
  | notify notifier =>
      exact .notify notifier (beq_iff_eq.mp henabled)
        (fun htimely => by simpa only [timely, Bool.not_eq_true'] using htimely)
  | notifyAll => exact .wake
  | pushLock => exact .pushLock (beq_iff_eq.mp henabled)
  | push x => exact .push x (beq_iff_eq.mp henabled)
  | pushNotify => exact .pushNotify (beq_iff_eq.mp henabled)
  | pushUnlock => exact .pushUnlock (beq_iff_eq.mp henabled)

/-- In the runs in which every notification is timely, a thread that was notified
of a flag is not blocked. -/
theorem not_blocked_of_notified {s : State μ}
    (h : (loop.machine queue).ReachableWith (fun s label => timely s label = true) s) :
    ∀ notifier, s.monitor.notifier notifier = .notified → s.monitor.waiter ≠ .blocked := by
  have hheeded : s.monitor.Heeded Notifier.sets loop.reads ∧ Placed s :=
    h.invariant (fun s => s.monitor.Heeded Notifier.sets loop.reads ∧ Placed s)
      ⟨.start queue, fun _ => rfl⟩
      (fun _ _ hs henabled htimely =>
        ⟨hs.1.step (monitor_step hs.2 henabled) htimely, placed_step hs.2 henabled⟩)
  intro notifier hnotified
  exact (hheeded.1.awake notifier hnotified).1

/-- The notification comes while the thread is blocked. -/
theorem not_blocked_of_notified_run :
    ∃ s, (publisherManagerRun.machine ([] : List Nat)).ReachableWith
        (fun s label => timely s label = true) s ∧
      s.monitor.notifier .stopThread = .notified ∧ s.monitor.waiter ≠ .blocked := by
  have hrun : ∃ s, (publisherManagerRun.machine ([] : List Nat)).ReachableWith
      (fun s label => timely s label = true) s ∧ s.monitor.notifier .stopThread = .notified :=
    Machine.ReachableWith.exists_replay (fun _ _ (h : timely _ _ = true) => h) _ .start
      [.head, .lock, .test, .read, .block, .set .stopThread, .notify .stopThread] (by decide)
  obtain ⟨s, hs, hnotified⟩ := hrun
  exact ⟨s, hs, hnotified, not_blocked_of_notified hs _ hnotified⟩

/-- What is pushed under the mutex is not missed, in any run: a thread that is
blocked next to it is about to be notified by the thread that pushed it. -/
theorem push_heeded {s : State μ} (h : (loop.machine queue).Reachable s)
    (hblocked : s.monitor.waiter = .blocked) :
    s.monitor.queue = [] ∨ s.monitor.mutex = .pusher .pushed := by
  have hguarded : s.monitor.Guarded ∧ Placed s :=
    h.invariant (fun s => s.monitor.Guarded ∧ Placed s) ⟨.start queue, fun _ => rfl⟩
      (fun _ _ hs henabled _ =>
        ⟨hs.1.step (monitor_step hs.2 henabled), placed_step hs.2 henabled⟩)
  exact hguarded.1.blocked hblocked

/-- An element is pushed while the thread is blocked. -/
theorem push_heeded_pushed :
    ∃ s, (serviceExecuteRemove.machine ([] : List Nat)).Reachable s ∧
      s.monitor.waiter = .blocked ∧ s.monitor.queue = [7] ∧
      (s.monitor.queue = [] ∨ s.monitor.mutex = .pusher .pushed) := by
  obtain ⟨s, hs, hblocked, hqueue⟩ :=
    Machine.exists_reachable (M := serviceExecuteRemove.machine ([] : List Nat))
      (fun s => s.monitor.waiter = .blocked ∧ s.monitor.queue = [7])
      [.head, .lock, .test, .read, .block, .pushLock, .push 7] (by decide)
  exact ⟨s, hs, hblocked, hqueue, push_heeded hs hblocked⟩

/-! The other runs: a notification that is not timely is missed. -/

theorem inWait_of_reading {s : State μ} (h : (loop.machine queue).Reachable s)
    {rest : List Flag} (hwaiter : s.monitor.waiter = .reading rest) : s.inWait = true := by
  refine Bool.eq_true_of_not_eq_false fun hnot => ?_
  have hclear := placed h hnot
  rw [hwaiter] at hclear
  cases hclear

/-- A predicate that can only come out false does. -/
theorem reads_false {s : State μ} (h : (loop.machine queue).Reachable s) {rest : List Flag}
    (hwaiter : s.monitor.waiter = .reading rest) (hflags : ∀ f ∈ rest, s.monitor.flag f = false) :
    ∃ t, (loop.machine queue).Reachable t ∧ t.monitor.notifier = s.monitor.notifier ∧
      t.monitor.waiter = .reading [] := by
  induction rest generalizing s with
  | nil => exact ⟨s, h, rfl, hwaiter⟩
  | cons f rest ih =>
      have hread : (loop.next s .read).monitor = { s.monitor with waiter := .reading rest } :=
        Monitor.read_unset hwaiter (hflags f (by simp))
      have hstep : (loop.machine queue).Reachable (loop.next s .read) := by
        refine .step (a := .read) h ?_ trivial
        simp only [machine, enabled, inWait_of_reading h hwaiter, hwaiter, Bool.and_self]
      have hrest : ∀ g ∈ rest, (loop.next s .read).monitor.flag g = false := by
        intro g hg
        rw [hread]
        exact hflags g (by simp [hg])
      obtain ⟨t, ht, hnotifier, hend⟩ := ih hstep (by rw [hread]) hrest
      refine ⟨t, ht, hnotifier.trans ?_, hend⟩
      rw [hread]

/-- Every notification that is not timely can leave the thread blocked. -/
theorem missed_of_not_timely {s : State μ} (h : (loop.machine queue).Reachable s)
    {notifier : Notifier} (hset : s.monitor.notifier notifier = .set)
    (hlate : timely s (.notify notifier) = false) :
    ∃ t, (loop.machine queue).Reachable t ∧ t.monitor.notifier notifier = .notified ∧
      t.monitor.waiter = .blocked := by
  have hnotify : (loop.machine queue).Reachable (loop.next s (.notify notifier)) := by
    refine .step (a := .notify notifier) h ?_ trivial
    simp only [machine, enabled, hset, beq_self_eq_true]
  have habout : s.monitor.aboutToBlock = true := by
    simpa only [timely, Bool.not_eq_false'] using hlate
  obtain ⟨rest, hwaiter, hflags⟩ := Monitor.reading_of_aboutToBlock habout
  have hreading : (loop.next s (.notify notifier)).monitor.waiter = .reading rest := by
    simp [next, Monitor.notify, Monitor.wake, hwaiter, Monitor.Waiter.wake]
  obtain ⟨t, ht, hnotifier, hend⟩ := reads_false hnotify hreading hflags
  have hblock : (loop.machine queue).Reachable (loop.next t .block) := by
    refine .step (a := .block) ht ?_ trivial
    simp only [machine, enabled, inWait_of_reading ht hend, hend, beq_self_eq_true, Bool.and_self]
  refine ⟨_, hblock, ?_, rfl⟩
  rw [show (loop.next t .block).monitor.notifier = t.monitor.notifier from rfl, hnotifier]
  simp [next, Monitor.notify]

/-- No notifier of any of the loops is safe. -/
theorem exists_missed {notifier : Notifier} (hmem : notifier ∈ loop.notifiers) :
    ∃ s, (loop.machine ([] : List μ)).Reachable s ∧ s.monitor.notifier notifier = .notified ∧
      s.monitor.waiter = .blocked := by
  have hstart : (loop.machine ([] : List μ)).Reachable (loop.machine []).start := .start
  have hhead : (loop.machine ([] : List μ)).Reachable { (loop.machine []).start with
      position := .waiting } := by
    simpa [machine, next, Monitor.start] using
      hstart.step (a := .head) (by rfl) trivial
  have hlock := hhead.step (a := .lock) (by rfl) trivial
  have htest := hlock.step (a := .test) (by rfl) trivial
  obtain ⟨s, hs, hidle, hend⟩ := reads_false htest rfl (fun _ _ => rfl)
  have hset : (loop.machine ([] : List μ)).Reachable (loop.next s (.set notifier)) := by
    refine .step (a := .set notifier) hs ?_ trivial
    have hnotifier : s.monitor.notifier notifier = .idle := by
      rw [hidle]
      rfl
    simp [machine, enabled, hmem, hnotifier]
  refine missed_of_not_timely hset ?_ ?_
  · simp [next, Monitor.set]
  · have hwaiter : (loop.next s (.set notifier)).monitor.waiter = .reading [] := hend
    simp [timely, Monitor.aboutToBlock_reading hwaiter]

theorem waitLoops_missed : ∀ loop ∈ waitLoops, ∃ notifier ∈ loop.notifiers,
    ∃ s, (loop.machine ([] : List μ)).Reachable s ∧ s.monitor.notifier notifier = .notified ∧
      s.monitor.waiter = .blocked := by
  intro loop hloop
  have hsome : loop.notifiers ≠ [] := by
    revert loop
    decide
  obtain ⟨notifier, hmem⟩ := List.exists_mem_of_ne_nil _ hsome
  exact ⟨notifier, hmem, exists_missed hmem⟩

/-- `stopThread` sets `stopping` when the predicate has read it, and notifies before
the thread is blocked. -/
theorem stopThread_missed :
    ∃ s, (publisherManagerRun.machine ([] : List Nat)).Reachable s ∧
      s.monitor.notifier .stopThread = .notified ∧ s.monitor.waiter = .blocked :=
  Machine.exists_reachable _
    [.head, .lock, .test, .read, .set .stopThread, .notify .stopThread, .block] (by decide)

/-- Only a wake-up gets a blocked thread on. -/
theorem blocked_step {s : State μ} {label : Label μ}
    (hblocked : s.inWait = true ∧ s.monitor.waiter = .blocked)
    (henabled : loop.enabled s label = true) (hquiet : label.wakes = false) :
    (loop.next s label).inWait = true ∧ (loop.next s label).monitor.waiter = .blocked := by
  obtain ⟨hwait, hwaiter⟩ := hblocked
  cases label with
  | lock | test | read | block | returned =>
      simp [enabled, hwaiter] at henabled
  | head | exit | take | handled | leave =>
      rw [inWait_of_away rfl henabled] at hwait
      cases hwait
  | spurious | notify | notifyAll | pushNotify => cases hquiet
  | set | pushLock | push | pushUnlock => exact ⟨hwait, hwaiter⟩

/-- Until another wake-up comes a blocked thread does not reach its end, and the
join waits for it. -/
theorem blocked_run {s t : State μ} (hblocked : s.inWait = true ∧ s.monitor.waiter = .blocked)
    (h : { loop.machine queue with start := s }.ReachableWith
      (fun _ label => label.wakes = false) t) : t.position ≠ .ended := by
  have hstays : t.inWait = true ∧ t.monitor.waiter = .blocked :=
    h.invariant (fun t => t.inWait = true ∧ t.monitor.waiter = .blocked) hblocked
      (fun _ _ ht henabled hquiet => blocked_step ht henabled hquiet)
  intro hended
  simp [State.inWait, hended] at hstays

end WaitLoop

end Ros2Connect
