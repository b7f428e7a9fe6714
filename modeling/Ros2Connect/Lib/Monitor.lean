import Mathlib.Tactic

/-!
A mutex with a condition variable on which one thread waits. The predicate of the
wait holds when the queue under the mutex is not empty or one of a list of flags
is set; the flags are read one after another. Other threads push under the mutex
and notify before they release it. Notifiers set a flag without the mutex and
notify afterwards, and whether their notification can be missed is the subject
here.
-/

namespace Ros2Connect.Lib

namespace Monitor

/-- Where the thread that waits is. -/
inductive Waiter (φ : Type*) where
  | outside
  /-- It holds the mutex and is not in the wait. -/
  | inside
  | testing
  /-- What the predicate has read so far was false, `rest` is still to be read. -/
  | reading (rest : List φ)
  | blocked
  | woken
  deriving Repr, DecidableEq

inductive Pusher where
  | locked
  | pushed
  | notified
  deriving Repr, DecidableEq

inductive Mutex where
  | free
  | waiter
  | pusher (position : Pusher)
  deriving Repr, DecidableEq

inductive Notified where
  | idle
  | set
  | notified
  deriving Repr, DecidableEq

def Waiter.holds {φ : Type*} : Waiter φ → Bool
  | inside | testing | reading _ => true
  | outside | blocked | woken => false

def Waiter.wake {φ : Type*} : Waiter φ → Waiter φ
  | blocked => woken
  | waiter => waiter

/-- Away from the part of the wait in which a notification can be missed. -/
def Waiter.clear {φ : Type*} : Waiter φ → Bool
  | blocked | reading _ => false
  | outside | inside | testing | woken => true

end Monitor

structure Monitor (φ ι μ : Type*) where
  flag : φ → Bool
  queue : List μ
  mutex : Monitor.Mutex
  waiter : Monitor.Waiter φ
  notifier : ι → Monitor.Notified

namespace Monitor

variable {φ ι μ : Type*}

def start (queue : List μ) : Monitor φ ι μ where
  flag := fun _ => false
  queue
  mutex := .free
  waiter := .outside
  notifier := fun _ => .idle

/-! The waiting thread. -/

/-- The mutex is taken before the wait, and again after a wake-up in it. -/
def lock (m : Monitor φ ι μ) : Monitor φ ι μ :=
  { m with mutex := .waiter, waiter := .testing }

def test (reads : List φ) (m : Monitor φ ι μ) : Monitor φ ι μ :=
  { m with waiter := if m.queue.isEmpty then .reading reads else .inside }

def read (m : Monitor φ ι μ) : Monitor φ ι μ :=
  match m.waiter with
  | .reading (f :: rest) => { m with waiter := if m.flag f then .inside else .reading rest }
  | _ => m

/-- The mutex is released and the thread blocked in one step. -/
def block (m : Monitor φ ι μ) : Monitor φ ι μ :=
  { m with mutex := .free, waiter := .blocked }

def wake (m : Monitor φ ι μ) : Monitor φ ι μ :=
  { m with waiter := m.waiter.wake }

/-- The mutex is released if the thread holds it. -/
def release (m : Monitor φ ι μ) : Monitor φ ι μ :=
  match m.waiter with
  | .inside => { m with mutex := .free, waiter := .outside }
  | _ => m

def pop (m : Monitor φ ι μ) : Monitor φ ι μ :=
  { m with queue := m.queue.tail }

def append (x : μ) (m : Monitor φ ι μ) : Monitor φ ι μ :=
  { m with queue := m.queue ++ [x] }

def raise [DecidableEq φ] (f : φ) (m : Monitor φ ι μ) : Monitor φ ι μ :=
  { m with flag := Function.update m.flag f true }

/-! The threads that push. -/

def pushLock (m : Monitor φ ι μ) : Monitor φ ι μ :=
  { m with mutex := .pusher .locked }

def push (x : μ) (m : Monitor φ ι μ) : Monitor φ ι μ :=
  { m.append x with mutex := .pusher .pushed }

def pushNotify (m : Monitor φ ι μ) : Monitor φ ι μ :=
  { m.wake with mutex := .pusher .notified }

def pushUnlock (m : Monitor φ ι μ) : Monitor φ ι μ :=
  { m with mutex := .free }

/-! The notifiers. -/

def set [DecidableEq φ] [DecidableEq ι] (sets : ι → φ) (i : ι) (m : Monitor φ ι μ) :
    Monitor φ ι μ :=
  { m.raise (sets i) with notifier := Function.update m.notifier i .set }

def notify [DecidableEq ι] (i : ι) (m : Monitor φ ι μ) : Monitor φ ι μ :=
  { m.wake with notifier := Function.update m.notifier i .notified }

theorem flag_raise [DecidableEq φ] {m : Monitor φ ι μ} (f : φ) {g : φ}
    (h : m.flag g = true) : (m.raise f).flag g = true := by
  by_cases hgf : g = f
  · subst hgf
    simp [raise]
  · simpa [raise, hgf] using h

/-- The evaluation of the predicate that is under way can only come out false. -/
def aboutToBlock (m : Monitor φ ι μ) : Bool :=
  match m.waiter with
  | .reading rest => !rest.any m.flag
  | _ => false

theorem aboutToBlock_of_clear {m : Monitor φ ι μ} (h : m.waiter.clear = true) :
    m.aboutToBlock = false := by
  unfold aboutToBlock
  cases hwaiter : m.waiter with
  | reading rest => simp [hwaiter, Waiter.clear] at h
  | _ => rfl

theorem aboutToBlock_reading {m : Monitor φ ι μ} {rest : List φ}
    (h : m.waiter = .reading rest) : m.aboutToBlock = !rest.any m.flag := by
  simp only [aboutToBlock, h]

theorem reading_of_aboutToBlock {m : Monitor φ ι μ} (h : m.aboutToBlock = true) :
    ∃ rest, m.waiter = .reading rest ∧ ∀ f ∈ rest, m.flag f = false := by
  cases hwaiter : m.waiter with
  | reading rest =>
      rw [aboutToBlock_reading hwaiter, Bool.not_eq_true', List.any_eq_false] at h
      exact ⟨rest, rfl, fun f hf => Bool.eq_false_of_not_eq_true (h f hf)⟩
  | _ => simp [aboutToBlock, hwaiter] at h

theorem clear_wake {m : Monitor φ ι μ} (h : m.waiter.clear = true) :
    m.wake.waiter.clear = true := by
  cases hwaiter : m.waiter <;> simp_all [wake, Waiter.wake, Waiter.clear]

theorem clear_release {m : Monitor φ ι μ} (h : m.waiter.clear = true) :
    m.release.waiter.clear = true := by
  cases hwaiter : m.waiter <;> simp_all [release, Waiter.clear]

theorem read_unset {m : Monitor φ ι μ} {f : φ} {rest : List φ}
    (h : m.waiter = .reading (f :: rest)) (hf : m.flag f = false) :
    m.read = { m with waiter := .reading rest } := by
  simp [read, h, hf]

/-- A flag that is set meanwhile can only turn the evaluation the other way. -/
theorem aboutToBlock_of_flags {m n : Monitor φ ι μ} (hwaiter : n.waiter = m.waiter)
    (hflag : ∀ f, m.flag f = true → n.flag f = true) (h : m.aboutToBlock = false) :
    n.aboutToBlock = false := by
  cases hm : m.waiter with
  | reading rest =>
      rw [aboutToBlock_reading hm, Bool.not_eq_false', List.any_eq_true] at h
      obtain ⟨f, hf, hset⟩ := h
      rw [aboutToBlock_reading (hwaiter.trans hm), Bool.not_eq_false', List.any_eq_true]
      exact ⟨f, hf, hflag f hset⟩
  | _ => simp only [aboutToBlock, hwaiter, hm]

/-- What one step of a system may do to a monitor. If `timely` holds, no step
notifies while the predicate is about to come out false. -/
inductive Step [DecidableEq φ] [DecidableEq ι] (sets : ι → φ) (reads : List φ) (timely : Prop)
    (m : Monitor φ ι μ) : Monitor φ ι μ → Prop where
  | stay : Step sets reads timely m m
  | lock : Step sets reads timely m m.lock
  | test : m.waiter = .testing → Step sets reads timely m (m.test reads)
  | read : Step sets reads timely m m.read
  | block : m.waiter = .reading [] → Step sets reads timely m m.block
  | wake : Step sets reads timely m m.wake
  | release : Step sets reads timely m m.release
  | take : Step sets reads timely m m.pop.release
  | append (x : μ) : m.waiter.clear = true → Step sets reads timely m (m.append x)
  | raise (f : φ) : Step sets reads timely m (m.raise f)
  | pushLock : m.mutex = .free → Step sets reads timely m m.pushLock
  | push (x : μ) : m.mutex = .pusher .locked → Step sets reads timely m (m.push x)
  | pushNotify : m.mutex = .pusher .pushed → Step sets reads timely m m.pushNotify
  | pushUnlock : m.mutex = .pusher .notified → Step sets reads timely m m.pushUnlock
  | set (i : ι) : sets i ∈ reads → Step sets reads timely m (m.set sets i)
  | notify (i : ι) : m.notifier i = .set → (timely → m.aboutToBlock = false) →
      Step sets reads timely m (m.notify i)

/-- No notifier that has notified was missed, and none will be by the evaluation
that is under way. Every flag that was set is one that the predicate reads. -/
structure Heeded (sets : ι → φ) (reads : List φ) (m : Monitor φ ι μ) : Prop where
  raised : ∀ i, m.notifier i ≠ .idle → sets i ∈ reads ∧ m.flag (sets i) = true
  awake : ∀ i, m.notifier i = .notified → m.waiter ≠ .blocked ∧ m.aboutToBlock = false

namespace Heeded

variable {sets : ι → φ} {reads : List φ} {m n : Monitor φ ι μ}

theorem start (queue : List μ) : (start queue : Monitor φ ι μ).Heeded sets reads :=
  ⟨fun _ h => absurd rfl h, fun _ h => by cases h⟩

/-- A step that lowers no flag and leaves the waiting thread where it is, or out
of danger. -/
theorem frame (h : m.Heeded sets reads)
    (hflag : ∀ f, m.flag f = true → n.flag f = true) (hnotifier : n.notifier = m.notifier)
    (hwaiter : n.waiter = m.waiter ∨ n.waiter.clear = true) : n.Heeded sets reads := by
  refine ⟨?_, ?_⟩
  · intro i hi
    rw [hnotifier] at hi
    exact ⟨(h.raised i hi).1, hflag _ (h.raised i hi).2⟩
  · intro i hi
    rw [hnotifier] at hi
    obtain hsame | hclear := hwaiter
    · refine ⟨?_, aboutToBlock_of_flags hsame hflag (h.awake i hi).2⟩
      rw [hsame]
      exact (h.awake i hi).1
    · refine ⟨?_, aboutToBlock_of_clear hclear⟩
      intro hblocked
      simp [hblocked, Waiter.clear] at hclear

theorem lock (h : m.Heeded sets reads) : m.lock.Heeded sets reads :=
  h.frame (fun _ hf => hf) rfl (.inr rfl)

/-- The evaluation starts with all its flags to be read, so it finds the flag of
every notifier that has notified. -/
theorem test (h : m.Heeded sets reads) : (m.test reads).Heeded sets reads := by
  refine ⟨h.raised, ?_⟩
  intro i hi
  obtain ⟨hmem, hset⟩ := h.raised i (by rw [show m.notifier i = .notified from hi]; simp)
  by_cases hqueue : m.queue.isEmpty = true
  · have hwaiter : (m.test reads).waiter = .reading reads := by
      simp only [Monitor.test, hqueue, if_true]
    refine ⟨by rw [hwaiter]; simp, ?_⟩
    rw [aboutToBlock_reading hwaiter, Bool.not_eq_false', List.any_eq_true]
    exact ⟨sets i, hmem, hset⟩
  · have hwaiter : (m.test reads).waiter = .inside := by
      simp only [Monitor.test, if_neg hqueue]
    exact ⟨by rw [hwaiter]; simp, aboutToBlock_of_clear (by rw [hwaiter]; rfl)⟩

/-- The flag that makes the evaluation come out true is still to be read, or has
just been. -/
theorem read (h : m.Heeded sets reads) : m.read.Heeded sets reads := by
  cases hwaiter : m.waiter with
  | reading rest =>
      cases rest with
      | nil => simpa only [Monitor.read, hwaiter] using h
      | cons f rest =>
          by_cases hf : m.flag f = true
          · refine h.frame ?_ ?_ (.inr ?_) <;> simp [Monitor.read, hwaiter, hf, Waiter.clear]
          · rw [read_unset hwaiter (Bool.eq_false_of_not_eq_true hf)]
            refine ⟨h.raised, ?_⟩
            intro i hi
            have hbefore := (h.awake i hi).2
            rw [aboutToBlock_reading hwaiter, List.any_cons,
              Bool.eq_false_of_not_eq_true hf, Bool.false_or] at hbefore
            exact ⟨by simp, by rw [aboutToBlock_reading rfl]; exact hbefore⟩
  | _ => simpa only [Monitor.read, hwaiter] using h

/-- With nothing left to read, no notifier can have notified. -/
theorem block (h : m.Heeded sets reads) (hwaiter : m.waiter = .reading []) :
    m.block.Heeded sets reads := by
  refine ⟨h.raised, ?_⟩
  intro i hi
  have hbefore := (h.awake i hi).2
  rw [aboutToBlock_reading hwaiter] at hbefore
  cases hbefore

theorem wake (h : m.Heeded sets reads) : m.wake.Heeded sets reads := by
  refine h.frame (fun _ hf => hf) rfl ?_
  cases hwaiter : m.waiter with
  | blocked => exact .inr (by simp [Monitor.wake, hwaiter, Waiter.wake, Waiter.clear])
  | _ => exact .inl (by simp [Monitor.wake, hwaiter, Waiter.wake])

theorem release (h : m.Heeded sets reads) : m.release.Heeded sets reads := by
  cases hwaiter : m.waiter with
  | inside =>
      refine h.frame ?_ ?_ (.inr ?_) <;> simp [Monitor.release, hwaiter, Waiter.clear]
  | _ => simpa only [Monitor.release, hwaiter] using h

theorem pop (h : m.Heeded sets reads) : m.pop.Heeded sets reads :=
  h.frame (fun _ hf => hf) rfl (.inl rfl)

theorem append (h : m.Heeded sets reads) (x : μ) : (m.append x).Heeded sets reads :=
  h.frame (fun _ hf => hf) rfl (.inl rfl)

theorem pushLock (h : m.Heeded sets reads) : m.pushLock.Heeded sets reads :=
  h.frame (fun _ hf => hf) rfl (.inl rfl)

theorem push (h : m.Heeded sets reads) (x : μ) : (m.push x).Heeded sets reads :=
  h.frame (fun _ hf => hf) rfl (.inl rfl)

theorem pushNotify (h : m.Heeded sets reads) : m.pushNotify.Heeded sets reads :=
  h.wake.frame (fun _ hf => hf) rfl (.inl rfl)

theorem pushUnlock (h : m.Heeded sets reads) : m.pushUnlock.Heeded sets reads :=
  h.frame (fun _ hf => hf) rfl (.inl rfl)

theorem raise [DecidableEq φ] (h : m.Heeded sets reads) (f : φ) :
    (m.raise f).Heeded sets reads :=
  h.frame (fun _ hg => flag_raise f hg) rfl (.inl rfl)

theorem set [DecidableEq φ] [DecidableEq ι] (h : m.Heeded sets reads) {i : ι}
    (hi : sets i ∈ reads) : (m.set sets i).Heeded sets reads := by
  have hraised := h.raise (sets i)
  refine ⟨?_, ?_⟩
  · intro j hj
    by_cases hji : j = i
    · subst hji
      exact ⟨hi, by simp [Monitor.set, Monitor.raise]⟩
    · have hj' : m.notifier j ≠ .idle := by simpa [Monitor.set, hji] using hj
      exact hraised.raised j hj'
  · intro j hj
    by_cases hji : j = i
    · subst hji
      simp [Monitor.set] at hj
    · have hj' : m.notifier j = .notified := by simpa [Monitor.set, hji] using hj
      exact hraised.awake j hj'

/-- The one step that can miss: the notification comes when the evaluation under
way has passed the flag. -/
theorem notify [DecidableEq ι] (h : m.Heeded sets reads) {i : ι} (hset : m.notifier i = .set)
    (htimely : m.aboutToBlock = false) : (m.notify i).Heeded sets reads := by
  have hawake : m.wake.waiter ≠ .blocked ∧ m.wake.aboutToBlock = false := by
    cases hwaiter : m.waiter with
    | reading rest =>
        have hwake : m.wake.waiter = .reading rest := by
          simp [Monitor.wake, hwaiter, Waiter.wake]
        refine ⟨by rw [hwake]; simp, ?_⟩
        exact aboutToBlock_of_flags (hwake.trans hwaiter.symm) (fun _ hf => hf) htimely
    | _ =>
        refine ⟨by simp [Monitor.wake, hwaiter, Waiter.wake], aboutToBlock_of_clear ?_⟩
        simp [Monitor.wake, hwaiter, Waiter.wake, Waiter.clear]
  refine ⟨?_, fun j _ => hawake⟩
  intro j hj
  by_cases hji : j = i
  · subst hji
    exact h.raised j (by rw [hset]; simp)
  · have hj' : m.notifier j ≠ .idle := by simpa [Monitor.notify, hji] using hj
    exact h.raised j hj'

theorem step [DecidableEq φ] [DecidableEq ι] {timely : Prop} (h : m.Heeded sets reads)
    (hstep : m.Step sets reads timely n) (htimely : timely) : n.Heeded sets reads := by
  cases hstep with
  | stay => exact h
  | lock => exact h.lock
  | test _ => exact h.test
  | read => exact h.read
  | block hwaiter => exact h.block hwaiter
  | wake => exact h.wake
  | release => exact h.release
  | take => exact h.pop.release
  | append x _ => exact h.append x
  | raise f => exact h.raise f
  | pushLock _ => exact h.pushLock
  | push x _ => exact h.push x
  | pushNotify _ => exact h.pushNotify
  | pushUnlock _ => exact h.pushUnlock
  | set i hmem => exact h.set hmem
  | notify i hset habout => exact h.notify hset (habout htimely)

end Heeded

/-- The mutex keeps its promise: it is the waiting thread's where that thread holds
it, the queue stays empty while the flags are read, and a thread that is blocked
next to a message is about to be notified by whoever pushed it. -/
structure Guarded (m : Monitor φ ι μ) : Prop where
  holds : m.waiter.holds = true → m.mutex = .waiter
  reading : ∀ rest, m.waiter = .reading rest → m.queue = []
  blocked : m.waiter = .blocked → m.queue = [] ∨ m.mutex = .pusher .pushed

namespace Guarded

variable {m n : Monitor φ ι μ}

/-- A step of the waiting thread to a place where it is not in danger. -/
theorem of_clear (hclear : n.waiter.clear = true)
    (hholds : n.waiter.holds = true → n.mutex = .waiter) : n.Guarded := by
  refine ⟨hholds, ?_, ?_⟩
  · intro rest h
    simp [h, Waiter.clear] at hclear
  · intro h
    simp [h, Waiter.clear] at hclear

theorem start (queue : List μ) : (start queue : Monitor φ ι μ).Guarded :=
  of_clear rfl (fun h => by cases h)

/-- A step of another thread under the mutex, or of one that leaves the mutex and
the queue alone. -/
theorem of_unheld (hholds : n.waiter.holds = false)
    (hblocked : n.waiter = .blocked → n.queue = [] ∨ n.mutex = .pusher .pushed) :
    n.Guarded := by
  refine ⟨?_, ?_, hblocked⟩
  · intro h
    rw [hholds] at h
    cases h
  · intro rest h
    rw [h] at hholds
    cases hholds

theorem frame (h : m.Guarded) (hqueue : n.queue = m.queue) (hmutex : n.mutex = m.mutex)
    (hwaiter : n.waiter = m.waiter) : n.Guarded := by
  refine ⟨?_, ?_, ?_⟩
  · rw [hwaiter, hmutex]
    exact h.holds
  · rw [hwaiter, hqueue]
    exact h.reading
  · rw [hwaiter, hqueue, hmutex]
    exact h.blocked

theorem unheld (h : m.Guarded) (hmutex : m.mutex ≠ .waiter) : m.waiter.holds = false :=
  Bool.eq_false_of_not_eq_true fun hholds => hmutex (h.holds hholds)

theorem lock : m.lock.Guarded :=
  of_clear rfl (fun _ => rfl)

theorem test (h : m.Guarded) (hwaiter : m.waiter = .testing) (reads : List φ) :
    (m.test reads).Guarded := by
  have hmutex : m.mutex = .waiter := h.holds (by rw [hwaiter]; rfl)
  by_cases hqueue : m.queue.isEmpty = true
  · refine ⟨fun _ => hmutex, fun _ _ => by simpa [Monitor.test] using hqueue, ?_⟩
    intro hblocked
    simp [Monitor.test, hqueue] at hblocked
  · exact of_clear (by simp [Monitor.test, hqueue, Waiter.clear]) (fun _ => hmutex)

theorem read (h : m.Guarded) : m.read.Guarded := by
  cases hwaiter : m.waiter with
  | reading rest =>
      have hmutex : m.mutex = .waiter := h.holds (by rw [hwaiter]; rfl)
      cases rest with
      | nil => simpa only [Monitor.read, hwaiter] using h
      | cons f rest =>
          by_cases hf : m.flag f = true
          · refine of_clear ?_ ?_ <;> simp [Monitor.read, hwaiter, hf, Waiter.clear, hmutex]
          · rw [read_unset hwaiter (Bool.eq_false_of_not_eq_true hf)]
            exact ⟨fun _ => hmutex, fun _ _ => h.reading _ hwaiter, fun hb => by cases hb⟩
  | _ => simpa only [Monitor.read, hwaiter] using h

theorem block (h : m.Guarded) (hwaiter : m.waiter = .reading []) : m.block.Guarded :=
  of_unheld rfl (fun _ => .inl (h.reading [] hwaiter))

theorem wake (h : m.Guarded) : m.wake.Guarded := by
  cases hwaiter : m.waiter with
  | blocked =>
      refine of_unheld ?_ ?_ <;> simp [Monitor.wake, hwaiter, Waiter.wake, Waiter.holds]
  | _ => exact h.frame rfl rfl (by simp [Monitor.wake, hwaiter, Waiter.wake])

theorem release (h : m.Guarded) : m.release.Guarded := by
  cases hwaiter : m.waiter with
  | inside => refine of_unheld ?_ ?_ <;> simp [Monitor.release, hwaiter, Waiter.holds]
  | _ => simpa only [Monitor.release, hwaiter] using h

theorem pop (h : m.Guarded) : m.pop.Guarded := by
  refine ⟨h.holds, ?_, ?_⟩
  · intro rest hwaiter
    simp [Monitor.pop, h.reading rest hwaiter]
  · intro hwaiter
    obtain hqueue | hmutex := h.blocked hwaiter
    · exact .inl (by simp [Monitor.pop, hqueue])
    · exact .inr hmutex

theorem append (h : m.Guarded) (hclear : m.waiter.clear = true) (x : μ) :
    (m.append x).Guarded :=
  of_clear hclear h.holds

theorem pushLock (h : m.Guarded) (hmutex : m.mutex = .free) : m.pushLock.Guarded := by
  refine of_unheld (h.unheld (by rw [hmutex]; simp)) ?_
  intro hwaiter
  exact .inl ((h.blocked hwaiter).resolve_right (by rw [hmutex]; simp))

theorem push (h : m.Guarded) (hmutex : m.mutex = .pusher .locked) (x : μ) :
    (m.push x).Guarded :=
  of_unheld (h.unheld (by rw [hmutex]; simp)) (fun _ => .inr rfl)

theorem pushNotify (h : m.Guarded) (hmutex : m.mutex = .pusher .pushed) :
    m.pushNotify.Guarded := by
  have hholds : m.wake.waiter.holds = false := h.wake.unheld (by
    rw [show m.wake.mutex = m.mutex from rfl, hmutex]
    simp)
  refine of_unheld hholds ?_
  intro hblocked
  cases hwaiter : m.waiter <;>
    simp [Monitor.pushNotify, Monitor.wake, hwaiter, Waiter.wake] at hblocked

theorem pushUnlock (h : m.Guarded) (hmutex : m.mutex = .pusher .notified) :
    m.pushUnlock.Guarded := by
  refine of_unheld (h.unheld (by rw [hmutex]; simp)) ?_
  intro hwaiter
  exact .inl ((h.blocked hwaiter).resolve_right (by rw [hmutex]; simp))

theorem raise [DecidableEq φ] (h : m.Guarded) (f : φ) : (m.raise f).Guarded :=
  h.frame rfl rfl rfl

theorem set [DecidableEq φ] [DecidableEq ι] (h : m.Guarded) (sets : ι → φ) (i : ι) :
    (m.set sets i).Guarded :=
  h.frame rfl rfl rfl

theorem notify [DecidableEq ι] (h : m.Guarded) (i : ι) : (m.notify i).Guarded :=
  h.wake.frame rfl rfl rfl

theorem step [DecidableEq φ] [DecidableEq ι] {sets : ι → φ} {reads : List φ} {timely : Prop}
    (h : m.Guarded) (hstep : m.Step sets reads timely n) : n.Guarded := by
  cases hstep with
  | stay => exact h
  | lock => exact .lock
  | test hwaiter => exact h.test hwaiter reads
  | read => exact h.read
  | block hwaiter => exact h.block hwaiter
  | wake => exact h.wake
  | release => exact h.release
  | take => exact h.pop.release
  | append x hclear => exact h.append hclear x
  | raise f => exact h.raise f
  | pushLock hmutex => exact h.pushLock hmutex
  | push x hmutex => exact h.push hmutex x
  | pushNotify hmutex => exact h.pushNotify hmutex
  | pushUnlock hmutex => exact h.pushUnlock hmutex
  | set i _ => exact h.set sets i
  | notify i _ _ => exact h.notify i

end Guarded

end Monitor

end Ros2Connect.Lib
