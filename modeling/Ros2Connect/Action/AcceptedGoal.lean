import Ros2Connect.Action.ActionPair

/-!
`executeAccepted` of one goal with the messages `handle` queues for it, while
`stop` may set `stopping` at any moment. A step of the thread is the check at
the head of the loop, what it does when it is woken, or the processing of the
message it has taken.
-/

namespace Ros2Connect

open Lib

namespace AcceptedGoal

open Ros2Connect.Action

/-- How far `executeAccepted` has come. -/
inductive Turn where
  | head
  | waiting
  | processing (message : Transfer)
  | returned
  deriving Repr, DecidableEq

structure State where
  stopping : Bool
  /-- What `rclcpp::ok` returns. -/
  rclcppOk : Bool
  waitQueue : List Transfer
  done : Bool
  handlingWait : Bool
  /-- `removeHandle` was called. -/
  removed : Bool
  turn : Turn
  calls : List (PluginCall × Bytes)
  deriving Repr, DecidableEq

inductive Label where
  | queue (message : Transfer)
  | stop
  | shutdown
  | checkHead
  | wake
  | process
  deriving Repr, DecidableEq

namespace State

/-- `handleAccepted` has started the thread; messages may have come before. -/
def start : State where
  stopping := false
  rclcppOk := true
  waitQueue := []
  done := false
  handlingWait := true
  removed := false
  turn := .head
  calls := []

/-- The thread leaves the loop with the handle queued for removal. -/
def leave (s : State) : State :=
  { s with handlingWait := false, removed := true, turn := .returned }

def call (s : State) (call : PluginCall) (data : Bytes) : State :=
  { s with calls := s.calls ++ [(call, data)] }

def checkHead (s : State) : State :=
  { s with turn := if s.stopping then .returned else .waiting }

/-- The thread after the wait. -/
def wake (s : State) : State :=
  if s.stopping then
    if s.rclcppOk then s.leave.call .abort [] else s.leave
  else if s.done then s.leave
  else match s.waitQueue with
  | [] => { s with turn := .head }
  | message :: rest => { s with waitQueue := rest, turn := .processing message }

/-- The two `switch`es: a result that cannot be decompressed aborts the goal,
and so does one that says so or is unknown. -/
def processMessage (s : State) (message : Transfer) : State :=
  match PluginCall.ofOpCode? message.opCode, message.data with
  | none, _ => { s with turn := .head }
  | some .feedback, none => { s with turn := .head }
  | some .feedback, some data => { s.call .feedback data with turn := .head }
  | some _, none => { (s.call .abort []).leave with done := true }
  | some result, some data => { (s.call result data).leave with done := true }

def process (s : State) : State :=
  match s.turn with
  | .processing message => s.processMessage message
  | _ => s

end State

def enabled (s : State) : Label → Bool
  | .queue _ | .stop | .shutdown => true
  | .checkHead => s.turn == .head
  | .wake => s.turn == .waiting && (!s.waitQueue.isEmpty || s.done || s.stopping)
  | .process =>
      match s.turn with
      | .processing _ => true
      | _ => false

def next (s : State) : Label → State
  | .queue message => { s with waitQueue := s.waitQueue ++ [message] }
  | .stop => { s with stopping := true }
  | .shutdown => { s with rclcppOk := false }
  | .checkHead => s.checkHead
  | .wake => s.wake
  | .process => s.process

/-- The thread of an accepted goal. -/
def goal : Machine State Label where
  start := .start
  enabled := enabled
  next := next

/-- Feedback only. -/
def FeedbackOnly (calls : List (PluginCall × Bytes)) : Prop :=
  ∀ call ∈ calls, call.1 = .feedback

/-- One call that ends the goal, after any feedback. -/
def Terminated (calls : List (PluginCall × Bytes)) : Prop :=
  ∃ emitted result, calls = emitted ++ [result] ∧ FeedbackOnly emitted ∧ result.1 ≠ .feedback

theorem not_terminated_of_feedbackOnly {calls : List (PluginCall × Bytes)}
    (h : FeedbackOnly calls) : ¬ Terminated calls := by
  rintro ⟨emitted, result, rfl, -, hresult⟩
  exact hresult (h result (by simp))

/-- `stopping` is not set when the thread comes to the head of the loop. -/
def Continues (s : State) (label : Label) : Prop :=
  label = .checkHead → s.stopping = false

instance (s : State) (label : Label) : Decidable (Continues s label) :=
  inferInstanceAs (Decidable (label = .checkHead → s.stopping = false))

/-- When the thread has returned under `rclcpp::ok`, the goal has ended. -/
def EndsGoal (s : State) : Prop :=
  s.turn = .returned → s.rclcppOk = true → Terminated s.calls

structure Kept (s : State) : Prop where
  done : s.turn ≠ .returned → s.done = false
  feedback : s.turn ≠ .returned → FeedbackOnly s.calls
  ended : EndsGoal s

variable {s : State} {label : Label}

theorem Kept.start : Kept State.start where
  done := fun _ => rfl
  feedback := fun _ _ h => nomatch h
  ended := nofun

/-- A thread that has returned and called `call` on the goal handle. -/
theorem Kept.of_call {t : State} {calls : List (PluginCall × Bytes)} {call : PluginCall}
    {data : Bytes} (hturn : t.turn = .returned) (hcalls : t.calls = calls ++ [(call, data)])
    (hfeedback : FeedbackOnly calls) (hcall : call ≠ .feedback) : Kept t where
  done := fun h => absurd hturn h
  feedback := fun h => absurd hturn h
  ended := by
    intro _ _
    rw [hcalls]
    exact ⟨calls, (call, data), rfl, hfeedback, hcall⟩

/-- A thread that goes on. -/
theorem Kept.of_active {t : State} (hturn : t.turn ≠ .returned) (hdone : t.done = false)
    (hfeedback : FeedbackOnly t.calls) : Kept t where
  done := fun _ => hdone
  feedback := fun _ => hfeedback
  ended := fun h => absurd h hturn

theorem Kept.wake (h : Kept s) (hactive : s.turn ≠ .returned) : Kept s.wake := by
  have hfeedback := h.feedback hactive
  have hdone := h.done hactive
  unfold State.wake
  split
  · split
    · exact .of_call rfl rfl hfeedback nofun
    next hok =>
      exact ⟨fun h => absurd rfl h, fun h => absurd rfl h, fun _ hrclcpp => absurd hrclcpp hok⟩
  · split
    next hset =>
      rw [hdone] at hset
      cases hset
    next =>
      split
      · exact .of_active nofun hdone hfeedback
      · exact .of_active nofun hdone hfeedback

theorem Kept.processMessage (h : Kept s) (hactive : s.turn ≠ .returned) (message : Transfer) :
    Kept (s.processMessage message) := by
  have hfeedback := h.feedback hactive
  have hdone := h.done hactive
  unfold State.processMessage
  split
  · exact .of_active nofun hdone hfeedback
  · exact .of_active nofun hdone hfeedback
  · refine .of_active nofun hdone (fun call hcall => ?_)
    rcases List.mem_append.mp hcall with hold | hnew
    · exact hfeedback call hold
    · rw [List.mem_singleton.mp hnew]
  · exact .of_call rfl rfl hfeedback nofun
  next result data _ hresult _ _ =>
    exact .of_call rfl rfl hfeedback (fun heq => hresult (by rw [heq]))

theorem Kept.next (h : Kept s) (henabled : enabled s label = true) (hok : Continues s label) :
    Kept (next s label) := by
  cases label with
  | queue message => exact ⟨h.done, h.feedback, h.ended⟩
  | stop => exact ⟨h.done, h.feedback, h.ended⟩
  | shutdown => exact ⟨h.done, h.feedback, nofun⟩
  | checkHead =>
      have hturn : s.turn = .head := by simpa [enabled] using henabled
      have hactive : s.turn ≠ .returned := by simp [hturn]
      simp only [AcceptedGoal.next, State.checkHead, hok rfl]
      exact .of_active nofun (h.done hactive) (h.feedback hactive)
  | wake =>
      have hturn : s.turn = .waiting := by
        simp only [enabled, Bool.and_eq_true, beq_iff_eq] at henabled
        exact henabled.1
      exact h.wake (by simp [hturn])
  | process =>
      simp only [AcceptedGoal.next, State.process]
      cases hturn : s.turn with
      | processing message => exact h.processMessage (by simp [hturn]) message
      | head | waiting | returned => exact h

theorem kept_of_reachable (h : goal.ReachableWith Continues s) : Kept s :=
  h.invariant Kept .start (fun _ _ hkept henabled hok => hkept.next henabled hok)

/-- A thread that finds `stopping` set at the head of the loop returns without
a call that ends the goal. -/
theorem not_endsGoal_checkHead (h : Kept s) (henabled : enabled s .checkHead = true)
    (hstopping : s.stopping = true) (hok : s.rclcppOk = true) : ¬ EndsGoal (next s .checkHead) := by
  have hturn : s.turn = .head := by simpa [enabled] using henabled
  intro hends
  refine not_terminated_of_feedbackOnly (h.feedback (by simp [hturn])) (hends ?_ hok)
  simp [AcceptedGoal.next, State.checkHead, hstopping]

/-- As long as `stopping` is not set when the thread comes to the head of its
loop, a return under `rclcpp::ok` comes after exactly one call that ends the
goal, which is the last one; and the first step at which it is set there breaks
this. -/
theorem executeAccepted_terminates (s : State) (h : goal.ReachableWith Continues s) :
    EndsGoal s ∧ ∀ label, enabled s label = true → s.rclcppOk = true →
      (EndsGoal (next s label) ↔ Continues s label) := by
  have hkept := kept_of_reachable h
  refine ⟨hkept.ended, fun label henabled hok => ⟨fun hends hhead => ?_, fun hcontinues => ?_⟩⟩
  · subst hhead
    by_contra hstopping
    exact not_endsGoal_checkHead hkept henabled (by simpa using hstopping) hok hends
  · exact (hkept.next henabled hcontinues).ended

/-- A goal that is aborted since `stop` comes while its thread waits. -/
theorem executeAccepted_terminates_stopped :
    ∃ s : State, s.calls = [(.feedback, [7]), (.abort, [])] ∧ EndsGoal s ∧
      ∀ label, enabled s label = true → s.rclcppOk = true →
        (EndsGoal (next s label) ↔ Continues s label) := by
  have hrun : ∃ s, goal.ReachableWith Continues s ∧
      s.calls = [(.feedback, [7]), (.abort, [])] :=
    Machine.ReachableWith.exists_replay (fun _ _ h => h)
      (fun s : State => s.calls = [(.feedback, [7]), (.abort, [])]) .start
      [.queue ⟨.actionToServerFeedback, [], some [7]⟩, .checkHead, .wake, .process, .checkHead,
        .stop, .wake] (by decide)
  obtain ⟨s, hreach, hcalls⟩ := hrun
  exact ⟨s, hcalls, executeAccepted_terminates s hreach⟩

/-- `stop` comes while feedback is processed, and the goal is never ended. -/
theorem executeAccepted_returns_silently : ¬ ∀ s : State, goal.Reachable s → EndsGoal s := by
  intro hall
  obtain ⟨s, hreach, hok, hturn, hcalls⟩ := Machine.exists_reachable (M := goal)
    (fun s : State => s.rclcppOk = true ∧ s.turn = .returned ∧ s.calls = [(.feedback, [7])])
    [.queue ⟨.actionToServerFeedback, [], some [7]⟩, .checkHead, .wake, .stop, .process,
      .checkHead] (by decide)
  have hfeedback : FeedbackOnly s.calls := by simp [FeedbackOnly, hcalls]
  exact not_terminated_of_feedbackOnly hfeedback (hall s hreach hturn hok)

/-- The turn of the thread in the pair of an action server and client is the
processing of a message here. -/
theorem executeAccepted_processMessage {pair : Action.State} {g : GoalUUID} {s : State}
    {message : Transfer} {rest : List Transfer} (hcalls : s.calls = pair.calls g)
    (hqueue : (pair.goals g).waitQueue = message :: rest)
    (hthread : (pair.goals g).thread = .running) :
    (Action.executeAccepted pair g).calls g = (s.processMessage message).calls ∧
      (((Action.executeAccepted pair g).goals g).thread = .finished ↔
        (s.processMessage message).turn = .returned) := by
  simp only [Action.executeAccepted, State.processMessage, hqueue]
  cases hcall : PluginCall.ofOpCode? message.opCode with
  | none => simp [Action.State.setGoal, hthread, hcalls]
  | some call =>
      cases hdata : message.data with
      | none =>
          cases call <;>
            simp [Action.State.setGoal, callPlugin, endAccepted, Action.State.serverQueueRemoval,
              State.call, State.leave, hthread, hcalls]
      | some data =>
          cases call <;>
            simp [Action.State.setGoal, callPlugin, endAccepted, Action.State.serverQueueRemoval,
              State.call, State.leave, hthread, hcalls]

end AcceptedGoal

end Ros2Connect
