import Ros2Connect.Action.ResultStream

/-!
An accepted goal for which nothing is on its way any more. Its plugin has been
called for every emission up to the first result, and its thread has ended
exactly if there was one.
-/

namespace Ros2Connect

open Lib

namespace Action

variable {config : Config} {s : State} {g : GoalUUID}

/-- Neither the manager of the server's node nor the thread of the goal has a
message to take. -/
def Settled (s : State) (g : GoalUUID) : Prop :=
  enabled s .serverHandle = false ∧ enabled s (.executeAccepted g) = false

/-- Where nothing is under way for a running thread. -/
theorem Settled.pendingCalls_eq_nil (h : Settled s g)
    (hthread : (s.goals g).thread = .running) : pendingCalls s g = [] := by
  have hlink : s.toServer = [] := by simpa [enabled] using h.1
  have hqueue : (s.goals g).waitQueue = [] := by simpa [enabled, hthread] using h.2
  simp [pendingCalls, linkCalls, hlink, hqueue]

theorem exists_isResultCall_iff :
    (∃ call ∈ emittedCalls s g, isResultCall call = true) ↔
      ∃ emission ∈ s.emitted g, emission.1.isResult = true := by
  simp only [emittedCalls, List.mem_map, exists_exists_and_eq_and, isResultCall_asCall]

/-- A sequence without a stopping element is not cut. -/
theorem cutAfter_eq_self {α : Type} {stop : α → Bool} {xs : List α}
    (h : ∀ x ∈ xs, stop x = false) : cutAfter stop xs = xs := by
  have hcut := cutAfter_append [] h
  simpa [cutAfter] using hcut

/-- When nothing is left to be taken, the plugin of an accepted goal has been
called once for each emission up to the first result, in their order, and the
thread has ended exactly if there is a result. -/
theorem settled_calls {codecs : Codecs} (hcodecs : codecs.RoundTrip)
    (compression : Compression) (channel : UInt8) (expectedSize : Nat) (dynamicSize : Bool)
    (g : GoalUUID) (s : State)
    (h : (pair (codedConfig codecs compression channel expectedSize
      dynamicSize)).ReachableWith (CancelsLater g) s)
    (haccepted : (s.goals g).accepted = some true) (hsettled : Settled s g) :
    s.calls g = (cutAfter (fun e => e.1.isResult) (s.emitted g)).map Emission.asCall ∧
      ((s.goals g).thread = .finished ↔ ∃ e ∈ s.emitted g, e.1.isResult = true) := by
  have hreception (opCode : ServiceActionOpCode) (data : Bytes) :
      (codedConfig codecs compression channel expectedSize dynamicSize).reception opCode
        g.bytes data = some data :=
    Transfer.receivedData_eq hcodecs compression channel opCode g.bytes data
      (by simp [g.size]) (by simp [g.size])
  obtain ⟨hregistered, hstreams⟩ := streams_of_cancelsLater hreception h
  have hcut : cutAfter isResultCall (emittedCalls s g) =
      (cutAfter (fun e => e.1.isResult) (s.emitted g)).map Emission.asCall := by
    rw [emittedCalls, cutAfter_map]
    simp only [isResultCall_asCall]
  rw [← hcut, ← exists_isResultCall_iff]
  cases hthread : (s.goals g).thread with
  | absent => exact absurd hthread (hregistered.started.mpr haccepted)
  | running =>
      have hlive : (s.goals g).IsLive := by
        simp [Goal.IsLive, hregistered.returned (by simp [haccepted]), haccepted, hthread]
      have hcalls : s.calls g = emittedCalls s g := by
        rw [← hstreams.live hlive, hsettled.pendingCalls_eq_nil hthread, List.append_nil]
      have hfeedback : ∀ call ∈ emittedCalls s g, isResultCall call = false :=
        hcalls ▸ hstreams.feedback (by simp [hthread])
      refine ⟨hcalls.trans (cutAfter_eq_self hfeedback).symm, by simp, ?_⟩
      rintro ⟨call, hmem, hresult⟩
      rw [hfeedback call hmem] at hresult
      cases hresult
  | finished =>
      obtain ⟨hcalls, hexists⟩ := hstreams.ended hthread
      exact ⟨hcalls, fun _ => hexists, fun _ => rfl⟩

private def settledGoal : GoalUUID := ⟨List.replicate 16 6, by simp⟩

/-- Feedback behind the result is dropped. -/
theorem settled_calls_succeeded :
    ∃ s : State, s.emitted settledGoal =
        [(.feedback, [1]), (.resultSucceeded, [2]), (.feedback, [3])] ∧
      s.calls settledGoal =
        (cutAfter (fun e => e.1.isResult) (s.emitted settledGoal)).map Emission.asCall ∧
      ((s.goals settledGoal).thread = .finished ↔
        ∃ e ∈ s.emitted settledGoal, e.1.isResult = true) := by
  have hrun : ∃ s, (pair (codedConfig literalCodecs ⟨.lz4Default, 1⟩ 3 0 true)).ReachableWith
      (CancelsLater settledGoal) s ∧ (s.goals settledGoal).accepted = some true ∧
        enabled s .serverHandle = false ∧ enabled s (.executeAccepted settledGoal) = false ∧
        s.emitted settledGoal =
          [(.feedback, [1]), (.resultSucceeded, [2]), (.feedback, [3])] :=
    Machine.ReachableWith.exists_replay
      (fun (_ : State) (label : Label) (hlabel : label ≠ .findCancel settledGoal) heq =>
        absurd heq hlabel)
      (fun s => (s.goals settledGoal).accepted = some true ∧
        enabled s .serverHandle = false ∧ enabled s (.executeAccepted settledGoal) = false ∧
        s.emitted settledGoal =
          [(.feedback, [1]), (.resultSucceeded, [2]), (.feedback, [3])]) .start
      [.insertHandle settledGoal, .startHandling settledGoal, .sendGoal settledGoal [0],
        .clientHandle, .executeHandle settledGoal true, .goalAccepted settledGoal,
        .emit settledGoal .feedback [1], .serverHandle, .receiveGoalResponse settledGoal,
        .serverHandle, .handleAccepted settledGoal, .executeAccepted settledGoal,
        .emit settledGoal .resultSucceeded [2], .emit settledGoal .feedback [3],
        .serverHandle, .executeAccepted settledGoal, .serverHandle] (by decide)
  obtain ⟨s, hreachable, haccepted, hhandle, hexecute, hemitted⟩ := hrun
  exact ⟨s, hemitted, settled_calls literalCodecs_roundTrip ⟨.lz4Default, 1⟩ 3 0 true settledGoal
    s hreachable haccepted ⟨hhandle, hexecute⟩⟩

end Action

end Ros2Connect
