import Ros2Connect.Service.SettledPair

/-!
How much a request is worth: the steps that `sendAndWait`, the two links, the
execution on the client's node and the removals may still take. Every step but a
new request uses one up, so a service server and client come to rest.
-/

namespace Ros2Connect

open Lib

namespace Service

def Label.isRequest : Label → Bool
  | .insertHandle _ => true
  | _ => false

/-- A call that waits times out, its cancel is read, and its handle removed. -/
def Phase.work : Phase → Nat
  | .inserted => 12
  | .armed => 11
  | .waiting => 3
  | .returned => 2
  | .idle | .closed => 0

def Call.work (call : Call) : Nat := call.phase.work

def Progress.work : Progress → Nat
  | .executing => 6
  | .waiting => 2
  | .absent | .finished => 0

def Callback.work : Callback → Nat
  | .pending => 3
  | .answered => 1
  | .unset | .spent => 0

def Execution.work (execution : Execution) : Nat :=
  execution.progress.work + execution.callback.work

/-- A request on its way is read and executed. -/
def Message.work (message : Message) : Nat :=
  if message.opCode = .serviceToClient then 7 else 1

/-- The steps that are left to the requests of `keys`. -/
def work (keys : Finset RequestId) (s : State) : Nat :=
  ∑ r ∈ keys, (s.calls r).work + ∑ r ∈ keys, (s.executions r).work +
    (s.toClient.map Message.work).sum + s.toServer.length + s.serverToRemove.length +
    s.clientToRemove.length

variable {config : Config} {keys : Finset RequestId} {s : State} {label : Label}

theorem Callback.work_afterCancel (callback : Callback) (callbackRuns : Bool) :
    (callback.afterCancel callbackRuns).work ≤ callback.work := by
  cases callback with
  | unset | answered | spent => exact le_rfl
  | pending =>
      simp only [Callback.afterCancel]
      split <;> simp [Callback.work]

theorem sum_calls (s : State) {r : RequestId} (hr : r ∈ keys) (call : Call) (before after : Nat)
    (hbefore : (s.calls r).work = before) (hafter : call.work = after) :
    ∑ j ∈ keys, (Function.update s.calls r call j).work + before =
      ∑ j ∈ keys, (s.calls j).work + after := by
  rw [← hbefore, ← hafter]
  exact sum_update_add_of_mem Call.work s.calls hr call

theorem sum_executions (s : State) {r : RequestId} (hr : r ∈ keys) (execution : Execution)
    (before after : Nat) (hbefore : (s.executions r).work = before)
    (hafter : execution.work = after) :
    ∑ j ∈ keys, (Function.update s.executions r execution j).work + before =
      ∑ j ∈ keys, (s.executions j).work + after := by
  rw [← hbefore, ← hafter]
  exact sum_update_add_of_mem Execution.work s.executions hr execution

/-- What changes neither the phases nor the progress of anything is free. -/
theorem sum_update_same {β : Type} {weight : β → Nat} {f : RequestId → β} {r : RequestId} {b : β}
    (hsame : weight b = weight (f r)) :
    ∑ j ∈ keys, weight (Function.update f r b j) = ∑ j ∈ keys, weight (f j) := by
  refine Finset.sum_congr rfl fun j _ => ?_
  by_cases hj : j = r
  · subst hj
    rw [Function.update_self, hsame]
  · rw [Function.update_of_ne hj]

theorem work_receiveResponse {r : RequestId} (hr : r ∈ keys)
    (hphase : (s.calls r).phase = .waiting) {m : Message}
    (hresponse : (s.calls r).goalResponse = some m) :
    work keys (receiveResponse config s r) + 1 ≤ work keys s := by
  have hreturned := sum_calls s hr { s.calls r with phase := .returned, handlingGoal := false } 3 2
    (by rw [Call.work, hphase]; rfl) rfl
  have hclosed := sum_calls s hr { s.calls r with phase := .closed, handlingGoal := false } 3 0
    (by rw [Call.work, hphase]; rfl) rfl
  simp only [receiveResponse, hresponse] at hreturned hclosed ⊢
  split <;> simp only [State.setCall, work, List.length_append, List.length_singleton] <;> omega

/-- A message that is read is gone, and a response it leaves is no step. -/
theorem work_serverHandle (hlink : s.toServer ≠ []) :
    work keys (serverHandle s) + 1 = work keys s := by
  obtain ⟨m, rest, hcons⟩ := List.exists_cons_of_ne_nil hlink
  have hstored (owner : RequestId) :
      ∑ j ∈ keys, (Function.update s.calls owner
        { s.calls owner with goalResponse := some m } j).work =
      ∑ j ∈ keys, (s.calls j).work := sum_update_same rfl
  simp only [serverHandle, hcons]
  split
  · simp only [work, hcons, List.length_cons]
    omega
  · split
    · simp only [work, hcons, List.length_cons]
      omega
    · split <;> simp only [State.setCall, work, hcons, hstored, List.length_cons] <;> omega

/-- A request that is read is refused or executed. -/
theorem work_clientHandle (h : Within keys s) (hlink : s.toClient ≠ []) :
    work keys (clientHandle config s) + 1 ≤ work keys s := by
  obtain ⟨m, rest, hcons⟩ := List.exists_cons_of_ne_nil hlink
  have hnew := sum_executions s (h.toClient m (by simp [hcons]))
    ⟨.executing, m.data, .unset, false, false, []⟩ _ 6 rfl rfl
  have hqueued (owner : RequestId) :
      ∑ j ∈ keys, (Function.update s.executions owner { s.executions owner with
        waitQueue := (s.executions owner).waitQueue ++ [m] } j).work =
      ∑ j ∈ keys, (s.executions j).work := sum_update_same rfl
  have hone : 1 ≤ m.work := by
    unfold Message.work
    split <;> decide
  simp only [clientHandle, hcons]
  split
  next hop =>
    have hmessage : m.work = 7 := if_pos hop
    split <;> simp only [State.setExecution, work, hcons, hmessage, List.map_cons,
      List.sum_cons, List.length_append, List.length_singleton] <;> omega
  next hop =>
    split
    · split <;> simp only [State.setExecution, work, hcons, hqueued, List.map_cons,
        List.sum_cons] <;> omega
    · simp only [work, hcons, List.map_cons, List.sum_cons]
      omega

/-- The end of an execution leaves its callback and the removal of its handle. -/
theorem work_endExecution (s : State) {r : RequestId} (hr : r ∈ keys) (execution : Execution)
    (left : Nat) (hpaid : execution.callback.work + left ≤ (s.executions r).work) :
    work keys (endExecution s r execution) + left ≤ work keys s + 1 := by
  have hsum := sum_executions s hr { execution with progress := .finished }
    (s.executions r).work execution.callback.work rfl (Nat.zero_add _)
  simp only [endExecution, State.setExecution, work, List.length_append, List.length_singleton]
    at hsum ⊢
  omega

theorem work_finish {r : RequestId} (hr : r ∈ keys)
    (hprogress : (s.executions r).progress = .waiting) :
    work keys (endExecution s r (s.executions r)) + 1 ≤ work keys s := by
  have hended := work_endExecution s hr (s.executions r) 2
    (by rw [Execution.work, hprogress, Nat.add_comm]; exact le_rfl)
  omega

/-- A request pays twelve steps, and every other step uses one up. -/
theorem work_next (h : Within keys s) (henabled : enabled config s label = true)
    (hkeys : ∀ r, label = .insertHandle r → r ∈ keys) :
    work keys (next config s label) + (if label.isRequest then 0 else 1) ≤
      work keys s + if label.isRequest then 12 else 0 := by
  have hrequest {r : RequestId} (hr : label.request? = some r) : r ∈ keys :=
    h.request_mem henabled hkeys hr
  cases label with
  | insertHandle r =>
      have hphase : (s.calls r).phase = .idle := by simpa [enabled] using henabled
      have hsum := sum_calls s (hrequest rfl) { s.calls r with phase := .inserted } 0 12
        (by rw [Call.work, hphase]; rfl) rfl
      simp only [next, State.setCall, work, Label.isRequest, if_true] at hsum ⊢
      omega
  | startHandling r =>
      have hphase : (s.calls r).phase = .inserted := by simpa [enabled] using henabled
      have hsum := sum_calls s (hrequest rfl) ⟨.armed, true, none⟩ 12 11
        (by rw [Call.work, hphase]; rfl) rfl
      simp only [next, State.setCall, work, Label.isRequest, Bool.false_eq_true, if_false]
      omega
  | sendRequest r data =>
      have hphase : (s.calls r).phase = .armed := by simpa [enabled] using henabled
      have hsum := sum_calls s (hrequest rfl) { s.calls r with phase := .waiting } 11 3
        (by rw [Call.work, hphase]; rfl) rfl
      have hmessage : (config.send .serviceToClient data r).work = 7 := rfl
      simp only [next, State.setCall, work, Label.isRequest, Bool.false_eq_true, if_false,
        List.map_append, List.map_cons, List.map_nil, List.sum_append, List.sum_cons,
        List.sum_nil, hmessage] at hsum ⊢
      omega
  | receiveResponse r =>
      simp only [enabled, Bool.and_eq_true, beq_iff_eq, Option.isSome_iff_exists] at henabled
      obtain ⟨hphase, m, hresponse⟩ := henabled
      exact work_receiveResponse (hrequest rfl) hphase hresponse
  | timeout r =>
      simp only [enabled, Bool.and_eq_true, beq_iff_eq] at henabled
      have hsum := sum_calls s (hrequest rfl)
        { s.calls r with phase := .closed, handlingGoal := false } 3 0
        (by rw [Call.work, henabled.1]; rfl) rfl
      have hmessage : (config.send .serviceToClientCancel [] r).work = 1 := rfl
      simp only [next, State.setCall, work, Label.isRequest, Bool.false_eq_true, if_false,
        List.map_append, List.map_cons, List.map_nil, List.sum_append, List.sum_cons,
        List.sum_nil, hmessage, List.length_append, List.length_singleton] at hsum ⊢
      omega
  | serverDone r =>
      have hphase : (s.calls r).phase = .returned := by simpa [enabled] using henabled
      have hsum := sum_calls s (hrequest rfl)
        { s.calls r with phase := .closed, handlingGoal := false } 2 0
        (by rw [Call.work, hphase]; rfl) rfl
      simp only [next, State.setCall, work, Label.isRequest, Bool.false_eq_true, if_false,
        List.length_append, List.length_singleton] at hsum ⊢
      omega
  | serverHandle =>
      exact (work_serverHandle (by simpa [enabled] using henabled)).le
  | serverRemove =>
      cases hqueue : s.serverToRemove with
      | nil => simp [enabled, hqueue] at henabled
      | cons r rest =>
          simp only [next, hqueue, work, Label.isRequest, Bool.false_eq_true, if_false,
            List.length_cons]
          omega
  | clientHandle =>
      exact work_clientHandle h (by simpa [enabled] using henabled)
  | refuse r refusal =>
      simp only [enabled, Bool.and_eq_true, beq_iff_eq] at henabled
      have hended := work_endExecution s (hrequest rfl) (s.executions r) 6
        (by rw [Execution.work, henabled.1, Nat.add_comm]; exact le_rfl)
      simp only [work, next, endExecution, State.setExecution, Label.isRequest,
        Bool.false_eq_true, if_false, List.length_append, List.length_singleton] at hended ⊢
      omega
  | asyncSendRequest r =>
      simp only [enabled, Bool.and_eq_true, beq_iff_eq] at henabled
      have hsum := sum_executions s (hrequest rfl)
        { s.executions r with progress := .waiting, callback := .pending }
        (6 + (s.executions r).callback.work) 5 (by rw [Execution.work, henabled.1]; rfl) rfl
      simp only [next, State.setExecution, work, Label.isRequest, Bool.false_eq_true, if_false]
        at hsum ⊢
      omega
  | sendResponse r data =>
      have hcallback : (s.executions r).callback = .pending := by simpa [enabled] using henabled
      have hsum := sum_executions s (hrequest rfl) { s.executions r with callback := .answered }
        ((s.executions r).progress.work + 3) ((s.executions r).progress.work + 1)
        (by rw [Execution.work, hcallback]; rfl) rfl
      simp only [next, State.setExecution, work, Label.isRequest, Bool.false_eq_true, if_false,
        List.length_append, List.length_singleton] at hsum ⊢
      omega
  | markDone r missed =>
      simp only [enabled, Bool.and_eq_true, beq_iff_eq] at henabled
      have hsum := sum_executions s (hrequest rfl)
        { s.executions r with callback := .spent, done := true, missed := missed }
        ((s.executions r).progress.work + 1) (s.executions r).progress.work
        (by rw [Execution.work, henabled.1]; rfl) rfl
      simp only [next, State.setExecution, work, Label.isRequest, Bool.false_eq_true, if_false]
        at hsum ⊢
      omega
  | finish r =>
      simp only [enabled, Bool.and_eq_true, beq_iff_eq] at henabled
      exact work_finish (hrequest rfl) henabled.1.1
  | wake r =>
      simp only [enabled, Bool.and_eq_true, beq_iff_eq] at henabled
      exact work_finish (hrequest rfl) henabled.1
  | cancel r callbackRuns =>
      simp only [enabled, Bool.and_eq_true, beq_iff_eq] at henabled
      have hcallback := (s.executions r).callback.work_afterCancel callbackRuns
      have hended := work_endExecution s (hrequest rfl) { s.executions r with
          callback := (s.executions r).callback.afterCancel callbackRuns, done := true } 2
        (by rw [Execution.work, henabled.1.1, Nat.add_comm]; exact Nat.add_le_add_left hcallback 2)
      simp only [next, Label.isRequest, Bool.false_eq_true, if_false]
      split <;> simp only [work] at hended ⊢ <;> omega
  | clientRemove =>
      cases hqueue : s.clientToRemove with
      | nil => simp [enabled, hqueue] at henabled
      | cons r rest =>
          simp only [next, hqueue, work, Label.isRequest, Bool.false_eq_true, if_false,
            List.length_cons]
          omega

/-- The requests of a run. -/
def requests (labels : List Label) : Finset RequestId :=
  (labels.filterMap Label.request?).toFinset

/-- Every run takes at most twelve steps for each request, whatever gids the
requests share: sharing makes no message or removal go round. -/
theorem steps_le_requests (config : Config) (labels : List Label) (s : State)
    (h : (pair config).replay (fun _ _ => True) .start labels = some s) :
    labels.countP (fun label => !label.isRequest) ≤ 12 * labels.countP Label.isRequest := by
  have hrun : (pair config).replay
      (fun _ label => ∀ r ∈ label.request?, r ∈ requests labels) .start labels = some s :=
    Machine.replay_guard (fun _ label hlabel _ _ hr =>
      List.mem_toFinset.mpr (List.mem_filterMap.mpr ⟨label, hlabel, hr⟩)) h
  have hkeys {label : Label} (hok : ∀ r ∈ label.request?, r ∈ requests labels) (r : RequestId)
      (hinsert : label = .insertHandle r) : r ∈ requests labels := by
    subst hinsert
    exact hok r rfl
  have hcounted := Machine.countP_replay_le (Within (requests labels))
    (fun _ _ hwithin henabled hok => hwithin.next henabled (hkeys hok))
    (fun label => !label.isRequest) Label.isRequest 12 (work (requests labels))
    (fun t label hwithin henabled hok => by
      have hpaid := work_next hwithin henabled (hkeys hok)
      cases hrequest : label.isRequest <;> simpa [pair, hrequest] using hpaid)
    Within.start hrun
  have hstart : work (requests labels) .start = 0 := by
    simp [work, State.start, Call.work, Phase.work, Execution.work, Progress.work, Callback.work]
  omega

private def lateRequest : RequestId := ⟨[1, 2], 5⟩

private def lateConfig : Config :=
  ⟨0, true, 0, true, [], fun _ _ data => some data⟩

/-- A request whose execution is canceled while its callback runs takes all
twelve. -/
private def lateRun : List Label :=
  [.insertHandle lateRequest, .startHandling lateRequest, .sendRequest lateRequest [3],
    .timeout lateRequest, .serverRemove, .clientHandle, .asyncSendRequest lateRequest,
    .clientHandle, .cancel lateRequest true, .clientRemove, .sendResponse lateRequest [4],
    .serverHandle, .markDone lateRequest false]

theorem steps_le_requests_late :
    (∃ s, (pair lateConfig).replay (fun _ _ => True) .start lateRun = some s) ∧
      lateRun.countP Label.isRequest = 1 ∧
      lateRun.countP (fun label => !label.isRequest) = 12 ∧
      lateRun.countP (fun label => !label.isRequest) ≤ 12 * lateRun.countP Label.isRequest := by
  have hrun : ((pair lateConfig).replay (fun _ _ => True) .start lateRun).isSome = true := by
    decide +kernel
  obtain ⟨s, hs⟩ := Option.isSome_iff_exists.mp hrun
  exact ⟨⟨s, hs⟩, rfl, rfl, steps_le_requests lateConfig lateRun s hs⟩

end Service

end Ros2Connect
