import Ros2Connect.Action.Steps

/-!
A step seen from one part of the state: one goal, one link, the handles or what
is known of one execution. The invariants are about such parts, so each of them
follows from what a step does to the parts it names.
-/

namespace Ros2Connect

open Lib

namespace Action

variable {config : Config} {s t : State} {label : Label} {g : GoalUUID}

/-- What a step does to a goal on the server's node. -/
inductive GoalStep (s : State) (g : GoalUUID) : Label → Goal → Prop where
  | same (label : Label) : GoalStep s g label (s.goals g)
  | insert (hphase : (s.goals g).phase = .idle) :
      GoalStep s g (.insertHandle g) { s.goals g with phase := .inserted }
  | arm (hphase : (s.goals g).phase = .inserted) :
      GoalStep s g (.startHandling g)
        { s.goals g with phase := .armed, goalResponse := none, handlingGoal := true }
  | send (data : Bytes) (hphase : (s.goals g).phase = .armed) :
      GoalStep s g (.sendGoal g data) { s.goals g with phase := .waiting }
  | accept (m : Transfer) (hphase : (s.goals g).phase = .waiting)
      (hresponse : (s.goals g).goalResponse = some m)
      (hop : m.opCode = .actionToServerGoalAccept) :
      GoalStep s g (.receiveGoalResponse g)
        { s.goals g with phase := .returned true, handlingGoal := false }
  | turnDown (label : Label) (hphase : (s.goals g).phase = .waiting) :
      GoalStep s g label { s.goals g with phase := .returned false, handlingGoal := false }
  | abandon (label : Label) (hphase : (s.goals g).phase = .returned true)
      (haccepted : (s.goals g).accepted = none) :
      GoalStep s g label { s.goals g with accepted := some false }
  | start (hphase : (s.goals g).phase = .returned true)
      (haccepted : (s.goals g).accepted = none) (hthread : (s.goals g).thread = .absent) :
      GoalStep s g (.handleAccepted g)
        { s.goals g with accepted := some true, handlingWait := true, thread := .running }
  | take (m : Transfer) (rest : List Transfer) (hthread : (s.goals g).thread = .running)
      (hqueue : (s.goals g).waitQueue = m :: rest) :
      GoalStep s g (.executeAccepted g) { s.goals g with waitQueue := rest }
  | finish (m : Transfer) (rest : List Transfer) (hthread : (s.goals g).thread = .running)
      (hqueue : (s.goals g).waitQueue = m :: rest) :
      GoalStep s g (.executeAccepted g)
        { s.goals g with waitQueue := rest, handlingWait := false, thread := .finished }
  | findCancel :
      GoalStep s g (.findCancel g)
        { s.goals g with cancelsFound := (s.goals g).cancelsFound + 1 }
  | startCancel (hfound : (s.goals g).cancelsFound ≠ 0) :
      GoalStep s g (.startCancel g)
        { s.goals g with
          cancelResponse := none
          handlingCancel := true
          cancelsFound := (s.goals g).cancelsFound - 1
          cancelsArmed := (s.goals g).cancelsArmed + 1 }
  | sendCancel (harmed : (s.goals g).cancelsArmed ≠ 0) :
      GoalStep s g (.sendCancel g)
        { s.goals g with
          cancelsArmed := (s.goals g).cancelsArmed - 1
          cancelsWaiting := (s.goals g).cancelsWaiting + 1 }
  | endCancel (label : Label) :
      GoalStep s g label
        { s.goals g with
          handlingCancel := false
          cancelsWaiting := (s.goals g).cancelsWaiting - 1 }
  | goalResponse (m : Transfer) (hlink : m ∈ s.toServer) (hgID : m.gID = g.bytes) :
      GoalStep s g .serverHandle { s.goals g with goalResponse := some m }
  | cancelResponse (m : Transfer) :
      GoalStep s g .serverHandle { s.goals g with cancelResponse := some m }
  | queue (m : Transfer) (hlink : m ∈ s.toServer) (hgID : m.gID = g.bytes) :
      GoalStep s g .serverHandle
        { s.goals g with waitQueue := (s.goals g).waitQueue ++ [m] }

/-- A step on one goal leaves the others alone. -/
theorem GoalStep.update {other : GoalUUID} {goal : Goal} (h : GoalStep s other label goal)
    (g : GoalUUID) : GoalStep s g label (Function.update s.goals other goal g) := by
  by_cases hsame : g = other
  · subst hsame
    simpa using h
  · rw [Function.update_of_ne hsame]
    exact .same label

/-- The handles on the server's node are kept under their own keys. -/
theorem keyed_of_step (h : s.serverHandles.KeyedBy GoalUUID.gIDString)
    (hstep : Step config s label t) : t.serverHandles.KeyedBy GoalUUID.gIDString := by
  cases hstep with
  | insertHandle other hphase => exact h.insert other
  | serverRemove other rest hqueue => exact h.erase _
  | _ => exact h

/-- The handle the map has for a goal is the goal's own. -/
theorem owner_of_keyed (h : s.serverHandles.KeyedBy GoalUUID.gIDString)
    {other owner : GoalUUID} (howner : s.serverHandles other.gIDString = some owner) :
    owner = other :=
  GoalUUID.gIDString_inj.mp (h _ _ howner)

/-- The handle found for a message is the one of the goal it names. -/
theorem gID_of_keyed (h : s.serverHandles.KeyedBy GoalUUID.gIDString) {m : Transfer}
    {owner : GoalUUID}
    (howner : s.serverHandles (ServiceActionHandle.gIDString m.gID) = some owner) :
    m.gID = owner.bytes :=
  (ServiceActionHandle.gIDString_inj.mp (h _ _ howner)).symm

theorem Step.goal (hstep : Step config s label t)
    (hkeyed : s.serverHandles.KeyedBy GoalUUID.gIDString) (g : GoalUUID) :
    GoalStep s g label (t.goals g) := by
  cases hstep with
  | insertHandle other hphase => exact (GoalStep.insert hphase).update g
  | startHandling other hphase => exact (GoalStep.arm hphase).update g
  | sendGoal other data hphase => exact (GoalStep.send data hphase).update g
  | acceptGoal other m hphase hresponse hop =>
      exact (GoalStep.accept m hphase hresponse hop).update g
  | rejectGoal other hphase => exact (GoalStep.turnDown _ hphase).update g
  | goalTimeout other hphase => exact (GoalStep.turnDown _ hphase).update g
  | acceptUnknown other hphase haccepted hknown =>
      exact (GoalStep.abandon _ hphase haccepted).update g
  | acceptJoinable other owner hphase haccepted howner hthread =>
      exact (GoalStep.abandon _ hphase haccepted).update g
  | acceptStart other owner hphase haccepted howner hthread =>
      obtain rfl := owner_of_keyed hkeyed howner
      simpa using (GoalStep.start hphase haccepted hthread).update g
  | dropQueued other m rest hthread hqueue hdrop =>
      exact (GoalStep.take m rest hthread hqueue).update g
  | callFeedback other m rest data hthread hqueue hcall hdata =>
      exact (GoalStep.take m rest hthread hqueue).update g
  | callResult other m rest call data hthread hqueue hresult hcall =>
      exact (GoalStep.finish m rest hthread hqueue).update g
  | findCancel other owner howner =>
      obtain rfl := owner_of_keyed hkeyed howner
      exact GoalStep.findCancel.update g
  | startCancel other hfound => exact (GoalStep.startCancel hfound).update g
  | sendCancel other harmed => exact (GoalStep.sendCancel harmed).update g
  | endCancel other label hlabel => exact (GoalStep.endCancel _).update g
  | endCancelRemoving other hwaiting hwait => exact (GoalStep.endCancel _).update g
  | serverGoalResponse m rest owner hlink howner hop =>
      have hmem : m ∈ s.toServer := by simp [hlink]
      exact (GoalStep.goalResponse m hmem (gID_of_keyed hkeyed howner)).update g
  | serverCancelResponse m rest owner hlink howner hop =>
      exact (GoalStep.cancelResponse m).update g
  | serverQueue m rest owner hlink howner =>
      have hmem : m ∈ s.toServer := by simp [hlink]
      exact (GoalStep.queue m hmem (gID_of_keyed hkeyed howner)).update g
  | _ => exact .same _

/-- What a step sends to the server's plugin. -/
inductive Sent (config : Config) (s t : State) : Transfer → Prop where
  | refusal (gID : Bytes) :
      Sent config s t (.arriving config.reception .actionToServerGoalReject gID [])
  | acceptance (g : GoalUUID) (hverdict : .accepted ∈ t.verdicts g ∨ .rejected ∈ t.verdicts g) :
      Sent config s t (.arriving config.reception .actionToServerGoalAccept g.bytes [])
  | cancelAnswer (g : GoalUUID) (opCode : ServiceActionOpCode)
      (hop : opCode = .actionToServerCancelAccept ∨ opCode = .actionToServerCancelReject) :
      Sent config s t (.arriving config.reception opCode g.bytes [])
  | emission (g : GoalUUID) (emission : Emission) (data : Bytes)
      (hsent : (s.executions g).goalSent = true) :
      Sent config s t (.arriving config.reception emission.opCode g.bytes data)

/-- A message that is on the link to the server was there or has been sent. -/
theorem Step.mem_toServer (hstep : Step config s label t) {m : Transfer}
    (hm : m ∈ t.toServer) : m ∈ s.toServer ∨ Sent config s t m := by
  have hnew {rest : List Transfer} {last : Transfer} (hsent : Sent config s t last)
      (hmem : m ∈ rest ++ [last]) : m ∈ rest ∨ Sent config s t m := by
    refine (List.mem_append.mp hmem).imp_right (fun hlast => ?_)
    rwa [List.mem_singleton.mp hlast]
  cases hstep with
  | serverDrop first rest hlink hdrop => exact Or.inl (by rw [hlink]; exact .tail _ hm)
  | serverGoalResponse first rest owner hlink howner hop =>
      exact Or.inl (by rw [hlink]; exact .tail _ hm)
  | serverCancelResponse first rest owner hlink howner hop =>
      exact Or.inl (by rw [hlink]; exact .tail _ hm)
  | serverQueue first rest owner hlink howner => exact Or.inl (by rw [hlink]; exact .tail _ hm)
  | clientReject first rest hlink => exact hnew (.refusal _) hm
  | refuseGoal other available first rest hqueue hop => exact hnew (.refusal _) hm
  | goalAccepted other hpending => exact hnew (.acceptance other (Or.inl (by simp))) hm
  | goalRejected other hpending => exact hnew (.acceptance other (Or.inr (by simp))) hm
  | answerCancel other label opCode settling hlabel hop =>
      exact hnew (.cancelAnswer other opCode hop) hm
  | emit other emission data settling hsent => exact hnew (.emission other emission data hsent) hm
  | _ => exact Or.inl hm

/-- A message that is on the link to the client was there, cancels a goal or is
the goal message of a goal that waits from then on. -/
theorem Step.mem_toClient (hstep : Step config s label t) {m : Transfer}
    (hm : m ∈ t.toClient) : m ∈ s.toClient ∨ m.opCode = .actionToClientCancel ∨
      ∃ other, m.gID = other.bytes ∧ (t.goals other).phase = .waiting := by
  have hcancel {link : List Transfer} {gID : Bytes}
      (hmem : m ∈ link ++ [.arriving config.reception .actionToClientCancel gID []]) :
      m ∈ link ∨ m.opCode = .actionToClientCancel ∨
        ∃ other, m.gID = other.bytes ∧ (t.goals other).phase = .waiting := by
    refine (List.mem_append.mp hmem).imp_right (fun hlast => Or.inl ?_)
    rw [List.mem_singleton.mp hlast]
    rfl
  cases hstep with
  | sendGoal other data hphase =>
      refine (List.mem_append.mp hm).imp_right (fun hlast => Or.inr ⟨other, ?_, by simp⟩)
      rw [List.mem_singleton.mp hlast]
      rfl
  | goalTimeout other hphase => exact hcancel hm
  | acceptUnknown other hphase haccepted hknown => exact hcancel hm
  | acceptJoinable other owner hphase haccepted howner hthread => exact hcancel hm
  | sendCancel other harmed => exact hcancel hm
  | clientReject first rest hlink => exact Or.inl (by rw [hlink]; exact .tail _ hm)
  | clientNew first rest other hlink hop hgid => exact Or.inl (by rw [hlink]; exact .tail _ hm)
  | clientCancel first rest other hlink hop => exact Or.inl (by rw [hlink]; exact .tail _ hm)
  | clientDrop first rest hlink => exact Or.inl (by rw [hlink]; exact .tail _ hm)
  | _ => exact Or.inl hm

/-- What a step does to `executeHandle` of a goal and to its callbacks. -/
inductive ExecutionStep (s : State) (g : GoalUUID) : Execution → Prop where
  | same : ExecutionStep s g (s.executions g)
  | create (m : Transfer) (hlink : m ∈ s.toClient) (hgID : m.gID = g.bytes) :
      ExecutionStep s g ⟨.running, [m], false, false, false, false, false, 0, []⟩
  | cancel (m : Transfer) (hlink : m ∈ s.toClient) (hop : m.opCode = .actionToClientCancel) :
      ExecutionStep s g { s.executions g with waitQueue := (s.executions g).waitQueue ++ [m] }
  | take (m : Transfer) (rest : List Transfer) (execution : Execution)
      (hqueue : (s.executions g).waitQueue = m :: rest)
      (hrest : execution.waitQueue = rest ∨ execution.waitQueue = rest ++ [m])
      (hsent : execution.goalSent = true →
        (s.executions g).goalSent = true ∨ m.opCode = .actionToClientGoal) :
      ExecutionStep s g execution
  | flags (execution : Execution) (hqueue : execution.waitQueue = (s.executions g).waitQueue)
      (hsent : execution.goalSent = (s.executions g).goalSent) : ExecutionStep s g execution

theorem ExecutionStep.update {other : GoalUUID} {execution : Execution}
    (h : ExecutionStep s other execution) (g : GoalUUID) :
    ExecutionStep s g (Function.update s.executions other execution g) := by
  by_cases hsame : g = other
  · subst hsame
    simpa using h
  · rw [Function.update_of_ne hsame]
    exact .same

theorem Step.execution (hstep : Step config s label t) (g : GoalUUID) :
    ExecutionStep s g (t.executions g) := by
  cases hstep with
  | clientNew m rest other hlink hop hgid =>
      exact .update (.create m (by simp [hlink]) hgid) g
  | clientCancel m rest other hlink hop =>
      exact .update (.cancel m (by simp [hlink]) hop) g
  | finish other available =>
      refine .update ?_ g
      exact .flags _ rfl rfl
  | dropMessage other available m rest hqueue =>
      refine .update ?_ g
      exact .take m rest _ hqueue (Or.inl rfl) Or.inl
  | requeueCancel other available m rest hqueue hop =>
      refine .update ?_ g
      exact .take m rest _ hqueue (Or.inr rfl) Or.inl
  | executeCancel other available m rest hqueue =>
      refine .update ?_ g
      exact .take m rest _ hqueue (Or.inl rfl) Or.inl
  | asyncSendGoal other available m rest hqueue hop =>
      refine .update ?_ g
      exact .take m rest _ hqueue (Or.inl rfl) (fun _ => Or.inr hop)
  | refuseGoal other available m rest hqueue hop =>
      refine .update ?_ g
      exact .take m rest _ hqueue (Or.inl rfl) Or.inl
  | goalAccepted other hpending =>
      refine .update ?_ g
      exact .flags _ rfl rfl
  | goalRejected other hpending =>
      refine .update ?_ g
      exact .flags _ rfl rfl
  | answerCancel other label opCode settling hlabel hop =>
      refine .update ?_ g
      exact .flags _ rfl rfl
  | emit other emission data settling hsent =>
      refine .update ?_ g
      exact .flags _ rfl rfl
  | settle other settling =>
      refine .update ?_ g
      exact .flags _ (by simp) (by simp)
  | _ => exact .same

/-- A message queued for `executeHandle` was queued before or comes from the
link: a cancel, or the goal message of the goal. -/
theorem ExecutionStep.mem_waitQueue {execution : Execution} (h : ExecutionStep s g execution)
    {m : Transfer} (hm : m ∈ execution.waitQueue) : m ∈ (s.executions g).waitQueue ∨
      m ∈ s.toClient ∧ (m.opCode = .actionToClientCancel ∨ m.gID = g.bytes) := by
  cases h with
  | same => exact Or.inl hm
  | create first hlink hgID =>
      rw [List.mem_singleton.mp hm]
      exact Or.inr ⟨hlink, Or.inr hgID⟩
  | cancel last hlink hop =>
      refine (List.mem_append.mp hm).imp_right (fun hlast => ?_)
      rw [List.mem_singleton.mp hlast]
      exact ⟨hlink, Or.inl hop⟩
  | take first rest execution hqueue hrest hsent =>
      left
      rw [hqueue]
      rcases hrest with hrest | hrest <;> rw [hrest] at hm
      · exact .tail _ hm
      · simpa [or_comm] using hm
  | flags execution hqueue hsent =>
      rw [hqueue] at hm
      exact Or.inl hm

/-- The local action is sent the goal of a goal message only. -/
theorem ExecutionStep.goalSent {execution : Execution} (h : ExecutionStep s g execution)
    (hsent : execution.goalSent = true) : (s.executions g).goalSent = true ∨
      ∃ m ∈ (s.executions g).waitQueue, m.opCode = .actionToClientGoal := by
  cases h with
  | same => exact Or.inl hsent
  | create first hlink hgID => cases hsent
  | cancel last hlink hop => exact Or.inl hsent
  | take first rest execution hqueue hrest hgoal =>
      refine (hgoal hsent).imp_right (fun hop => ⟨first, ?_, hop⟩)
      simp [hqueue]
  | flags execution hqueue hsame => exact Or.inl (hsame ▸ hsent)

/-- The client's plugin emits for goals that were sent to the local action. -/
theorem Step.emitted (hstep : Step config s label t) (g : GoalUUID) :
    t.emitted g = s.emitted g ∨ (s.executions g).goalSent = true := by
  cases hstep with
  | emit other emission data settling hsent =>
      by_cases hsame : g = other
      · exact Or.inr (hsame ▸ hsent)
      · exact Or.inl (Function.update_of_ne hsame _ _)
  | _ => exact Or.inl rfl

/-- Calls on the goal handle are made by a running thread. -/
theorem Step.calls (hstep : Step config s label t) (g : GoalUUID) :
    t.calls g = s.calls g ∨ (s.goals g).thread = .running := by
  cases hstep with
  | callFeedback other m rest data hthread hqueue hcall hdata =>
      by_cases hsame : g = other
      · exact Or.inr (hsame ▸ hthread)
      · exact Or.inl (Function.update_of_ne hsame _ _)
  | callResult other m rest call data hthread hqueue hresult hcall =>
      by_cases hsame : g = other
      · exact Or.inr (hsame ▸ hthread)
      · exact Or.inl (Function.update_of_ne hsame _ _)
  | _ => exact Or.inl rfl

/-- A verdict, once made, stays. -/
theorem Step.verdicts_subset (hstep : Step config s label t) (g : GoalUUID) :
    s.verdicts g ⊆ t.verdicts g := by
  have hupdate (other : GoalUUID) (verdict : Verdict) : s.verdicts g ⊆
      Function.update s.verdicts other (s.verdicts other ++ [verdict]) g := by
    by_cases hsame : g = other
    · subst hsame
      simp
    · simp [hsame]
  cases hstep with
  | refuseGoal other available m rest hqueue hop => exact hupdate other .refused
  | goalAccepted other hpending => exact hupdate other .accepted
  | goalRejected other hpending => exact hupdate other .rejected
  | _ => exact fun _ h => h

/-- A message queued for `executeAccepted` was queued before or comes from the
link. -/
theorem GoalStep.mem_waitQueue {goal : Goal} (h : GoalStep s g label goal) {m : Transfer}
    (hm : m ∈ goal.waitQueue) :
    m ∈ (s.goals g).waitQueue ∨ m ∈ s.toServer ∧ m.gID = g.bytes := by
  cases h with
  | take first rest hthread hqueue => exact Or.inl (by rw [hqueue]; exact .tail _ hm)
  | finish first rest hthread hqueue => exact Or.inl (by rw [hqueue]; exact .tail _ hm)
  | queue last hlink hgID =>
      refine (List.mem_append.mp hm).imp_right (fun hlast => ?_)
      rw [List.mem_singleton.mp hlast]
      exact ⟨hlink, hgID⟩
  | _ => exact Or.inl hm

/-- A response to the goal was there before or comes from the link. -/
theorem GoalStep.goalResponse_cases {goal : Goal} (h : GoalStep s g label goal) {m : Transfer}
    (hm : goal.goalResponse = some m) :
    (s.goals g).goalResponse = some m ∨ m ∈ s.toServer ∧ m.gID = g.bytes := by
  cases h with
  | arm hphase => cases hm
  | goalResponse last hlink hgID =>
      cases hm
      exact Or.inr ⟨hlink, hgID⟩
  | _ => exact Or.inl hm

/-- A goal is accepted upon a response that says so. -/
theorem GoalStep.accepted_cases {goal : Goal} (h : GoalStep s g label goal)
    (hphase : goal.phase = .returned true) : (s.goals g).phase = .returned true ∨
      ∃ m, (s.goals g).goalResponse = some m ∧ m.opCode = .actionToServerGoalAccept := by
  cases h with
  | accept m hwaiting hresponse hop => exact Or.inr ⟨m, hresponse, hop⟩
  | insert hidle => cases hphase
  | arm hinserted => cases hphase
  | send data harmed => cases hphase
  | turnDown label hwaiting => cases hphase
  | _ => exact Or.inl hphase

theorem GoalStep.phase_ne_idle {goal : Goal} (h : GoalStep s g label goal)
    (hphase : (s.goals g).phase ≠ .idle) : goal.phase ≠ .idle := by
  cases h with
  | insert hidle => exact absurd hidle hphase
  | arm hinserted => simp
  | send data harmed => simp
  | accept m hwaiting hresponse hop => simp
  | turnDown label hwaiting => simp
  | _ => exact hphase

/-- A handle in the map was there before or is the one of a goal that was just
inserted. -/
theorem Step.mem_serverHandles (hstep : Step config s label t) {k : Bytes}
    (h : t.serverHandles k = some g) :
    s.serverHandles k = some g ∨ (t.goals g).phase = .inserted := by
  cases hstep with
  | insertHandle other hphase =>
      rcases KeyMap.insert_eq_some h with hold | ⟨-, rfl, -⟩
      · exact Or.inl hold
      · exact Or.inr (by simp)
  | serverRemove other rest hqueue => exact Or.inl (KeyMap.erase_eq_some h).2
  | _ => exact Or.inl h

theorem Step.of_insertHandle (hstep : Step config s (.insertHandle g) t) :
    t.serverHandles = s.serverHandles.insert g.gIDString g ∧
      t.serverToRemove = s.serverToRemove := by
  cases hstep with
  | insertHandle other hphase => exact ⟨rfl, rfl⟩
  | endCancel other label hlabel => rcases hlabel with hlabel | hlabel <;> cases hlabel
  | answerCancel other label opCode settling hlabel hop =>
      rcases hlabel with hlabel | hlabel <;> cases hlabel

/-- A handle that is not to be removed stays in the map. -/
theorem Step.serverHandles_kept (hstep : Step config s label t) {other : GoalUUID}
    (h : s.serverHandles g.gIDString = some other) (hremoval : g ∉ s.serverToRemove) :
    t.serverHandles g.gIDString = some other := by
  cases hstep with
  | insertHandle inserted hphase =>
      by_cases hkey : g.gIDString = inserted.gIDString
      · rw [KeyMap.insert_of_some (hkey ▸ h)]
        exact h
      · exact (KeyMap.insert_of_ne _ hkey).trans h
  | serverRemove removed rest hqueue =>
      have hkey : g.gIDString ≠ removed.gIDString := by
        rw [Ne, GoalUUID.gIDString_inj]
        rintro rfl
        exact hremoval (by simp [hqueue])
      exact (KeyMap.erase_of_ne _ hkey).trans h
  | _ => exact h

/-- Why a handle is queued for removal. -/
inductive Removes (s t : State) (g : GoalUUID) : Prop where
  | turnedDown (hphase : (t.goals g).phase = .returned false)
  | abandoned (haccepted : (t.goals g).accepted = some false)
  | finished (hthread : (t.goals g).thread = .finished)
  | canceled (hwaiting : (s.goals g).cancelsWaiting ≠ 0)
      (hwait : (s.goals g).handlingWait = false)

theorem Step.mem_serverToRemove (hstep : Step config s label t)
    (hkeyed : s.serverHandles.KeyedBy GoalUUID.gIDString) (hmem : g ∈ t.serverToRemove) :
    g ∈ s.serverToRemove ∨ Removes s t g := by
  have hnew {queue : List GoalUUID} {last : GoalUUID} (hremoves : Removes s t last)
      (h : g ∈ queue ++ [last]) : g ∈ queue ∨ Removes s t g := by
    refine (List.mem_append.mp h).imp_right (fun hlast => ?_)
    rwa [List.mem_singleton.mp hlast]
  cases hstep with
  | rejectGoal other hphase => exact hnew (.turnedDown (by simp)) hmem
  | goalTimeout other hphase => exact hnew (.turnedDown (by simp)) hmem
  | acceptJoinable other owner hphase haccepted howner hthread =>
      obtain rfl := owner_of_keyed hkeyed howner
      exact hnew (.abandoned (by simp)) hmem
  | callResult other m rest call data hthread hqueue hresult hcall =>
      exact hnew (.finished (by simp)) hmem
  | endCancelRemoving other hwaiting hwait => exact hnew (.canceled hwaiting hwait) hmem
  | serverRemove other rest hqueue => exact Or.inl (by rw [hqueue]; exact .tail _ hmem)
  | _ => exact Or.inl hmem

end Action

end Ros2Connect
