import Ros2Connect.Action.Effects

/-!
The verdict `sendGoalAndWait` returns for a goal. A goal is sent once and
decided at most once on the client's node, so an acceptance that reaches the
server tells of the one callback that sent it.
-/

namespace Ros2Connect

open Lib

namespace Action

variable {config : Config} {s t : State} {label : Label}

/-- A callback of the client's plugin has answered the goal. -/
def Answered (s : State) (g : GoalUUID) : Prop :=
  .accepted ∈ s.verdicts g ∨ .rejected ∈ s.verdicts g

/-- An acceptance of the goal, wherever it is, was sent by a callback. -/
structure Sourced (s : State) (g : GoalUUID) : Prop where
  keyed : s.serverHandles.KeyedBy GoalUUID.gIDString
  link : ∀ m ∈ s.toServer, m.opCode = .actionToServerGoalAccept → m.gID = g.bytes →
    Answered s g
  response : ∀ m, (s.goals g).goalResponse = some m → m.opCode = .actionToServerGoalAccept →
    Answered s g
  returned : (s.goals g).phase = .returned true → Answered s g

theorem Sourced.start (g : GoalUUID) : Sourced State.start g where
  keyed := KeyMap.KeyedBy.empty _
  link := by simp [State.start]
  response := by simp [State.start]
  returned := by simp [State.start]

theorem Sourced.step {g : GoalUUID} (h : Sourced s g) (hstep : Step config s label t) :
    Sourced t g := by
  have hgoal := hstep.goal h.keyed g
  have hkept : Answered s g → Answered t g :=
    Or.imp (fun hmem => hstep.verdicts_subset g hmem) (fun hmem => hstep.verdicts_subset g hmem)
  refine ⟨keyed_of_step h.keyed hstep, ?_, ?_, ?_⟩
  · intro m hm hop hgID
    rcases hstep.mem_toServer hm with hold | hsent
    · exact hkept (h.link m hold hop hgID)
    · cases hsent with
      | refusal gID => cases hop
      | acceptance other hverdict =>
          obtain rfl : other = g := GoalUUID.ext hgID
          exact hverdict
      | cancelAnswer other opCode hanswer =>
          rcases hanswer with hanswer | hanswer <;> cases hanswer.symm.trans hop
      | emission other emission data hsent => cases emission <;> cases hop
  · intro m hm hop
    rcases hgoal.goalResponse_cases hm with hold | ⟨hmem, hgID⟩
    · exact hkept (h.response m hold hop)
    · exact hkept (h.link m hmem hop hgID)
  · intro hphase
    rcases hgoal.accepted_cases hphase with hold | ⟨m, hresponse, hop⟩
    · exact hkept (h.returned hold)
    · exact hkept (h.response m hresponse hop)

/-- A goal message for the goal. -/
def IsGoal (g : GoalUUID) (m : Transfer) : Bool :=
  m.opCode == .actionToClientGoal && m.gID == g.bytes

/-- The goal messages of a goal that are yet to be decided on, the callback that
is to decide, and the decisions made. -/
def decisions (s : State) (g : GoalUUID) : Nat :=
  s.toClient.countP (IsGoal g) +
    (s.executions g).waitQueue.countP (fun m => m.opCode == .actionToClientGoal) +
    (if (s.executions g).goalPending then 1 else 0) + (s.verdicts g).length

/-- One when the goal has been sent. -/
def Goal.sendCount (goal : Goal) : Nat :=
  match goal.phase with
  | .waiting | .returned _ => 1
  | _ => 0

/-- A goal is decided at most once, and not before it was sent. -/
def DecidedOnce (s : State) (g : GoalUUID) : Prop :=
  decisions s g ≤ (s.goals g).sendCount

/-- The goal messages `executeHandle` has yet to take and the callback that is to
decide. -/
def Execution.undecided (execution : Execution) : Nat :=
  execution.waitQueue.countP (fun m => m.opCode == .actionToClientGoal) +
    if execution.goalPending then 1 else 0

theorem decisions_eq (s : State) (g : GoalUUID) : decisions s g =
    s.toClient.countP (IsGoal g) + (s.executions g).undecided + (s.verdicts g).length := by
  simp only [decisions, Execution.undecided]
  omega

theorem undecided_update {g other : GoalUUID} {execution : Execution}
    (h : execution.undecided ≤ (s.executions other).undecided) :
    (Function.update s.executions other execution g).undecided ≤
      (s.executions g).undecided := by
  by_cases hsame : g = other
  · subst hsame
    simpa using h
  · rw [Function.update_of_ne hsame]

/-- Taking a message from the queue of `executeHandle`. -/
theorem undecided_of_queue {execution : Execution} {m : Transfer} {rest : List Transfer}
    (hqueue : execution.waitQueue = m :: rest) :
    execution.undecided = { execution with waitQueue := rest }.undecided +
      if m.opCode = .actionToClientGoal then 1 else 0 := by
  simp only [Execution.undecided, hqueue, List.countP_cons, beq_iff_eq]
  omega

/-- A step that makes no verdict. -/
theorem decisions_le_of_parts {g : GoalUUID}
    (hlink : t.toClient.countP (IsGoal g) ≤ s.toClient.countP (IsGoal g))
    (hexecution : (t.executions g).undecided ≤ (s.executions g).undecided)
    (hverdicts : t.verdicts = s.verdicts) : decisions t g ≤ decisions s g := by
  rw [decisions_eq, decisions_eq, hverdicts]
  omega

/-- A step that makes a verdict decides what was undecided. -/
theorem decisions_le_of_verdict {g other : GoalUUID} {execution : Execution}
    {verdict : Verdict} (hlink : t.toClient = s.toClient)
    (hexecution : t.executions = Function.update s.executions other execution)
    (hless : execution.undecided + 1 ≤ (s.executions other).undecided)
    (hverdicts : t.verdicts =
      Function.update s.verdicts other (s.verdicts other ++ [verdict])) :
    decisions t g ≤ decisions s g := by
  rw [decisions_eq, decisions_eq, hlink, hexecution, hverdicts]
  by_cases hsame : g = other
  · subst hsame
    simp only [Function.update_self, List.length_append, List.length_singleton]
    omega
  · simp only [Function.update_of_ne hsame]
    omega

/-- Only a goal message of the goal adds to what is to be decided. -/
theorem decisions_le {g : GoalUUID} (hstep : Step config s label t)
    (hlabel : ∀ data, label ≠ .sendGoal g data) : decisions t g ≤ decisions s g := by
  have hcancel (gID : Bytes) :
      (s.toClient ++ [Transfer.arriving config.reception .actionToClientCancel gID []]).countP
        (IsGoal g) ≤ s.toClient.countP (IsGoal g) := by
    simp [IsGoal]
  have hpop {m : Transfer} {rest : List Transfer} (hlink : s.toClient = m :: rest) :
      rest.countP (IsGoal g) ≤ s.toClient.countP (IsGoal g) := by
    rw [hlink, List.countP_cons]
    exact Nat.le_add_right _ _
  cases hstep with
  | sendGoal other data hphase =>
      have hother : other.bytes ≠ g.bytes := by
        intro hbytes
        obtain rfl := GoalUUID.ext hbytes
        exact hlabel data rfl
      exact decisions_le_of_parts (by simp [IsGoal, hother]) le_rfl rfl
  | goalTimeout other hphase => exact decisions_le_of_parts (hcancel _) le_rfl rfl
  | acceptUnknown other hphase haccepted hknown =>
      exact decisions_le_of_parts (hcancel _) le_rfl rfl
  | acceptJoinable other owner hphase haccepted howner hthread =>
      exact decisions_le_of_parts (hcancel _) le_rfl rfl
  | sendCancel other harmed => exact decisions_le_of_parts (hcancel _) le_rfl rfl
  | clientReject m rest hlink => exact decisions_le_of_parts (hpop hlink) le_rfl rfl
  | clientNew m rest other hlink hop hgid =>
      -- the goal message moves from the link to the queue
      rw [decisions_eq, decisions_eq]
      by_cases hsame : g = other
      · subst hsame
        simp [hlink, IsGoal, hop, hgid, Execution.undecided]
      · have hmoved := hpop hlink
        simp only [Function.update_of_ne hsame]
        omega
  | clientCancel m rest other hlink hop =>
      refine decisions_le_of_parts (hpop hlink) (undecided_update ?_) rfl
      simp [Execution.undecided, hop]
  | clientDrop m rest hlink => exact decisions_le_of_parts (hpop hlink) le_rfl rfl
  | finish other available => exact decisions_le_of_parts le_rfl (undecided_update le_rfl) rfl
  | dropMessage other available m rest hqueue =>
      refine decisions_le_of_parts le_rfl (undecided_update ?_) rfl
      rw [undecided_of_queue hqueue]
      exact Nat.le_add_right _ _
  | requeueCancel other available m rest hqueue hop =>
      refine decisions_le_of_parts le_rfl (undecided_update ?_) rfl
      rw [undecided_of_queue hqueue]
      simp [Execution.undecided, hop]
  | executeCancel other available m rest hqueue =>
      refine decisions_le_of_parts le_rfl (undecided_update ?_) rfl
      rw [undecided_of_queue hqueue]
      exact Nat.le_add_right _ _
  | asyncSendGoal other available m rest hqueue hop =>
      refine decisions_le_of_parts le_rfl (undecided_update ?_) rfl
      rw [undecided_of_queue hqueue, if_pos hop]
      simp [Execution.undecided]
  | refuseGoal other available m rest hqueue hop =>
      refine decisions_le_of_verdict rfl rfl ?_ rfl
      rw [undecided_of_queue hqueue, if_pos hop]
      exact le_rfl
  | goalAccepted other hpending =>
      exact decisions_le_of_verdict rfl rfl (by simp [Execution.undecided, hpending]) rfl
  | goalRejected other hpending =>
      exact decisions_le_of_verdict rfl rfl (by simp [Execution.undecided, hpending]) rfl
  | answerCancel other label opCode settling hsettled hop =>
      exact decisions_le_of_parts le_rfl (undecided_update le_rfl) rfl
  | emit other emission data settling hsent =>
      exact decisions_le_of_parts le_rfl (undecided_update le_rfl) rfl
  | settle other settling =>
      refine decisions_le_of_parts le_rfl (undecided_update ?_) rfl
      simp [Execution.undecided]
  | _ => exact decisions_le_of_parts le_rfl le_rfl rfl

theorem decisions_sendGoal {g : GoalUUID} {data : Bytes}
    (hstep : Step config s (.sendGoal g data) t) :
    decisions t g = decisions s g + 1 ∧ (s.goals g).sendCount = 0 ∧
      (t.goals g).sendCount = 1 := by
  cases hstep with
  | sendGoal other data hphase =>
      refine ⟨?_, by simp [Goal.sendCount, hphase], by simp [Goal.sendCount]⟩
      simp only [decisions_eq, List.countP_append, List.countP_singleton]
      simp [IsGoal, Nat.add_right_comm]
  | endCancel other label hlabel => rcases hlabel with hlabel | hlabel <;> cases hlabel
  | answerCancel other label opCode settling hlabel hop =>
      rcases hlabel with hlabel | hlabel <;> cases hlabel

/-- A goal that was sent stays sent. -/
theorem GoalStep.sendCount_le {g : GoalUUID} {goal : Goal} (h : GoalStep s g label goal) :
    (s.goals g).sendCount ≤ goal.sendCount := by
  cases h with
  | insert hphase => simp [Goal.sendCount, hphase]
  | arm hphase => simp [Goal.sendCount, hphase]
  | send data hphase => simp [Goal.sendCount, hphase]
  | accept m hphase hresponse hop => simp [Goal.sendCount, hphase]
  | turnDown label hphase => simp [Goal.sendCount, hphase]
  | _ => exact le_rfl

theorem DecidedOnce.step {g : GoalUUID} (h : DecidedOnce s g)
    (hkeyed : s.serverHandles.KeyedBy GoalUUID.gIDString)
    (hstep : Step config s label t) : DecidedOnce t g := by
  unfold DecidedOnce at *
  by_cases hlabel : ∃ data, label = .sendGoal g data
  · obtain ⟨data, rfl⟩ := hlabel
    obtain ⟨hmore, hunsent, hsent⟩ := decisions_sendGoal hstep
    omega
  · have hless := decisions_le hstep (fun data heq => hlabel ⟨data, heq⟩)
    exact hless.trans (h.trans (hstep.goal hkeyed g).sendCount_le)

/-- `goalRejected` has not been called for the goal. -/
def NotRejected (s : State) (g : GoalUUID) : Prop := .rejected ∉ s.verdicts g

theorem NotRejected.step {g : GoalUUID} (h : NotRejected s g)
    (hstep : Step config s label t) (hlabel : label ≠ .goalRejected g) :
    NotRejected t g := by
  have hupdate {other : GoalUUID} {verdict : Verdict}
      (hverdict : other = g → verdict ≠ .rejected) :
      .rejected ∉ Function.update s.verdicts other (s.verdicts other ++ [verdict]) g := by
    by_cases hsame : g = other
    · subst hsame
      simpa using ⟨h, (hverdict rfl).symm⟩
    · rw [Function.update_of_ne hsame]
      exact h
  cases hstep with
  | refuseGoal other available m rest hqueue hop => exact hupdate (by simp)
  | goalAccepted other hpending => exact hupdate (by simp)
  | goalRejected other hpending => exact hupdate (fun hsame => absurd (hsame ▸ rfl) hlabel)
  | _ => exact h

/-- The verdict of `sendGoalAndWait` is the one of the client's node:
`ACCEPT_AND_EXECUTE` for an accepted goal only, `REJECT` for a goal that was
rejected or refused. -/
structure Agrees (s : State) (g : GoalUUID) : Prop where
  accepted : (s.goals g).phase = .returned true → .accepted ∈ s.verdicts g
  rejected : ∀ accept, (s.goals g).phase = .returned accept →
    .rejected ∈ s.verdicts g ∨ .refused ∈ s.verdicts g → accept = false

instance (s : State) (g : GoalUUID) : Decidable (Agrees s g) :=
  decidable_of_iff
    (((s.goals g).phase = .returned true → .accepted ∈ s.verdicts g) ∧
      ∀ accept, (s.goals g).phase = .returned accept →
        .rejected ∈ s.verdicts g ∨ .refused ∈ s.verdicts g → accept = false)
    ⟨fun h => ⟨h.1, h.2⟩, fun h => ⟨h.accepted, h.rejected⟩⟩

theorem agrees_of_invariant {g : GoalUUID} (hsourced : Sourced s g)
    (honce : DecidedOnce s g) (hnot : NotRejected s g) : Agrees s g := by
  have haccepted : (s.goals g).phase = .returned true → .accepted ∈ s.verdicts g :=
    fun hphase => (hsourced.returned hphase).resolve_right hnot
  refine ⟨haccepted, ?_⟩
  intro accept hphase hdecided
  cases accept with
  | false => rfl
  | true =>
      have hrefused := hdecided.resolve_left hnot
      have hlength : (s.verdicts g).length ≤ 1 := by
        have hcount : (s.goals g).sendCount = 1 := by simp [Goal.sendCount, hphase]
        unfold DecidedOnce decisions at honce
        omega
      -- both verdicts are the one element of the list
      obtain ⟨verdict, hverdict⟩ := List.length_eq_one_iff.mp
        (le_antisymm hlength (List.length_pos_of_mem hrefused))
      have hboth := haccepted hphase
      rw [hverdict, List.mem_singleton] at hrefused hboth
      exact absurd (hrefused.trans hboth.symm) (by decide)

/-- Runs of any number of goals: a goal for which `goalRejected` is never called
gets the verdict of the client's node. -/
theorem sendGoalAndWait_agrees (config : Config) (g : GoalUUID) (s : State)
    (h : (pair config).ReachableWith (fun _ label => label ≠ .goalRejected g) s) :
    Agrees s g := by
  have hinvariant : Sourced s g ∧ DecidedOnce s g ∧ NotRejected s g := by
    refine h.invariant (fun s => Sourced s g ∧ DecidedOnce s g ∧ NotRejected s g) ?_ ?_
    · refine ⟨.start g, ?_, ?_⟩
      · simp [DecidedOnce, decisions, pair, State.start]
      · simp [NotRejected, pair, State.start]
    · rintro s label ⟨hsourced, honce, hnot⟩ henabled hlabel
      have hstep : Step config s label (next config s label) := .of_enabled henabled
      exact ⟨hsourced.step hstep, honce.step hsourced.keyed hstep, hnot.step hstep hlabel⟩
  exact agrees_of_invariant hinvariant.1 hinvariant.2.1 hinvariant.2.2

private def goal : GoalUUID := ⟨List.replicate 16 7, by simp⟩

private def openConfig : Config := ⟨0, true, fun _ _ data => some data⟩

/-- A goal the client's plugin rejects is accepted by the server: the rejection
is sent as an acceptance. -/
theorem goalRejected_accepts :
    ¬ ∀ (config : Config) (g : GoalUUID) (s : State), (pair config).Reachable s →
      Agrees s g := by
  intro hall
  obtain ⟨s, hreachable, hdisagrees⟩ := Machine.exists_reachable (M := pair openConfig)
    (fun s => ¬ Agrees s goal)
    [.insertHandle goal, .startHandling goal, .sendGoal goal [1], .clientHandle,
      .executeHandle goal true, .goalRejected goal, .serverHandle, .receiveGoalResponse goal]
    (by decide)
  exact hdisagrees (hall openConfig goal s hreachable)

/-- A goal that is accepted. -/
theorem sendGoalAndWait_agrees_accepted :
    ∃ s : State, (s.goals goal).phase = .returned true ∧ Agrees s goal := by
  have hrun : ∃ s, (pair openConfig).ReachableWith
      (fun _ label => label ≠ .goalRejected goal) s ∧
      (s.goals goal).phase = .returned true :=
    Machine.ReachableWith.exists_replay (fun _ _ h => h)
      (fun s : State => (s.goals goal).phase = .returned true) .start
      [.insertHandle goal, .startHandling goal, .sendGoal goal [1], .clientHandle,
        .executeHandle goal true, .goalAccepted goal, .serverHandle,
        .receiveGoalResponse goal] (by decide)
  obtain ⟨s, hreachable, hphase⟩ := hrun
  exact ⟨s, hphase, sendGoalAndWait_agrees openConfig goal s hreachable⟩

end Action

end Ros2Connect
