import Ros2Connect.Action.Effects

/-!
The handle of a goal on the server's node. From the insertion until its thread
ends the handle of an accepted goal is in the map, provided cancels are asked
for after `handleAccepted` only; and nothing happens to a goal before it is
sent.
-/

namespace Ros2Connect

open Lib

namespace Action

variable {config : Config} {s t : State} {label : Label} {g : GoalUUID}

/-- The call `executeAccepted` makes for a message, if any. -/
def Transfer.asCall? (m : Transfer) : Option (PluginCall × Bytes) :=
  (PluginCall.ofOpCode? m.opCode).bind fun call => m.data.map fun data => (call, data)

/-- rclcpp asks for a cancel of the goal after `handleAccepted` returned true
only. -/
def CancelsLater (g : GoalUUID) (s : State) (label : Label) : Prop :=
  label = .findCancel g → (s.goals g).accepted = some true

/-- The goal is known on the server's node, has not been turned down, and its
thread has not ended. -/
def Goal.IsLive (goal : Goal) : Prop :=
  goal.phase ≠ .idle ∧ goal.phase ≠ .returned false ∧ goal.accepted ≠ some false ∧
    goal.thread ≠ .finished

/-- A goal becomes live when its handle is inserted. -/
theorem GoalStep.isLive_cases {goal : Goal} (h : GoalStep s g label goal)
    (hlive : goal.IsLive) : (s.goals g).IsLive ∨
      label = .insertHandle g ∧ (s.goals g).phase = .idle := by
  obtain ⟨hphase, hreturned, haccepted, hthread⟩ := hlive
  cases h with
  | insert hidle => exact Or.inr ⟨rfl, hidle⟩
  | arm hinserted => exact Or.inl ⟨by simp [hinserted], by simp [hinserted], haccepted, hthread⟩
  | send data harmed => exact Or.inl ⟨by simp [harmed], by simp [harmed], haccepted, hthread⟩
  | accept m hwaiting hresponse hop =>
      exact Or.inl ⟨by simp [hwaiting], by simp [hwaiting], haccepted, hthread⟩
  | turnDown label hwaiting => exact absurd rfl hreturned
  | abandon label haccept hnone => exact absurd rfl haccepted
  | start haccept hnone habsent =>
      exact Or.inl ⟨hphase, hreturned, by simp [hnone], by simp [habsent]⟩
  | finish m rest hrunning hqueue => exact absurd rfl hthread
  | _ => exact Or.inl ⟨hphase, hreturned, haccepted, hthread⟩

theorem GoalStep.finished {goal : Goal} (h : GoalStep s g label goal)
    (hthread : (s.goals g).thread = .finished) : goal.thread = .finished := by
  cases h with
  | start haccept hnone habsent => cases habsent.symm.trans hthread
  | finish m rest hrunning hqueue => rfl
  | _ => exact hthread

/-- The handle of a live goal is in the map and is not to be removed. -/
structure Registered (s : State) (g : GoalUUID) : Prop where
  keyed : s.serverHandles.KeyedBy GoalUUID.gIDString
  entered : ∀ k, s.serverHandles k = some g → (s.goals g).phase ≠ .idle
  removal : g ∈ s.serverToRemove → (s.goals g).phase ≠ .idle
  started : (s.goals g).thread ≠ .absent ↔ (s.goals g).accepted = some true
  returned : (s.goals g).accepted ≠ none → (s.goals g).phase = .returned true
  waits : (s.goals g).thread = .running → (s.goals g).handlingWait = true
  cancels : (s.goals g).cancelsFound ≠ 0 ∨ (s.goals g).cancelsArmed ≠ 0 ∨
    (s.goals g).cancelsWaiting ≠ 0 → (s.goals g).accepted = some true
  handle : (s.goals g).IsLive → s.serverHandles g.gIDString = some g ∧ g ∉ s.serverToRemove

theorem Registered.start (g : GoalUUID) : Registered State.start g where
  keyed := KeyMap.KeyedBy.empty _
  entered := by simp [State.start]
  removal := by simp [State.start]
  started := by simp [State.start]
  returned := by simp [State.start]
  waits := by simp [State.start]
  cancels := by simp [State.start]
  handle := by simp [State.start, Goal.IsLive]

/-- What the fields of a goal tell of each other. -/
structure Goal.Coherent (goal : Goal) : Prop where
  started : goal.thread ≠ .absent ↔ goal.accepted = some true
  returned : goal.accepted ≠ none → goal.phase = .returned true
  waits : goal.thread = .running → goal.handlingWait = true
  cancels : goal.cancelsFound ≠ 0 ∨ goal.cancelsArmed ≠ 0 ∨ goal.cancelsWaiting ≠ 0 →
    goal.accepted = some true

theorem Registered.coherent (h : Registered s g) : (s.goals g).Coherent :=
  ⟨h.started, h.returned, h.waits, h.cancels⟩

/-- Until it is accepted, a goal has neither thread nor cancels. -/
theorem Goal.Coherent.accepted_eq_none {goal : Goal} (h : goal.Coherent)
    (hphase : goal.phase ≠ .returned true) : goal.accepted = none := by
  by_contra haccepted
  exact hphase (h.returned haccepted)

/-- `sendGoalAndWait` goes on for a goal. -/
theorem Goal.Coherent.setPhase {goal changed : Goal} (h : goal.Coherent)
    (hphase : goal.phase ≠ .returned true) (hthread : changed.thread = goal.thread)
    (haccepted : changed.accepted = goal.accepted)
    (hwait : changed.handlingWait = goal.handlingWait)
    (hcancels : (changed.cancelsFound, changed.cancelsArmed, changed.cancelsWaiting) =
      (goal.cancelsFound, goal.cancelsArmed, goal.cancelsWaiting)) : changed.Coherent := by
  simp only [Prod.mk.injEq] at hcancels
  obtain ⟨hfound, harmed, hwaiting⟩ := hcancels
  refine ⟨?_, ?_, ?_, ?_⟩
  · rw [hthread, haccepted]
    exact h.started
  · rw [haccepted]
    exact fun hknown => absurd (h.accepted_eq_none hphase) hknown
  · rw [hthread, hwait]
    exact h.waits
  · rw [hfound, harmed, hwaiting, haccepted]
    exact h.cancels

/-- A goal that is accepted is left alone but for its cancels. -/
theorem Goal.Coherent.setCancels {goal : Goal} (h : goal.Coherent)
    (haccepted : goal.accepted = some true) (handling : Bool) (response : Option Transfer)
    (found armed waiting : Nat) :
    { goal with
      handlingCancel := handling
      cancelResponse := response
      cancelsFound := found
      cancelsArmed := armed
      cancelsWaiting := waiting : Goal }.Coherent :=
  ⟨h.started, h.returned, h.waits, fun _ => haccepted⟩

theorem Goal.Coherent.step {goal : Goal} (h : (s.goals g).Coherent)
    (hstep : GoalStep s g label goal) (hlater : CancelsLater g s label) : goal.Coherent := by
  cases hstep with
  | same => exact h
  | insert hphase => exact h.setPhase (by simp [hphase]) rfl rfl rfl rfl
  | arm hphase => exact h.setPhase (by simp [hphase]) rfl rfl rfl rfl
  | send data hphase => exact h.setPhase (by simp [hphase]) rfl rfl rfl rfl
  | accept m hphase hresponse hop => exact h.setPhase (by simp [hphase]) rfl rfl rfl rfl
  | turnDown label hphase => exact h.setPhase (by simp [hphase]) rfl rfl rfl rfl
  | abandon label hphase haccepted =>
      have hnot : (s.goals g).accepted ≠ some true := by simp [haccepted]
      refine ⟨?_, fun _ => hphase, h.waits, fun hcancels => absurd (h.cancels hcancels) hnot⟩
      simpa using h.started.not.mpr hnot
  | start hphase haccepted hthread => exact ⟨by simp, fun _ => hphase, fun _ => rfl, fun _ => rfl⟩
  | take m rest hthread hqueue => exact ⟨h.started, h.returned, h.waits, h.cancels⟩
  | finish m rest hthread hqueue =>
      have haccepted := h.started.mp (by simp [hthread])
      exact ⟨by simp [haccepted], h.returned, by simp, h.cancels⟩
  | findCancel => exact h.setCancels (hlater rfl) _ _ _ _ _
  | startCancel hfound => exact h.setCancels (h.cancels (Or.inl hfound)) _ _ _ _ _
  | sendCancel harmed => exact h.setCancels (h.cancels (Or.inr (Or.inl harmed))) _ _ _ _ _
  | endCancel label =>
      refine ⟨h.started, h.returned, h.waits, fun hcancels => h.cancels ?_⟩
      refine hcancels.imp_right (Or.imp_right ?_)
      intro hwaiting hnone
      exact hwaiting (by simp [hnone])
  | goalResponse m hlink hgID => exact ⟨h.started, h.returned, h.waits, h.cancels⟩
  | cancelResponse m => exact ⟨h.started, h.returned, h.waits, h.cancels⟩
  | queue m hlink hgID => exact ⟨h.started, h.returned, h.waits, h.cancels⟩

/-- A handle is queued for removal when its goal is no longer live. -/
theorem Registered.removes (h : Registered s g) (hremoves : Removes s t g)
    (hgoal : GoalStep s g label (t.goals g)) (hcoherent : (t.goals g).Coherent) :
    (t.goals g).phase ≠ .idle ∧ ¬ (t.goals g).IsLive := by
  have hended (hthread : (t.goals g).thread = .finished) :
      (t.goals g).phase ≠ .idle ∧ ¬ (t.goals g).IsLive := by
    have haccepted := hcoherent.started.mp (by simp [hthread])
    have hphase := hcoherent.returned (by simp [haccepted])
    exact ⟨by simp [hphase], fun hlive => hlive.2.2.2 hthread⟩
  cases hremoves with
  | turnedDown hphase => exact ⟨by simp [hphase], fun hlive => hlive.2.1 hphase⟩
  | abandoned haccepted =>
      have hphase := hcoherent.returned (by simp [haccepted])
      exact ⟨by simp [hphase], fun hlive => hlive.2.2.1 haccepted⟩
  | finished hthread => exact hended hthread
  | canceled hwaiting hwait =>
      -- a cancel waits for an accepted goal, whose thread waits until it ends
      have haccepted := h.cancels (Or.inr (Or.inr hwaiting))
      have hrunning : (s.goals g).thread ≠ .running := by
        intro hthread
        simp [h.waits hthread] at hwait
      have hfinished : (s.goals g).thread = .finished := by
        cases hthread : (s.goals g).thread with
        | absent => exact absurd hthread (h.started.mpr haccepted)
        | running => exact absurd hthread hrunning
        | finished => rfl
      exact hended (hgoal.finished hfinished)

theorem Registered.step (h : Registered s g) (hstep : Step config s label t)
    (hlater : CancelsLater g s label) : Registered t g := by
  have hgoal := hstep.goal h.keyed g
  have hcoherent := h.coherent.step hgoal hlater
  refine ⟨keyed_of_step h.keyed hstep, ?_, ?_, hcoherent.started, hcoherent.returned,
    hcoherent.waits, hcoherent.cancels, ?_⟩
  · intro k hk
    rcases hstep.mem_serverHandles hk with hold | hinserted
    · exact hgoal.phase_ne_idle (h.entered k hold)
    · simp [hinserted]
  · intro hmem
    rcases hstep.mem_serverToRemove h.keyed hmem with hold | hremoves
    · exact hgoal.phase_ne_idle (h.removal hold)
    · exact (h.removes hremoves hgoal hcoherent).1
  · intro hlive
    rcases hgoal.isLive_cases hlive with hbefore | ⟨rfl, hidle⟩
    · obtain ⟨hknown, hremoval⟩ := h.handle hbefore
      refine ⟨hstep.serverHandles_kept hknown hremoval, fun hmem => ?_⟩
      rcases hstep.mem_serverToRemove h.keyed hmem with hold | hremoves
      · exact hremoval hold
      · exact (h.removes hremoves hgoal hcoherent).2 hlive
    · have hnone : s.serverHandles g.gIDString = none := by
        rw [Option.eq_none_iff_forall_ne_some]
        intro owner howner
        obtain rfl := owner_of_keyed h.keyed howner
        exact h.entered _ howner hidle
      obtain ⟨hinsert, hsame⟩ := hstep.of_insertHandle
      rw [hinsert, hsame, KeyMap.insert_of_none hnone]
      exact ⟨Function.update_self _ _ _, fun hmem => h.removal hmem hidle⟩

/-- The goal message of the goal has not been sent. -/
def Goal.IsUnsent (goal : Goal) : Prop :=
  goal.phase = .idle ∨ goal.phase = .inserted ∨ goal.phase = .armed

theorem GoalStep.isUnsent {goal : Goal} (h : GoalStep s g label goal)
    (hunsent : goal.IsUnsent) : (s.goals g).IsUnsent := by
  cases h with
  | insert hphase => exact Or.inl hphase
  | arm hphase => exact Or.inr (Or.inl hphase)
  | send data hphase => exact Or.inr (Or.inr hphase)
  | accept m hphase hresponse hop => simp [Goal.IsUnsent] at hunsent
  | turnDown label hphase => simp [Goal.IsUnsent] at hunsent
  | _ => exact hunsent

/-- The goal message of the goal is nowhere on its way to the client's
plugin. -/
structure Unasked (s : State) (g : GoalUUID) : Prop where
  link : ∀ m ∈ s.toClient, m.opCode = .actionToClientGoal → m.gID ≠ g.bytes
  queued : ∀ m ∈ (s.executions g).waitQueue, m.opCode ≠ .actionToClientGoal
  sent : (s.executions g).goalSent = false

theorem Unasked.start (g : GoalUUID) : Unasked State.start g where
  link := by simp [State.start]
  queued := by simp [State.start]
  sent := by simp [State.start]

theorem Unasked.step (h : (s.goals g).IsUnsent → Unasked s g)
    (hkeyed : s.serverHandles.KeyedBy GoalUUID.gIDString)
    (hstep : Step config s label t) (hunsent : (t.goals g).IsUnsent) : Unasked t g := by
  obtain ⟨hlink, hqueued, hsent⟩ := h ((hstep.goal hkeyed g).isUnsent hunsent)
  refine ⟨?_, ?_, ?_⟩
  · intro m hm hop hgID
    rcases hstep.mem_toClient hm with hold | hcancel | ⟨other, hother, hwaiting⟩
    · exact hlink m hold hop hgID
    · cases hcancel.symm.trans hop
    · obtain rfl : g = other := GoalUUID.ext (hgID.symm.trans hother)
      simp [Goal.IsUnsent, hwaiting] at hunsent
  · intro m hm hop
    rcases (hstep.execution g).mem_waitQueue hm with hold | ⟨hmem, hcancel | hgID⟩
    · exact hqueued m hold hop
    · cases hcancel.symm.trans hop
    · exact hlink m hmem hop hgID
  · rw [← Bool.not_eq_true]
    intro hgoal
    rcases (hstep.execution g).goalSent hgoal with hold | ⟨m, hm, hop⟩
    · cases hold.symm.trans hsent
    · exact hqueued m hm hop

/-- Answers to goals and cancels lead to no call. -/
theorem asCall_of_answersCall {m : Transfer} (h : answersCall m.opCode) :
    Transfer.asCall? m = none := by
  rcases h with hop | hop | hop | hop <;> simp [Transfer.asCall?, hop, PluginCall.ofOpCode?]

/-- Nothing has been emitted for the goal and no call of it has been made. -/
structure Silent (s : State) (g : GoalUUID) : Prop where
  emitted : s.emitted g = []
  calls : s.calls g = []
  link : ∀ m ∈ s.toServer, m.gID = g.bytes → Transfer.asCall? m = none
  queued : ∀ m ∈ (s.goals g).waitQueue, Transfer.asCall? m = none

theorem Silent.start (g : GoalUUID) : Silent State.start g where
  emitted := rfl
  calls := rfl
  link := by simp [State.start]
  queued := by simp [State.start]

theorem Silent.step (h : (s.goals g).IsUnsent → Silent s g)
    (hunasked : (s.goals g).IsUnsent → Unasked s g) (hregistered : Registered s g)
    (hstep : Step config s label t) (hunsent : (t.goals g).IsUnsent) : Silent t g := by
  have hgoal := hstep.goal hregistered.keyed g
  have hbefore := hgoal.isUnsent hunsent
  have hsent := (hunasked hbefore).sent
  obtain ⟨hemitted, hcalls, hlink, hqueued⟩ := h hbefore
  have hidle : (s.goals g).thread ≠ .running := by
    intro hrunning
    have haccepted := hregistered.started.mp (by simp [hrunning])
    have hphase := hregistered.returned (by simp [haccepted])
    simp [Goal.IsUnsent, hphase] at hbefore
  refine ⟨?_, ?_, ?_, ?_⟩
  · rcases hstep.emitted g with hsame | hgoal
    · exact hsame.trans hemitted
    · cases hgoal.symm.trans hsent
  · exact ((hstep.calls g).resolve_right hidle).trans hcalls
  · intro m hm hgID
    rcases hstep.mem_toServer hm with hold | hnew
    · exact hlink m hold hgID
    · cases hnew with
      | refusal gID => exact asCall_of_answersCall (Or.inl rfl)
      | acceptance other hverdict => exact asCall_of_answersCall (Or.inr (Or.inl rfl))
      | cancelAnswer other opCode hop => exact asCall_of_answersCall (Or.inr (Or.inr hop))
      | emission other emission data hother =>
          obtain rfl : other = g := GoalUUID.ext hgID
          cases hother.symm.trans hsent
  · intro m hm
    rcases hgoal.mem_waitQueue hm with hold | ⟨hmem, hgID⟩
    · exact hqueued m hold
    · exact hlink m hmem hgID

end Action

end Ros2Connect
