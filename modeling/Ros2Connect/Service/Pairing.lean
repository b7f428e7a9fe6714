import Ros2Connect.Service.Steps

/-!
Which response `sendAndWait` returns. A request is outstanding from the moment
its handle is inserted until nothing of it can reach either plugin any more.
Both maps know only the writer's guid, so a response finds the right handle as
long as requests of one writer are not outstanding together.
-/

namespace Ros2Connect

open Lib

namespace Service

variable {config : Config} {s t : State} {label : Label}

/-- `sendAndWait` waits for a response or is about to. -/
def Call.IsOpen (call : Call) : Prop :=
  call.phase = .inserted ∨ call.phase = .armed ∨ call.phase = .waiting

/-- `executeHandle` runs and has neither answered nor canceled. -/
def Execution.IsAlive (execution : Execution) : Prop :=
  (execution.progress = .executing ∨ execution.progress = .waiting) ∧
    execution.done = false

/-- Something of a request can still reach one of the plugins: its call is
open, the request or a response to it is on a link, or its execution may still
respond or be canceled. -/
def Outstanding (s : State) (r : RequestId) : Prop :=
  (s.calls r).IsOpen ∨
  (∃ m ∈ s.toClient, m.opCode = .serviceToClient ∧ m.origin = r) ∨
  (∃ m ∈ s.toServer, m.origin = r) ∨
  (s.executions r).callback = .pending ∨
  (s.executions r).IsAlive

/-- `sendAndWait` is entered only while no other request of its writer is
outstanding. -/
def EntersAlone (s : State) : Label → Prop
  | .insertHandle r => ∀ other, Outstanding s other → other.writerGuid = r.writerGuid →
      other = r
  | _ => True

/-- What is known of handles and messages however requests overlap. -/
structure WellFormed (s : State) : Prop where
  serverKeyed : s.serverHandles.KeyedBy RequestId.gIDString
  clientKeyed : s.clientHandles.KeyedBy RequestId.gIDString
  gIDsToClient : ∀ m ∈ s.toClient, m.gID = m.origin.writerGuid
  gIDsToServer : ∀ m ∈ s.toServer, m.gID = m.origin.writerGuid
  handling : ∀ r, (s.calls r).handlingGoal = true → (s.calls r).IsOpen
  unanswered : ∀ r, (s.executions r).progress = .executing →
    (s.executions r).callback = .unset ∧ (s.executions r).done = false

theorem WellFormed.start : WellFormed State.start where
  serverKeyed := KeyMap.KeyedBy.empty _
  clientKeyed := KeyMap.KeyedBy.empty _
  gIDsToClient := by simp [State.start]
  gIDsToServer := by simp [State.start]
  handling := by simp [State.start]
  unanswered := by simp [State.start]

/-- What is sent to the client names the writer of its request. -/
theorem SentToClient.gID {m : Message} (h : SentToClient config s m) :
    m.gID = m.origin.writerGuid := by
  cases h with
  | request r data hphase => rfl
  | cancel r hphase => rfl

/-- What is sent to the server names the writer of its request, which is
outstanding. -/
theorem SentToServer.gID (h : WellFormed s) {m : Message} (hsent : SentToServer config s m) :
    m.gID = m.origin.writerGuid ∧ Outstanding s m.origin := by
  cases hsent with
  | known m hlink hop =>
      exact ⟨h.gIDsToClient m hlink, Or.inr (Or.inl ⟨m, hlink, hop, rfl⟩)⟩
  | refusal r hprogress =>
      have halive : (s.executions r).IsAlive := ⟨Or.inl hprogress, (h.unanswered r hprogress).2⟩
      exact ⟨rfl, Or.inr (Or.inr (Or.inr (Or.inr halive)))⟩
  | response r data hcallback => exact ⟨rfl, Or.inr (Or.inr (Or.inr (Or.inl hcallback)))⟩

theorem WellFormed.step (h : WellFormed s) (hstep : Step config s label t) :
    WellFormed t := by
  refine ⟨?_, ?_, ?_, ?_, ?_, ?_⟩
  · cases hstep with
    | insertHandle r hphase => exact h.serverKeyed.insert r
    | serverRemove r rest => exact h.serverKeyed.erase _
    | _ => exact h.serverKeyed
  · cases hstep with
    | clientNew m rest hlink hop => exact h.clientKeyed.insert m.origin
    | clientRemove r rest => exact h.clientKeyed.erase _
    | _ => exact h.clientKeyed
  · intro m hm
    rcases hstep.mem_toClient hm with hold | hsent
    · exact h.gIDsToClient m hold
    · exact hsent.gID
  · intro m hm
    rcases hstep.mem_toServer hm with hold | hsent
    · exact h.gIDsToServer m hold
    · exact (hsent.gID h).1
  · intro r hhandling
    have hcall := hstep.call r
    generalize t.calls r = call at hcall hhandling
    cases hcall with
    | same label => exact h.handling r hhandling
    | insert hphase => exact Or.inl rfl
    | arm hphase => exact Or.inr (Or.inl rfl)
    | send data hphase => exact Or.inr (Or.inr rfl)
    | finish label phase hphase => cases hhandling
    | store m hlink howner hstored => exact h.handling r hhandling
  · intro r hprogress
    have hexecution := hstep.execution r
    generalize t.executions r = execution at hexecution hprogress
    cases hexecution with
    | same => exact h.unanswered r hprogress
    | create m hlink hop horigin => exact ⟨rfl, rfl⟩
    | cancel m hlink hop howner => exact h.unanswered r hprogress
    | asyncSendRequest hexecuting => cases hprogress
    | sendResponse hcallback =>
        cases hcallback.symm.trans (h.unanswered r hprogress).1
    | markDone missed hcallback => cases hcallback.symm.trans (h.unanswered r hprogress).1
    | finish callback done hpresent hcallback => cases hprogress

/-- A call becomes open by the insertion of its handle. -/
theorem CallStep.isOpen_cases {r : RequestId} {call : Call} (h : CallStep s r label call)
    (hopen : call.IsOpen) : (s.calls r).IsOpen ∨ label = .insertHandle r := by
  cases h with
  | same label => exact Or.inl hopen
  | insert hphase => exact Or.inr rfl
  | arm hphase => exact Or.inl (Or.inl hphase)
  | send data hphase => exact Or.inl (Or.inr (Or.inl hphase))
  | finish label phase hphase =>
      rcases hphase with rfl | rfl <;> simp [Call.IsOpen] at hopen
  | store m hlink howner hhandling => exact Or.inl hopen

/-- An execution comes to life with the request that is first on the link. -/
theorem ExecutionStep.isAlive_cases {r : RequestId} {execution : Execution}
    (h : ExecutionStep s t r execution) (halive : execution.IsAlive) :
    (s.executions r).IsAlive ∨ ∃ m, s.toClient = m :: t.toClient ∧
      m.opCode = .serviceToClient ∧ m.origin = r ∧ execution.waitQueue = [] := by
  cases h with
  | same => exact Or.inl halive
  | create m hlink hop horigin => exact Or.inr ⟨m, hlink, hop, horigin, rfl⟩
  | cancel m hlink hop howner => exact Or.inl halive
  | asyncSendRequest hprogress => exact Or.inl ⟨Or.inl hprogress, halive.2⟩
  | sendResponse hcallback => exact Or.inl halive
  | markDone missed hcallback => cases halive.2
  | finish callback done hpresent hcallback => simp [Execution.IsAlive] at halive

theorem ExecutionStep.pending_cases {r : RequestId} {execution : Execution}
    (h : ExecutionStep s t r execution) (hpending : execution.callback = .pending) :
    (s.executions r).callback = .pending ∨ (s.executions r).progress = .executing := by
  cases h with
  | same => exact Or.inl hpending
  | create m hlink hop horigin => cases hpending
  | cancel m hlink hop howner => exact Or.inl hpending
  | asyncSendRequest hprogress => exact Or.inr hprogress
  | sendResponse hcallback => cases hpending
  | markDone missed hcallback => cases hpending
  | finish callback done hpresent hcallback => exact Or.inl (hcallback hpending)

/-- A message queued for `executeHandle` was queued before or is a cancel from
the link. -/
theorem ExecutionStep.mem_waitQueue {r : RequestId} {execution : Execution}
    (hkeyed : s.clientHandles.KeyedBy RequestId.gIDString) (h : ExecutionStep s t r execution)
    {m : Message} (hm : m ∈ execution.waitQueue) : m ∈ (s.executions r).waitQueue ∨
      m ∈ s.toClient ∧ m.opCode = .serviceToClientCancel ∧ m.gID = r.writerGuid := by
  cases h with
  | create first hlink hop horigin => cases hm
  | cancel last hlink hop howner =>
      refine (List.mem_append.mp hm).imp_right (fun hlast => ?_)
      rw [List.mem_singleton.mp hlast]
      exact ⟨hlink, hop, (ServiceActionHandle.gIDString_inj.mp (hkeyed _ _ howner)).symm⟩
  | _ => exact Or.inl hm

/-- A request becomes outstanding by the insertion of its handle only. -/
theorem Outstanding.of_step (h : WellFormed s) (hstep : Step config s label t)
    (r : RequestId) (hr : Outstanding t r) :
    Outstanding s r ∨ label = .insertHandle r := by
  rcases hr with hopen | ⟨m, hm, hop, horigin⟩ | ⟨m, hm, horigin⟩ | hpending | halive
  · exact ((hstep.call r).isOpen_cases hopen).imp_left Or.inl
  · left
    rcases hstep.mem_toClient hm with hold | hsent
    · exact Or.inr (Or.inl ⟨m, hold, hop, horigin⟩)
    · cases hsent with
      | request other data hphase => exact Or.inl (horigin ▸ Or.inr (Or.inl hphase))
      | cancel other hphase => cases hop
  · left
    rcases hstep.mem_toServer hm with hold | hsent
    · exact Or.inr (Or.inr (Or.inl ⟨m, hold, horigin⟩))
    · exact horigin ▸ (hsent.gID h).2
  · left
    rcases (hstep.execution r).pending_cases hpending with hold | hprogress
    · exact Or.inr (Or.inr (Or.inr (Or.inl hold)))
    · have halive : (s.executions r).IsAlive := ⟨Or.inl hprogress, (h.unanswered r hprogress).2⟩
      exact Or.inr (Or.inr (Or.inr (Or.inr halive)))
  · left
    rcases (hstep.execution r).isAlive_cases halive with hold | ⟨m, hlink, hop, horigin, -⟩
    · exact Or.inr (Or.inr (Or.inr (Or.inr hold)))
    · exact Or.inr (Or.inl ⟨m, by simp [hlink], hop, horigin⟩)

/-- Requests of one writer are not outstanding together. -/
def Unique (s : State) : Prop :=
  ∀ r other, Outstanding s r → Outstanding s other → other.writerGuid = r.writerGuid →
    other = r

theorem Unique.step (h : WellFormed s) (hunique : Unique s)
    (hstep : Step config s label t) (hok : EntersAlone s label) : Unique t := by
  intro r other hr hother hguid
  rcases Outstanding.of_step h hstep r hr with hr | rfl
  · rcases Outstanding.of_step h hstep other hother with hother | rfl
    · exact hunique r other hr hother hguid
    · exact (hok r hr hguid.symm).symm
  · rcases Outstanding.of_step h hstep other hother with hother | hsame
    · exact hok other hother hguid
    · cases hsame
      rfl

/-- Every message is with the request it was sent for. -/
structure Paired (s : State) : Prop where
  response : ∀ r m, (s.calls r).goalResponse = some m → m.origin = r
  answers : ∀ r m, (r, m) ∈ s.answers → m.origin = r
  /-- Behind a request on the link there are no cancels of its writer's earlier
  requests. -/
  ordered : s.toClient.Pairwise fun m later => m.opCode = .serviceToClient →
    later.opCode = .serviceToClientCancel → later.gID = m.gID → later.origin = m.origin
  /-- A cancel on the link is for what its writer has running. -/
  canceling : ∀ m ∈ s.toClient, m.opCode = .serviceToClientCancel →
    ∀ r, (s.executions r).IsAlive → m.gID = r.writerGuid → m.origin = r
  queued : ∀ r, (s.executions r).IsAlive → ∀ m ∈ (s.executions r).waitQueue, m.origin = r
  cancels : ∀ r m, (r, m) ∈ s.cancels → m.origin = r

theorem Paired.start : Paired State.start where
  response := by simp [State.start]
  answers := by simp [State.start]
  ordered := by simp [State.start]
  canceling := by simp [State.start]
  queued := by simp [State.start]
  cancels := by simp [State.start]

/-- A cancel that is sent for a request is for no other one of its writer. -/
theorem Unique.cancel (hunique : Unique s) {r other : RequestId}
    (hphase : (s.calls r).phase = .waiting) (hother : Outstanding s other)
    (hguid : r.writerGuid = other.writerGuid) : r = other :=
  hunique other r hother (Or.inl (Or.inr (Or.inr hphase))) hguid

/-- The response a call is given was produced for it. -/
theorem Unique.stored (h : WellFormed s) (hunique : Unique s) {r : RequestId} {m : Message}
    (hlink : m ∈ s.toServer)
    (howner : s.serverHandles (ServiceActionHandle.gIDString m.gID) = some r)
    (hhandling : (s.calls r).handlingGoal = true) : m.origin = r := by
  have hkey : r.writerGuid = m.gID :=
    ServiceActionHandle.gIDString_inj.mp (h.serverKeyed _ _ howner)
  have hopen : Outstanding s r := Or.inl (h.handling r hhandling)
  have hsent : Outstanding s m.origin := Or.inr (Or.inr (Or.inl ⟨m, hlink, rfl⟩))
  exact hunique r m.origin hopen hsent ((h.gIDsToServer m hlink).symm.trans hkey.symm)

theorem Paired.ordered_step (h : WellFormed s) (hunique : Unique s) (hpaired : Paired s)
    (hstep : Step config s label t) : t.toClient.Pairwise fun m later =>
      m.opCode = .serviceToClient → later.opCode = .serviceToClientCancel →
        later.gID = m.gID → later.origin = m.origin := by
  rcases hstep.toClient with hsuffix | ⟨last, hlast, hsent⟩
  · exact hpaired.ordered.sublist hsuffix.sublist
  · rw [hlast, List.pairwise_append]
    refine ⟨hpaired.ordered, List.pairwise_singleton _ _, ?_⟩
    intro m hm later hlater hrequest hcancel hgID
    obtain rfl := List.mem_singleton.mp hlater
    cases hsent with
    | request r data hphase => cases hcancel
    | cancel r hphase =>
        have hm' : Outstanding s m.origin := Or.inr (Or.inl ⟨m, hm, hrequest, rfl⟩)
        exact hunique.cancel hphase hm' (hgID.trans (h.gIDsToClient m hm))

theorem Paired.canceling_step (h : WellFormed s) (hunique : Unique s) (hpaired : Paired s)
    (hstep : Step config s label t) {m : Message} (hm : m ∈ t.toClient)
    (hop : m.opCode = .serviceToClientCancel) {r : RequestId}
    (halive : (t.executions r).IsAlive) (hgID : m.gID = r.writerGuid) : m.origin = r := by
  rcases (hstep.execution r).isAlive_cases halive with hold | ⟨first, hlink, hrequest, rfl, -⟩
  · rcases hstep.mem_toClient hm with hmem | hsent
    · exact hpaired.canceling m hmem hop r hold hgID
    · cases hsent with
      | request other data hphase => cases hop
      | cancel other hphase =>
          exact hunique.cancel hphase (Or.inr (Or.inr (Or.inr (Or.inr hold)))) hgID
  · -- the cancel is behind the request that starts the execution
    have hbehind := (List.pairwise_cons.mp (hlink ▸ hpaired.ordered)).1
    have hfirst := h.gIDsToClient first (by simp [hlink])
    exact hbehind m hm hrequest hop (hgID.trans hfirst.symm)

theorem Paired.step (h : WellFormed s) (hunique : Unique s) (hpaired : Paired s)
    (hstep : Step config s label t) : Paired t := by
  refine ⟨?_, ?_, hpaired.ordered_step h hunique hstep,
    fun m hm hop r halive hgID => hpaired.canceling_step h hunique hstep hm hop halive hgID,
    ?_, ?_⟩
  · intro r m hm
    have hcall := hstep.call r
    generalize t.calls r = call at hcall hm
    cases hcall with
    | arm hphase => cases hm
    | store last hlink howner hhandling =>
        cases hm
        exact hunique.stored h hlink howner hhandling
    | _ => exact hpaired.response r m hm
  · intro r m hm
    rcases hstep.mem_answers hm with hold | hresponse
    · exact hpaired.answers r m hold
    · exact hpaired.response r m hresponse
  · intro r halive m hm
    rcases (hstep.execution r).isAlive_cases halive with hold | ⟨first, -, -, -, hempty⟩
    · rcases (hstep.execution r).mem_waitQueue h.clientKeyed hm with hmem | ⟨hmem, hop, hgID⟩
      · exact hpaired.queued r hold m hmem
      · exact hpaired.canceling m hmem hop r hold hgID
    · rw [hempty] at hm
      cases hm
  · intro r m hm
    rcases hstep.mem_cancels hm with hold | ⟨hprogress, hdone, hmem⟩
    · exact hpaired.cancels r m hold
    · exact hpaired.queued r ⟨Or.inr hprogress, hdone⟩ m hmem

/-- What the runs keep in which requests of one writer never overlap. -/
theorem invariant_of_entersAlone (config : Config)
    (h : (pair config).ReachableWith EntersAlone s) : WellFormed s ∧ Unique s ∧ Paired s := by
  refine h.invariant (fun s => WellFormed s ∧ Unique s ∧ Paired s) ?_ ?_
  · refine ⟨.start, ?_, .start⟩
    intro r other hr
    simp [pair, Outstanding, State.start, Call.IsOpen, Execution.IsAlive] at hr
  · rintro s label ⟨hwell, hunique, hpaired⟩ henabled hok
    have hstep : Step config s label (next config s label) := .of_enabled henabled
    exact ⟨hwell.step hstep, hunique.step hwell hstep hok, hpaired.step hwell hunique hstep⟩

/-- While requests of one writer never overlap, a response is returned to the
request it was produced for, and a cancel ends the request it was sent for. -/
theorem sendAndWait_pairs (config : Config) (s : State)
    (h : (pair config).ReachableWith EntersAlone s) :
    (∀ r m, (r, m) ∈ s.answers → m.origin = r) ∧
      (∀ r m, (r, m) ∈ s.cancels → m.origin = r) := by
  obtain ⟨-, -, hpaired⟩ := invariant_of_entersAlone config h
  exact ⟨hpaired.answers, hpaired.cancels⟩

/-- Two requests of one ROS client. -/
private def first : RequestId := ⟨[9], 1⟩

private def second : RequestId := ⟨[9], 2⟩

private def echoConfig : Config := ⟨0, true, 0, true, [], fun _ _ data => some data⟩

/-- The response to a request that has timed out arrives while the next request
of the same ROS client waits, and is returned to that one. -/
theorem sendAndWait_mixes_up :
    ¬ ∀ (config : Config) (s : State), (pair config).Reachable s →
      (∀ r m, (r, m) ∈ s.answers → m.origin = r) ∧
        (∀ r m, (r, m) ∈ s.cancels → m.origin = r) := by
  intro hall
  obtain ⟨s, hreachable, hanswer⟩ := Machine.exists_reachable (M := pair echoConfig)
    (fun s => ∃ answer ∈ s.answers, answer.2.origin ≠ answer.1)
    [.insertHandle first, .startHandling first, .sendRequest first [1], .clientHandle,
      .asyncSendRequest first, .sendResponse first [11], .timeout first, .serverRemove,
      .insertHandle second, .startHandling second, .sendRequest second [2], .serverHandle,
      .receiveResponse second] (by decide)
  obtain ⟨⟨r, m⟩, hmem, hother⟩ := hanswer
  exact hother ((hall echoConfig s hreachable).1 r m hmem)

/-- Steps of requests that have begun. -/
private def continues : Label → Bool
  | .insertHandle _ => false
  | _ => true

private theorem entersAlone_of_continues (s : State) (label : Label)
    (h : continues label = true) : EntersAlone s label := by
  cases label with
  | insertHandle r => cases h
  | _ => trivial

/-- The first request times out, its execution is canceled and both handles are
removed. -/
private def firstRun : List Label :=
  [.startHandling first, .sendRequest first [1], .timeout first, .serverRemove, .clientHandle,
    .asyncSendRequest first, .clientHandle, .cancel first false, .clientRemove]

private def firstOver : State :=
  firstRun.foldl (next echoConfig) (next echoConfig .start (.insertHandle first))

/-- A step of the first request that does not start it. -/
private def ofFirst (label : Label) : Bool :=
  continues label && label.request?.all (· == first)

/-- Nothing of either request is outstanding then. -/
private theorem not_outstanding_firstOver (hwithin : Within {first} firstOver) (r : RequestId) :
    ¬ Outstanding firstOver r := by
  have hfirst : (firstOver.calls first).phase = .closed ∧
      (firstOver.executions first).callback = .spent ∧
      (firstOver.executions first).progress = .finished := ⟨rfl, rfl, rfl⟩
  rintro (hopen | ⟨m, hm, -⟩ | ⟨m, hm, -⟩ | hpending | halive)
  · have hr := hwithin.calls r fun hidle => by simp [Call.IsOpen, hidle] at hopen
    rw [Finset.mem_singleton.mp hr] at hopen
    simp [Call.IsOpen, hfirst] at hopen
  · cases hm
  · cases hm
  · have hr := hwithin.executions r (Or.inr (by simp [hpending]))
    rw [Finset.mem_singleton.mp hr, hfirst.2.1] at hpending
    cases hpending
  · have hr := hwithin.executions r (Or.inl fun habsent => by
      simp [Execution.IsAlive, habsent] at halive)
    rw [Finset.mem_singleton.mp hr] at halive
    simp [Execution.IsAlive, hfirst] at halive

/-- Two requests of one ROS client, one after the other: the second is answered. -/
theorem sendAndWait_pairs_later :
    ∃ s : State, s.cancels.map Prod.fst = [first] ∧ s.answers.map Prod.fst = [second] ∧
      (∀ r m, (r, m) ∈ s.answers → m.origin = r) ∧
        (∀ r m, (r, m) ∈ s.cancels → m.origin = r) := by
  have hinserted : (pair echoConfig).ReachableWith
      (fun s label => EntersAlone s label ∧ ∀ r ∈ label.request?, r = first)
      ((pair echoConfig).next (pair echoConfig).start (.insertHandle first)) := by
    refine .step .start rfl ⟨?_, fun r hr => (Option.some.inj hr).symm⟩
    intro other houtstanding
    simp [pair, Outstanding, State.start, Call.IsOpen, Execution.IsAlive] at houtstanding
  have hrun : (pair echoConfig).replay (fun _ label => ofFirst label = true)
      ((pair echoConfig).next (pair echoConfig).start (.insertHandle first)) firstRun =
      some firstOver := by rfl
  have hover := hinserted.replay (fun s label hlabel => by
    simp only [ofFirst, Bool.and_eq_true, Option.all_eq_true, beq_iff_eq] at hlabel
    exact hlabel.imp_left (entersAlone_of_continues s label)) hrun
  have hwithin : Within {first} firstOver :=
    hover.invariant (Within _) .start fun _ _ hwithin henabled hlabel =>
      hwithin.next henabled fun r hinsert => by
        simp [hlabel.2 r (by simp [hinsert, Label.request?])]
  have hsecond : (pair echoConfig).ReachableWith EntersAlone
      ((pair echoConfig).next firstOver (.insertHandle second)) := by
    refine .step (hover.mono fun _ _ => And.left) rfl ?_
    exact fun other hother _ => absurd hother (not_outstanding_firstOver hwithin other)
  have hrun := hsecond.exists_replay entersAlone_of_continues
    (fun s => s.cancels.map Prod.fst = [first] ∧ s.answers.map Prod.fst = [second])
    [.startHandling second, .sendRequest second [2], .clientHandle, .asyncSendRequest second,
      .sendResponse second [12], .serverHandle, .receiveResponse second] (by decide)
  obtain ⟨s, hreachable, hcancels, hanswers⟩ := hrun
  exact ⟨s, hcancels, hanswers, sendAndWait_pairs echoConfig s hreachable⟩

end Service

end Ros2Connect
