import Ros2Connect.Service.Steps

/-!
The handles of a service server and client. A handle in a map belongs to a call
or an execution that is not over, or is queued for removal; when nothing is left
to do, no handle is left on either node but those of executions that have missed
the notification of `sendAndDone`.
-/

namespace Ros2Connect

open Lib

namespace Service

variable {config : Config} {s t : State} {label : Label} {r : RequestId}

/-- `sendAndWait` has inserted the handle and neither it nor `done` has queued it
for removal. -/
def Call.isActive (call : Call) : Bool :=
  match call.phase with
  | .inserted | .armed | .waiting | .returned => true
  | .idle | .closed => false

def Execution.isActive (execution : Execution) : Bool :=
  match execution.progress with
  | .executing | .waiting => true
  | .absent | .finished => false

/-- The request is on its way or has been. -/
def Call.hasSent (call : Call) : Bool :=
  match call.phase with
  | .waiting | .returned | .closed => true
  | .idle | .inserted | .armed => false

theorem CallStep.hasSent {call : Call} (h : CallStep s r label call)
    (hsent : (s.calls r).hasSent = true) : call.hasSent = true := by
  cases h with
  | same | store => exact hsent
  | insert hphase | arm hphase => simp [Call.hasSent, hphase] at hsent
  | send => rfl
  | finish label phase hphase => rcases hphase with rfl | rfl <;> rfl

/-- A request is sent once and executed once. -/
structure Once (s : State) : Prop where
  link : s.toClient.Pairwise fun m later => m.opCode = .serviceToClient →
    later.opCode = .serviceToClient → m.origin ≠ later.origin
  unread : ∀ m ∈ s.toClient, m.opCode = .serviceToClient →
    (s.calls m.origin).hasSent = true ∧ (s.executions m.origin).progress = .absent
  executed : ∀ r, (s.executions r).progress ≠ .absent → (s.calls r).hasSent = true

theorem Once.start : Once State.start where
  link := List.Pairwise.nil
  unread := fun _ hmem => by cases hmem
  executed := fun _ hpresent => absurd rfl hpresent

/-- What has not been sent is not executed. -/
theorem Once.absent_of_armed (h : Once s) (hphase : (s.calls r).phase = .armed) :
    (s.executions r).progress = .absent := by
  by_contra hpresent
  simpa [Call.hasSent, hphase] using h.executed r hpresent

theorem Once.link_step (h : Once s) (hstep : Step config s label t) :
    t.toClient.Pairwise fun m later => m.opCode = .serviceToClient →
      later.opCode = .serviceToClient → m.origin ≠ later.origin := by
  rcases hstep.toClient with hsuffix | ⟨last, hlink, hsent⟩
  · exact h.link.sublist hsuffix.sublist
  · rw [hlink, List.pairwise_append]
    refine ⟨h.link, List.pairwise_singleton _ _, ?_⟩
    intro m hm later hlater hrequest hlast hsame
    obtain rfl := List.mem_singleton.mp hlater
    have hunread := (h.unread m hm hrequest).1
    cases hsent with
    | request r data hphase =>
        have horigin : m.origin = r := hsame
        simp [horigin, Call.hasSent, hphase] at hunread
    | cancel r hphase => cases hlast

/-- What is still on the link after a step has been sent and is not executed:
there is no second message that could have started it. -/
theorem Once.unread_step (h : Once s) (hstep : Step config s label t) {m : Message}
    (hm : m ∈ t.toClient) (hop : m.opCode = .serviceToClient) :
    (t.calls m.origin).hasSent = true ∧ (t.executions m.origin).progress = .absent := by
  have habsent : (s.executions m.origin).progress = .absent := by
    rcases hstep.sent hm hop with hold | ⟨hphase, -⟩
    · exact (h.unread m hold hop).2
    · exact h.absent_of_armed hphase
  refine ⟨?_, ?_⟩
  · rcases hstep.sent hm hop with hold | ⟨-, hphase⟩
    · exact (hstep.call m.origin).hasSent (h.unread m hold hop).1
    · simp [Call.hasSent, hphase]
  · have hexecution := hstep.execution m.origin
    generalize t.executions m.origin = execution at hexecution
    cases hexecution with
    | create first hlink hrequest horigin =>
        have hbehind := (List.pairwise_cons.mp (hlink ▸ h.link)).1
        exact absurd horigin (hbehind m hm hrequest hop)
    | asyncSendRequest hprogress => cases hprogress.symm.trans habsent
    | finish callback done hpresent => exact absurd habsent hpresent
    | same | cancel | sendResponse | markDone => exact habsent

theorem Once.step (h : Once s) (hstep : Step config s label t) : Once t := by
  refine ⟨h.link_step hstep, fun m hm hop => h.unread_step hstep hm hop, ?_⟩
  intro r hpresent
  refine (hstep.call r).hasSent ?_
  have hexecution := hstep.execution r
  generalize t.executions r = execution at hexecution hpresent
  cases hexecution with
  | create m hlink hop horigin => exact horigin ▸ (h.unread m (by simp [hlink]) hop).1
  | asyncSendRequest hprogress => exact h.executed r (by simp [hprogress])
  | finish callback done hbefore => exact h.executed r hbefore
  | same | cancel | sendResponse | markDone => exact h.executed r hpresent

/-- Whose handles the maps hold. -/
structure Tidy (s : State) : Prop where
  once : Once s
  serverKeyed : s.serverHandles.KeyedBy RequestId.gIDString
  clientKeyed : s.clientHandles.KeyedBy RequestId.gIDString
  server : ∀ k owner, s.serverHandles k = some owner →
    (s.calls owner).isActive = true ∨ owner ∈ s.serverToRemove
  client : ∀ k owner, s.clientHandles k = some owner →
    (s.executions owner).isActive = true ∨ owner ∈ s.clientToRemove
  removal : ∀ r ∈ s.clientToRemove, (s.executions r).progress = .finished
  waiting : ∀ r, (s.executions r).progress = .waiting →
    (s.executions r).callback ≠ .unset ∧
      ((s.executions r).callback = .spent → (s.executions r).done = true)

theorem Tidy.start : Tidy State.start where
  once := .start
  serverKeyed := KeyMap.KeyedBy.empty _
  clientKeyed := KeyMap.KeyedBy.empty _
  server := fun _ _ hsome => by cases hsome
  client := fun _ _ hsome => by cases hsome
  removal := fun _ hmem => by cases hmem
  waiting := fun _ hwaiting => by cases hwaiting

/-- An execution that is over stays so: its request is not read again. -/
theorem ExecutionStep.finished {execution : Execution} (h : ExecutionStep s t r execution)
    (honce : Once s) (hfinished : (s.executions r).progress = .finished) :
    execution.progress = .finished := by
  cases h with
  | same | cancel | sendResponse | markDone => exact hfinished
  | create m hlink hop horigin =>
      have habsent := (honce.unread m (by simp [hlink]) hop).2
      rw [horigin, hfinished] at habsent
      cases habsent
  | asyncSendRequest hprogress => cases hfinished.symm.trans hprogress
  | finish => rfl

/-- An execution that waits has sent its request, and is done when the callback
is. -/
theorem ExecutionStep.waiting {execution : Execution} (h : ExecutionStep s t r execution)
    (hbefore : (s.executions r).progress = .waiting → (s.executions r).callback ≠ .unset ∧
      ((s.executions r).callback = .spent → (s.executions r).done = true))
    (hwaiting : execution.progress = .waiting) :
    execution.callback ≠ .unset ∧ (execution.callback = .spent → execution.done = true) := by
  cases h with
  | same => exact hbefore hwaiting
  | create => cases hwaiting
  | cancel => exact hbefore hwaiting
  | asyncSendRequest => exact ⟨nofun, nofun⟩
  | sendResponse => exact ⟨nofun, nofun⟩
  | markDone => exact ⟨nofun, fun _ => rfl⟩
  | finish => cases hwaiting

/-- An update that ends what it changes has queued it. -/
theorem update_isActive {ι β : Type} [DecidableEq ι] {isActive : β → Bool} {f : ι → β} {i : ι}
    {b : β} {queue : List ι}
    (h : isActive (f i) = true → isActive b = true ∨ i ∈ queue) (j : ι)
    (hactive : isActive (f j) = true) :
    isActive (Function.update f i b j) = true ∨ j ∈ queue := by
  by_cases hsame : j = i
  · subst hsame
    simpa using h hactive
  · rw [Function.update_of_ne hsame]
    exact Or.inl hactive

/-- What a step does to the handle of a call on the server's node. -/
theorem Step.call_isActive (hstep : Step config s label t) (hlabel : label ≠ .serverRemove) :
    (∀ owner, (s.calls owner).isActive = true →
      (t.calls owner).isActive = true ∨ owner ∈ t.serverToRemove) ∧
    s.serverToRemove ⊆ t.serverToRemove := by
  cases hstep with
  | insertHandle | startHandling | sendRequest | acceptResponse =>
      exact ⟨update_isActive fun _ => Or.inl rfl, List.Subset.refl _⟩
  | close | timeout =>
      exact ⟨update_isActive fun _ => Or.inr (by simp), List.subset_append_left _ _⟩
  | serverStore =>
      exact ⟨update_isActive fun hactive => Or.inl hactive, List.Subset.refl _⟩
  | serverRemove => exact absurd rfl hlabel
  | _ => exact ⟨fun _ hactive => Or.inl hactive, List.Subset.refl _⟩

/-- What a step does to the handle of an execution on the client's node. -/
theorem Step.execution_isActive (hstep : Step config s label t)
    (hlabel : label ≠ .clientRemove) :
    (∀ owner, (s.executions owner).isActive = true →
      (t.executions owner).isActive = true ∨ owner ∈ t.clientToRemove) ∧
    s.clientToRemove ⊆ t.clientToRemove := by
  cases hstep with
  | clientNew | asyncSendRequest =>
      exact ⟨update_isActive fun _ => Or.inl rfl, List.Subset.refl _⟩
  | clientCancel | sendResponse | markDone =>
      exact ⟨update_isActive fun hactive => Or.inl hactive, List.Subset.refl _⟩
  | refuse | finish | cancel =>
      exact ⟨update_isActive fun _ => Or.inr (by simp), List.subset_append_left _ _⟩
  | clientRemove => exact absurd rfl hlabel
  | _ => exact ⟨fun _ hactive => Or.inl hactive, List.Subset.refl _⟩

/-- A step puts an execution in the removal queue when it ends it. -/
theorem Step.mem_clientToRemove (hstep : Step config s label t)
    (hlabel : label ≠ .clientRemove) (hmem : r ∈ t.clientToRemove) :
    r ∈ s.clientToRemove ∨ (t.executions r).progress = .finished := by
  cases hstep with
  | refuse other | finish other | cancel other =>
      rcases List.mem_append.mp hmem with hold | hnew
      · exact Or.inl hold
      · rw [List.mem_singleton.mp hnew]
        exact Or.inr (by simp)
  | clientRemove => exact absurd rfl hlabel
  | _ => exact Or.inl hmem

/-- A handle a step finds in a map was there or is the one it inserts. -/
theorem Step.serverHandles (hstep : Step config s label t) (hlabel : label ≠ .serverRemove)
    {k : Bytes} {owner : RequestId} (hsome : t.serverHandles k = some owner) :
    s.serverHandles k = some owner ∨ (t.calls owner).isActive = true := by
  cases hstep with
  | insertHandle other hphase =>
      rcases KeyMap.insert_eq_some hsome with hold | ⟨-, rfl, -⟩
      · exact Or.inl hold
      · exact Or.inr (by simp [Call.isActive])
  | serverRemove => exact absurd rfl hlabel
  | _ => exact Or.inl hsome

theorem Step.clientHandles (hstep : Step config s label t) (hlabel : label ≠ .clientRemove)
    {k : Bytes} {owner : RequestId} (hsome : t.clientHandles k = some owner) :
    s.clientHandles k = some owner ∨ (t.executions owner).isActive = true := by
  cases hstep with
  | clientNew m rest hlink hop =>
      rcases KeyMap.insert_eq_some hsome with hold | ⟨-, rfl, -⟩
      · exact Or.inl hold
      · exact Or.inr (by simp [Execution.isActive])
  | clientRemove => exact absurd rfl hlabel
  | _ => exact Or.inl hsome

theorem Step.keyed (hstep : Step config s label t)
    (hserver : s.serverHandles.KeyedBy RequestId.gIDString)
    (hclient : s.clientHandles.KeyedBy RequestId.gIDString) :
    t.serverHandles.KeyedBy RequestId.gIDString ∧
      t.clientHandles.KeyedBy RequestId.gIDString := by
  cases hstep with
  | insertHandle other => exact ⟨hserver.insert other, hclient⟩
  | serverRemove other => exact ⟨hserver.erase _, hclient⟩
  | clientNew m => exact ⟨hserver, hclient.insert m.origin⟩
  | clientRemove other => exact ⟨hserver, hclient.erase _⟩
  | _ => exact ⟨hserver, hclient⟩

/-- Every step but the two removals. -/
theorem Tidy.step (h : Tidy s) (hstep : Step config s label t) (hserver : label ≠ .serverRemove)
    (hclient : label ≠ .clientRemove) : Tidy t := by
  obtain ⟨hserverKeyed, hclientKeyed⟩ := hstep.keyed h.serverKeyed h.clientKeyed
  obtain ⟨hcalls, hserverQueue⟩ := hstep.call_isActive hserver
  obtain ⟨hexecutions, hclientQueue⟩ := hstep.execution_isActive hclient
  refine ⟨h.once.step hstep, hserverKeyed, hclientKeyed, ?_, ?_, ?_, ?_⟩
  · intro k owner hsome
    rcases hstep.serverHandles hserver hsome with hold | hactive
    · rcases h.server k owner hold with hactive | hqueued
      · exact hcalls owner hactive
      · exact Or.inr (hserverQueue hqueued)
    · exact Or.inl hactive
  · intro k owner hsome
    rcases hstep.clientHandles hclient hsome with hold | hactive
    · rcases h.client k owner hold with hactive | hqueued
      · exact hexecutions owner hactive
      · exact Or.inr (hclientQueue hqueued)
    · exact Or.inl hactive
  · intro other hmem
    rcases hstep.mem_clientToRemove hclient hmem with hold | hfinished
    · exact (hstep.execution other).finished h.once (h.removal other hold)
    · exact hfinished
  · exact fun other => (hstep.execution other).waiting (h.waiting other)

/-- The handle that is removed has been queued, and its key is gone. -/
theorem Tidy.serverRemove (h : Tidy s) {rest : List RequestId}
    (hqueue : s.serverToRemove = r :: rest) :
    Tidy { s with
      serverToRemove := rest
      serverHandles := s.serverHandles.erase r.gIDString } := by
  refine ⟨⟨h.once.link, h.once.unread, h.once.executed⟩, h.serverKeyed.erase _, h.clientKeyed,
    ?_, h.client, h.removal, h.waiting⟩
  intro k owner hsome
  obtain ⟨hkey, hold⟩ := KeyMap.erase_eq_some hsome
  refine (h.server k owner hold).imp id fun hqueued => ?_
  rw [hqueue] at hqueued
  rcases List.mem_cons.mp hqueued with rfl | hrest
  · exact absurd (h.serverKeyed k owner hold).symm hkey
  · exact hrest

theorem Tidy.clientRemove (h : Tidy s) {rest : List RequestId}
    (hqueue : s.clientToRemove = r :: rest) :
    Tidy { s with
      clientToRemove := rest
      clientHandles := s.clientHandles.erase r.gIDString } := by
  refine ⟨⟨h.once.link, h.once.unread, h.once.executed⟩, h.serverKeyed, h.clientKeyed.erase _,
    h.server, ?_, ?_, h.waiting⟩
  · intro k owner hsome
    obtain ⟨hkey, hold⟩ := KeyMap.erase_eq_some hsome
    refine (h.client k owner hold).imp id fun hqueued => ?_
    rw [hqueue] at hqueued
    rcases List.mem_cons.mp hqueued with rfl | hrest
    · exact absurd (h.clientKeyed k owner hold).symm hkey
    · exact hrest
  · exact fun other hmem => h.removal other (hqueue ▸ List.mem_cons_of_mem _ hmem)

/-- What one step keeps. -/
theorem Tidy.next (h : Tidy s) (henabled : enabled config s label = true) :
    Tidy (next config s label) := by
  by_cases hserver : label = .serverRemove
  · subst hserver
    cases hqueue : s.serverToRemove with
    | nil => simp [enabled, hqueue] at henabled
    | cons other rest =>
        simp only [Service.next, hqueue]
        exact h.serverRemove hqueue
  · by_cases hclient : label = .clientRemove
    · subst hclient
      cases hqueue : s.clientToRemove with
      | nil => simp [enabled, hqueue] at henabled
      | cons other rest =>
          simp only [Service.next, hqueue]
          exact h.clientRemove hqueue
    · exact h.step (.of_enabled henabled) hserver hclient

/-- `executeHandle` has missed the notification of `sendAndDone` and waits for
another one. -/
def Execution.isBlocked (execution : Execution) : Bool :=
  execution.progress == .waiting && execution.done && !execution.isAwake

theorem Execution.isBlocked_iff {execution : Execution} : execution.isBlocked = true ↔
    execution.progress = .waiting ∧ execution.done = true ∧ execution.isAwake = false := by
  simp [Execution.isBlocked, and_assoc]

/-- New requests and spurious wakeups are not up to the two plugins. -/
def Label.isExternal : Label → Bool
  | .insertHandle _ | .wake _ => true
  | _ => false

/-- Nothing is left to do but new requests and spurious wakeups. -/
def Settled (config : Config) (s : State) : Prop :=
  ∀ label, label.isExternal = false → enabled config s label = false

theorem Settled.call (h : Settled config s) (r : RequestId) :
    (s.calls r).isActive = false := by
  have harm := h (.startHandling r) rfl
  have hsend := h (.sendRequest r []) rfl
  have hreceive := h (.receiveResponse r) rfl
  have htimeout := h (.timeout r) rfl
  have hdone := h (.serverDone r) rfl
  unfold Call.isActive
  cases hphase : (s.calls r).phase with
  | idle | closed => rfl
  | inserted => simp [enabled, hphase] at harm
  | armed => simp [enabled, hphase] at hsend
  | waiting =>
      cases hresponse : (s.calls r).goalResponse with
      | none => simp [enabled, hphase, hresponse] at htimeout
      | some m => simp [enabled, hphase, hresponse] at hreceive
  | returned => simp [enabled, hphase] at hdone

/-- An execution that is not over is blocked: every other one has a step left. -/
theorem Settled.isBlocked (h : Settled config s) (htidy : Tidy s) (r : RequestId)
    (hactive : (s.executions r).isActive = true) : (s.executions r).isBlocked = true := by
  unfold Execution.isActive at hactive
  cases hprogress : (s.executions r).progress with
  | absent | finished => simp [hprogress] at hactive
  | executing =>
      have hsend := h (.asyncSendRequest r) rfl
      have hundecompressable := h (.refuse r .undecompressable) rfl
      have hunexpected := h (.refuse r .unexpectedSize) rfl
      cases hdata : (s.executions r).data with
      | none => simp [enabled, hprogress, hdata, Refusal.applies] at hundecompressable
      | some data =>
          simp [enabled, hprogress, hdata] at hsend
          simp [enabled, hprogress, hdata, Refusal.applies, hsend] at hunexpected
  | waiting =>
      obtain ⟨hset, hspent⟩ := htidy.waiting r hprogress
      cases hcallback : (s.executions r).callback with
      | unset => exact absurd hcallback hset
      | pending => simpa [enabled, hcallback] using h (.sendResponse r []) rfl
      | answered => simpa [enabled, hcallback] using h (.markDone r false) rfl
      | spent =>
          have hdone := hspent hcallback
          have hfinish := h (.finish r) rfl
          simp only [enabled, hprogress, hdone, beq_self_eq_true, Bool.true_and] at hfinish
          exact Execution.isBlocked_iff.mpr ⟨hprogress, hdone, hfinish⟩

theorem Settled.clientToRemove (h : Settled config s) (htidy : Tidy s) :
    s.clientToRemove = [] := by
  cases hqueue : s.clientToRemove with
  | nil => rfl
  | cons other rest =>
      have hremove := h .clientRemove rfl
      have hfinished := htidy.removal other (by simp [hqueue])
      simp [enabled, hqueue, hfinished] at hremove

/-- When nothing is left to do, no message is under way, every call has returned
and both nodes have removed every handle, whatever gids the requests share, except
those whose execution has missed the notification of `sendAndDone`. -/
theorem settled_empties (config : Config) (s : State) (h : (pair config).Reachable s)
    (hsettled : Settled config s) :
    s.toClient = [] ∧ s.toServer = [] ∧
      (∀ request, (s.calls request).phase = .idle ∨ (s.calls request).phase = .closed) ∧
      (∀ k, s.serverHandles k = none) ∧
      ∀ k owner, s.clientHandles k = some owner → (s.executions owner).isBlocked = true := by
  have htidy : Tidy s := h.invariant Tidy .start fun _ _ hinv henabled _ => hinv.next henabled
  have hserverQueue : s.serverToRemove = [] := by
    simpa [enabled] using hsettled .serverRemove rfl
  have hclientQueue := hsettled.clientToRemove htidy
  refine ⟨?_, ?_, ?_, ?_, ?_⟩
  · simpa [enabled] using hsettled .clientHandle rfl
  · simpa [enabled] using hsettled .serverHandle rfl
  · intro request
    have hidle := hsettled.call request
    unfold Call.isActive at hidle
    cases hphase : (s.calls request).phase <;> simp_all
  · intro k
    refine Option.eq_none_iff_forall_ne_some.mpr fun owner hsome => ?_
    rcases htidy.server k owner hsome with hactive | hqueued
    · rw [hsettled.call owner] at hactive
      cases hactive
    · rw [hserverQueue] at hqueued
      cases hqueued
  · intro k owner hsome
    rcases htidy.client k owner hsome with hactive | hqueued
    · exact hsettled.isBlocked htidy owner hactive
    · rw [hclientQueue] at hqueued
      cases hqueued

private def canceled : RequestId := ⟨[1, 2], 5⟩

private def unnotified : RequestId := ⟨[3], 1⟩

private def cancelConfig : Config :=
  ⟨0, true, 0, true, [], fun _ _ data => some data⟩

/-- A request that times out, and whose execution the cancel ends, and one whose
execution misses that the response has been sent. -/
private def cancelRun : List Label :=
  [.insertHandle canceled, .startHandling canceled, .sendRequest canceled [3],
    .timeout canceled, .clientHandle, .asyncSendRequest canceled, .clientHandle,
    .cancel canceled false, .clientRemove, .serverRemove,
    .insertHandle unnotified, .startHandling unnotified, .sendRequest unnotified [4],
    .clientHandle, .asyncSendRequest unnotified, .sendResponse unnotified [5],
    .markDone unnotified true, .serverHandle, .receiveResponse unnotified,
    .serverDone unnotified, .serverRemove]

private def canceledState : State := cancelRun.foldl (next cancelConfig) .start

private theorem canceledState_reachable : (pair cancelConfig).ReachableWith
    (fun _ label => ∀ r ∈ label.request?, r ∈ ({canceled, unnotified} : Finset RequestId))
    canceledState := by
  have hrun : (pair cancelConfig).replay (fun _ label => ∀ r ∈ label.request?,
      r ∈ ({canceled, unnotified} : Finset RequestId)) .start cancelRun = some canceledState := by
    rfl
  exact Machine.ReachableWith.replay (fun _ _ => id) .start hrun

/-- The run is about two requests, and done with the first. -/
private theorem canceledState_settled : Settled cancelConfig canceledState := by
  have hwithin : Within {canceled, unnotified} canceledState :=
    canceledState_reachable.invariant (Within _) .start fun _ _ hwithin henabled hkeys =>
      hwithin.next henabled fun _ hinsert => hkeys _ (by simp [hinsert, Label.request?])
  have hcalls (r : RequestId) : (canceledState.calls r).phase = .idle ∨
      (canceledState.calls r).phase = .closed := by
    by_contra hphase
    have hmem := hwithin.calls r fun hidle => hphase (Or.inl hidle)
    rcases Finset.mem_insert.mp hmem with rfl | hsecond
    · exact hphase (Or.inr rfl)
    · rw [Finset.mem_singleton.mp hsecond] at hphase
      exact hphase (Or.inr rfl)
  have hexecutions (r : RequestId) :
      ((canceledState.executions r).callback = .unset ∨
        (canceledState.executions r).callback = .spent) ∧
      ((canceledState.executions r).progress = .absent ∨
        (canceledState.executions r).progress = .finished ∨
        (canceledState.executions r).isBlocked = true) := by
    by_contra hexecution
    have hmem := hwithin.executions r (by tauto)
    rcases Finset.mem_insert.mp hmem with rfl | hsecond
    · exact hexecution ⟨Or.inr rfl, Or.inr (Or.inl rfl)⟩
    · rw [Finset.mem_singleton.mp hsecond] at hexecution
      exact hexecution ⟨Or.inr rfl, Or.inr (Or.inr rfl)⟩
  intro label hlabel
  cases label with
  | insertHandle r | wake r => cases hlabel
  | startHandling r | sendRequest r | receiveResponse r | timeout r | serverDone r =>
      rcases hcalls r with hphase | hphase <;> simp [enabled, hphase]
  | serverHandle | serverRemove | clientHandle | clientRemove => rfl
  | sendResponse r | markDone r =>
      rcases (hexecutions r).1 with hcallback | hcallback <;> simp [enabled, hcallback]
  | refuse r | asyncSendRequest r | finish r | cancel r =>
      rcases (hexecutions r).2 with hprogress | hprogress | hblocked
      · simp [enabled, hprogress]
      · simp [enabled, hprogress]
      · obtain ⟨hprogress, hdone, hawake⟩ := Execution.isBlocked_iff.mp hblocked
        simp [enabled, hprogress, hdone, hawake]

/-- The handle of the second request is left. -/
theorem settled_empties_canceled :
    canceledState.cancels.length = 1 ∧
      canceledState.clientHandles canceled.gIDString = none ∧
      canceledState.clientHandles unnotified.gIDString = some unnotified ∧
      canceledState.toClient = [] ∧ canceledState.toServer = [] ∧
      (∀ request, (canceledState.calls request).phase = .idle ∨
        (canceledState.calls request).phase = .closed) ∧
      (∀ k, canceledState.serverHandles k = none) ∧
      ∀ k owner, canceledState.clientHandles k = some owner →
        (canceledState.executions owner).isBlocked = true :=
  ⟨rfl, rfl, rfl, settled_empties cancelConfig canceledState
    (canceledState_reachable.mono fun _ _ _ => trivial) canceledState_settled⟩

end Service

end Ros2Connect
