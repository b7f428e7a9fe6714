import Ros2Connect.Service.ServicePair

/-!
What each step of a service server and client can do, with what it found, and
the same seen from one call, one execution or one link. A run leaves every
request alone that none of its steps is about.
-/

namespace Ros2Connect

open Lib

namespace Service

variable {config : Config} {s t : State} {label : Label} {r : RequestId}

/-- Each thing a step can do, with what it found. -/
inductive Step (config : Config) (s : State) : Label → State → Prop where
  | insertHandle (r : RequestId) (hphase : (s.calls r).phase = .idle) :
      Step config s (.insertHandle r)
        { s with
          calls := Function.update s.calls r { s.calls r with phase := .inserted }
          serverHandles := s.serverHandles.insert r.gIDString r }
  | startHandling (r : RequestId) (hphase : (s.calls r).phase = .inserted) :
      Step config s (.startHandling r)
        { s with calls := Function.update s.calls r ⟨.armed, true, none⟩ }
  | sendRequest (r : RequestId) (data : Bytes) (hphase : (s.calls r).phase = .armed) :
      Step config s (.sendRequest r data)
        { s with
          calls := Function.update s.calls r { s.calls r with phase := .waiting }
          toClient := s.toClient ++ [config.send .serviceToClient data r] }
  | acceptResponse (r : RequestId) (m : Message) (hphase : (s.calls r).phase = .waiting)
      (hresponse : (s.calls r).goalResponse = some m) :
      Step config s (.receiveResponse r)
        { s with
          calls := Function.update s.calls r
            { s.calls r with phase := .returned, handlingGoal := false }
          answers := s.answers ++ [(r, m)] }
  | close (r : RequestId) (label : Label)
      (hlabel : label = .receiveResponse r ∨ label = .serverDone r) :
      Step config s label
        { s with
          calls := Function.update s.calls r
            { s.calls r with phase := .closed, handlingGoal := false }
          serverToRemove := s.serverToRemove ++ [r] }
  | timeout (r : RequestId) (hphase : (s.calls r).phase = .waiting) :
      Step config s (.timeout r)
        { s with
          calls := Function.update s.calls r
            { s.calls r with phase := .closed, handlingGoal := false }
          toClient := s.toClient ++ [config.send .serviceToClientCancel [] r]
          serverToRemove := s.serverToRemove ++ [r] }
  | serverDrop (m : Message) (rest : List Message) (hlink : s.toServer = m :: rest) :
      Step config s .serverHandle { s with toServer := rest }
  | serverStore (m : Message) (rest : List Message) (owner : RequestId)
      (hlink : s.toServer = m :: rest)
      (howner : s.serverHandles (ServiceActionHandle.gIDString m.gID) = some owner)
      (hhandling : (s.calls owner).handlingGoal = true) :
      Step config s .serverHandle
        { s with
          toServer := rest
          calls := Function.update s.calls owner
            { s.calls owner with goalResponse := some m } }
  | serverRemove (r : RequestId) (rest : List RequestId) :
      Step config s .serverRemove
        { s with
          serverToRemove := rest
          serverHandles := s.serverHandles.erase r.gIDString }
  | clientDrop (m : Message) (rest : List Message) (hlink : s.toClient = m :: rest) :
      Step config s .clientHandle { s with toClient := rest }
  | clientKnown (m : Message) (rest : List Message) (hlink : s.toClient = m :: rest)
      (hop : m.opCode = .serviceToClient) :
      Step config s .clientHandle
        { s with
          toClient := rest
          toServer := s.toServer ++
            [⟨.arriving config.reception .serviceToServer m.gID config.error, m.origin⟩] }
  | clientNew (m : Message) (rest : List Message) (hlink : s.toClient = m :: rest)
      (hop : m.opCode = .serviceToClient) :
      Step config s .clientHandle
        { s with
          toClient := rest
          executions := Function.update s.executions m.origin
            ⟨.executing, m.data, .unset, false, false, []⟩
          clientHandles := s.clientHandles.insert m.origin.gIDString m.origin }
  | clientCancel (m : Message) (rest : List Message) (owner : RequestId)
      (hlink : s.toClient = m :: rest) (hop : m.opCode = .serviceToClientCancel)
      (howner : s.clientHandles (ServiceActionHandle.gIDString m.gID) = some owner) :
      Step config s .clientHandle
        { s with
          toClient := rest
          executions := Function.update s.executions owner
            { s.executions owner with
              waitQueue := (s.executions owner).waitQueue ++ [m] } }
  | refuse (r : RequestId) (refusal : Refusal)
      (hprogress : (s.executions r).progress = .executing) :
      Step config s (.refuse r refusal)
        { s with
          executions := Function.update s.executions r
            { s.executions r with progress := .finished }
          clientToRemove := s.clientToRemove ++ [r]
          toServer := s.toServer ++ [config.send .serviceToServer config.error r] }
  | asyncSendRequest (r : RequestId) (hprogress : (s.executions r).progress = .executing) :
      Step config s (.asyncSendRequest r)
        { s with
          executions := Function.update s.executions r
            { s.executions r with progress := .waiting, callback := .pending } }
  | sendResponse (r : RequestId) (data : Bytes)
      (hcallback : (s.executions r).callback = .pending) :
      Step config s (.sendResponse r data)
        { s with
          executions := Function.update s.executions r
            { s.executions r with callback := .answered }
          toServer := s.toServer ++ [config.send .serviceToServer data r] }
  | markDone (r : RequestId) (missed : Bool)
      (hcallback : (s.executions r).callback = .answered) :
      Step config s (.markDone r missed)
        { s with
          executions := Function.update s.executions r
            { s.executions r with callback := .spent, done := true, missed := missed } }
  | finish (r : RequestId) (label : Label) (hlabel : label = .finish r ∨ label = .wake r)
      (hprogress : (s.executions r).progress = .waiting)
      (hdone : (s.executions r).done = true) :
      Step config s label
        { s with
          executions := Function.update s.executions r
            { s.executions r with progress := .finished }
          clientToRemove := s.clientToRemove ++ [r] }
  | cancel (r : RequestId) (callbackRuns : Bool) (m : Message) (queue : List Message)
      (hprogress : (s.executions r).progress = .waiting)
      (hdone : (s.executions r).done = false)
      (hqueue : (s.executions r).waitQueue = m :: queue) :
      Step config s (.cancel r callbackRuns)
        { s with
          executions := Function.update s.executions r
            { s.executions r with
              progress := .finished
              callback := (s.executions r).callback.afterCancel callbackRuns
              done := true }
          clientToRemove := s.clientToRemove ++ [r]
          cancels := s.cancels ++ [(r, m)] }
  | clientRemove (r : RequestId) (rest : List RequestId) :
      Step config s .clientRemove
        { s with
          clientToRemove := rest
          clientHandles := s.clientHandles.erase r.gIDString }

theorem Step.of_enabled (henabled : enabled config s label = true) :
    Step config s label (next config s label) := by
  cases label with
  | insertHandle r => exact .insertHandle r (by simpa [enabled] using henabled)
  | startHandling r => exact .startHandling r (by simpa [enabled] using henabled)
  | sendRequest r data => exact .sendRequest r data (by simpa [enabled] using henabled)
  | receiveResponse r =>
      simp only [enabled, Bool.and_eq_true, beq_iff_eq, Option.isSome_iff_exists] at henabled
      obtain ⟨hphase, m, hresponse⟩ := henabled
      simp only [next, receiveResponse, hresponse]
      split
      · simpa [hresponse, State.setCall] using Step.acceptResponse r m hphase hresponse
      · simpa [hresponse, State.setCall] using Step.close (s := s) r _ (Or.inl rfl)
  | timeout r =>
      exact .timeout r (by simp [enabled] at henabled; exact henabled.1)
  | serverDone r => exact .close r _ (Or.inr rfl)
  | serverHandle =>
      cases hlink : s.toServer with
      | nil => simp [enabled, hlink] at henabled
      | cons m rest =>
          simp only [next, serverHandle, hlink]
          split
          · exact .serverDrop m rest hlink
          · split
            · exact .serverDrop m rest hlink
            · rename_i owner howner
              split
              · rename_i hhandling
                exact .serverStore m rest owner hlink howner hhandling
              · exact .serverDrop m rest hlink
  | serverRemove =>
      cases hqueue : s.serverToRemove with
      | nil => simp [enabled, hqueue] at henabled
      | cons r rest =>
          simp only [next, hqueue]
          exact .serverRemove r rest
  | clientHandle =>
      cases hlink : s.toClient with
      | nil => simp [enabled, hlink] at henabled
      | cons m rest =>
          simp only [next, clientHandle, hlink]
          split
          · rename_i hop
            split
            · exact .clientKnown m rest hlink hop
            · exact .clientNew m rest hlink hop
          · split
            · rename_i hop
              split
              · exact .clientDrop m rest hlink
              · rename_i owner howner
                exact .clientCancel m rest owner hlink hop howner
            · exact .clientDrop m rest hlink
  | refuse r refusal =>
      simp only [enabled, Bool.and_eq_true, beq_iff_eq] at henabled
      exact .refuse r refusal henabled.1
  | asyncSendRequest r =>
      simp only [enabled, Bool.and_eq_true, beq_iff_eq] at henabled
      exact .asyncSendRequest r henabled.1
  | sendResponse r data => exact .sendResponse r data (by simpa [enabled] using henabled)
  | markDone r missed =>
      simp only [enabled, Bool.and_eq_true, beq_iff_eq] at henabled
      exact .markDone r missed henabled.1
  | finish r =>
      simp only [enabled, Bool.and_eq_true, beq_iff_eq] at henabled
      exact .finish r _ (Or.inl rfl) henabled.1.1 henabled.1.2
  | wake r =>
      simp only [enabled, Bool.and_eq_true, beq_iff_eq] at henabled
      exact .finish r _ (Or.inr rfl) henabled.1 henabled.2
  | cancel r callbackRuns =>
      cases hqueue : (s.executions r).waitQueue with
      | nil => simp [enabled, hqueue] at henabled
      | cons m queue =>
          simp only [enabled, hqueue, List.isEmpty_cons, Bool.not_false, Bool.and_true,
            Bool.and_eq_true, beq_iff_eq, Bool.not_eq_true'] at henabled
          have hstep := @Step.cancel config _ r callbackRuns m queue henabled.1
            henabled.2 hqueue
          simpa [next, hqueue, endExecution, State.setExecution] using hstep
  | clientRemove =>
      cases hqueue : s.clientToRemove with
      | nil => simp [enabled, hqueue] at henabled
      | cons r rest =>
          simp only [next, hqueue]
          exact .clientRemove r rest

/-- What a step does to a call of `sendAndWait`. -/
inductive CallStep (s : State) (r : RequestId) : Label → Call → Prop where
  | same (label : Label) : CallStep s r label (s.calls r)
  | insert (hphase : (s.calls r).phase = .idle) :
      CallStep s r (.insertHandle r) { s.calls r with phase := .inserted }
  | arm (hphase : (s.calls r).phase = .inserted) :
      CallStep s r (.startHandling r) ⟨.armed, true, none⟩
  | send (data : Bytes) (hphase : (s.calls r).phase = .armed) :
      CallStep s r (.sendRequest r data) { s.calls r with phase := .waiting }
  | finish (label : Label) (phase : Phase) (hphase : phase = .returned ∨ phase = .closed) :
      CallStep s r label { s.calls r with phase := phase, handlingGoal := false }
  | store (m : Message) (hlink : m ∈ s.toServer)
      (howner : s.serverHandles (ServiceActionHandle.gIDString m.gID) = some r)
      (hhandling : (s.calls r).handlingGoal = true) :
      CallStep s r .serverHandle { s.calls r with goalResponse := some m }

/-- A step on one call leaves the others alone. -/
theorem CallStep.update {other : RequestId} {call : Call} (h : CallStep s other label call)
    (r : RequestId) : CallStep s r label (Function.update s.calls other call r) := by
  by_cases hsame : r = other
  · subst hsame
    simpa using h
  · rw [Function.update_of_ne hsame]
    exact .same label

theorem Step.call (hstep : Step config s label t) (r : RequestId) :
    CallStep s r label (t.calls r) := by
  cases hstep with
  | insertHandle other hphase => exact (CallStep.insert hphase).update r
  | startHandling other hphase => exact (CallStep.arm hphase).update r
  | sendRequest other data hphase => exact (CallStep.send data hphase).update r
  | acceptResponse other m hphase hresponse =>
      exact (CallStep.finish _ .returned (Or.inl rfl)).update r
  | close other label hlabel => exact (CallStep.finish _ .closed (Or.inr rfl)).update r
  | timeout other hphase => exact (CallStep.finish _ .closed (Or.inr rfl)).update r
  | serverStore m rest owner hlink howner hhandling =>
      exact (CallStep.store m (by simp [hlink]) howner hhandling).update r
  | _ => exact .same _

/-- What a step does to `executeHandle` of a request and to its callback. -/
inductive ExecutionStep (s t : State) (r : RequestId) : Execution → Prop where
  | same : ExecutionStep s t r (s.executions r)
  | create (m : Message) (hlink : s.toClient = m :: t.toClient)
      (hop : m.opCode = .serviceToClient) (horigin : m.origin = r) :
      ExecutionStep s t r ⟨.executing, m.data, .unset, false, false, []⟩
  | cancel (m : Message) (hlink : m ∈ s.toClient) (hop : m.opCode = .serviceToClientCancel)
      (howner : s.clientHandles (ServiceActionHandle.gIDString m.gID) = some r) :
      ExecutionStep s t r { s.executions r with waitQueue := (s.executions r).waitQueue ++ [m] }
  | asyncSendRequest (hprogress : (s.executions r).progress = .executing) :
      ExecutionStep s t r { s.executions r with progress := .waiting, callback := .pending }
  | sendResponse (hcallback : (s.executions r).callback = .pending) :
      ExecutionStep s t r { s.executions r with callback := .answered }
  | markDone (missed : Bool) (hcallback : (s.executions r).callback = .answered) :
      ExecutionStep s t r
        { s.executions r with callback := .spent, done := true, missed := missed }
  | finish (callback : Callback) (done : Bool)
      (hpresent : (s.executions r).progress ≠ .absent)
      (hcallback : callback = .pending → (s.executions r).callback = .pending) :
      ExecutionStep s t r
        { s.executions r with progress := .finished, callback := callback, done := done }

theorem ExecutionStep.update {other : RequestId} {execution : Execution}
    (h : ExecutionStep s t other execution) (r : RequestId) :
    ExecutionStep s t r (Function.update s.executions other execution r) := by
  by_cases hsame : r = other
  · subst hsame
    simpa using h
  · rw [Function.update_of_ne hsame]
    exact .same

theorem Callback.pending_of_afterCancel {callbackRuns : Bool} {callback : Callback}
    (h : callback.afterCancel callbackRuns = .pending) : callback = .pending := by
  cases callback with
  | pending => rfl
  | unset | answered | spent => cases h

theorem Step.execution (hstep : Step config s label t) (r : RequestId) :
    ExecutionStep s t r (t.executions r) := by
  cases hstep with
  | clientNew m rest hlink hop =>
      refine .update ?_ r
      exact .create m hlink hop rfl
  | clientCancel m rest owner hlink hop howner =>
      exact (ExecutionStep.cancel m (by simp [hlink]) hop howner).update r
  | refuse other refusal hprogress =>
      exact (ExecutionStep.finish _ _ (by simp [hprogress]) id).update r
  | asyncSendRequest other hprogress =>
      exact (ExecutionStep.asyncSendRequest hprogress).update r
  | sendResponse other data hcallback => exact (ExecutionStep.sendResponse hcallback).update r
  | markDone other missed hcallback =>
      exact (ExecutionStep.markDone missed hcallback).update r
  | finish other label hlabel hprogress hdone =>
      exact (ExecutionStep.finish _ _ (by simp [hprogress]) id).update r
  | cancel other callbackRuns m queue hprogress hdone hqueue =>
      have hpresent : (s.executions other).progress ≠ .absent := by simp [hprogress]
      exact (ExecutionStep.finish _ _ hpresent Callback.pending_of_afterCancel).update r
  | _ => exact .same

/-- What a step sends to the client's plugin. -/
inductive SentToClient (config : Config) (s : State) : Message → Prop where
  | request (r : RequestId) (data : Bytes) (hphase : (s.calls r).phase = .armed) :
      SentToClient config s (config.send .serviceToClient data r)
  | cancel (r : RequestId) (hphase : (s.calls r).phase = .waiting) :
      SentToClient config s (config.send .serviceToClientCancel [] r)

/-- The link to the client loses its first message or gains one. -/
theorem Step.toClient (hstep : Step config s label t) : t.toClient <:+ s.toClient ∨
    ∃ m, t.toClient = s.toClient ++ [m] ∧ SentToClient config s m := by
  have hrest {m : Message} {rest : List Message} (hlink : s.toClient = m :: rest) :
      rest <:+ s.toClient := by
    rw [hlink]
    exact List.suffix_cons m rest
  cases hstep with
  | sendRequest other data hphase => exact Or.inr ⟨_, rfl, .request other data hphase⟩
  | timeout other hphase => exact Or.inr ⟨_, rfl, .cancel other hphase⟩
  | clientDrop m rest hlink => exact Or.inl (hrest hlink)
  | clientKnown m rest hlink hop => exact Or.inl (hrest hlink)
  | clientNew m rest hlink hop => exact Or.inl (hrest hlink)
  | clientCancel m rest owner hlink hop howner => exact Or.inl (hrest hlink)
  | _ => exact Or.inl (List.suffix_refl _)

theorem Step.mem_toClient (hstep : Step config s label t) {m : Message}
    (hm : m ∈ t.toClient) : m ∈ s.toClient ∨ SentToClient config s m := by
  rcases hstep.toClient with hsuffix | ⟨last, hlast, hsent⟩
  · exact Or.inl (hsuffix.mem hm)
  · rw [hlast] at hm
    refine (List.mem_append.mp hm).imp_right (fun hmem => ?_)
    rwa [List.mem_singleton.mp hmem]

/-- A request on the link was there or has just been sent. -/
theorem Step.sent (hstep : Step config s label t) {m : Message} (hm : m ∈ t.toClient)
    (hop : m.opCode = .serviceToClient) : m ∈ s.toClient ∨
      (s.calls m.origin).phase = .armed ∧ (t.calls m.origin).phase = .waiting := by
  cases hstep with
  | sendRequest r data hphase =>
      refine (List.mem_append.mp hm).imp_right (fun hlast => ?_)
      rw [List.mem_singleton.mp hlast]
      exact ⟨hphase, by simp [Config.send]⟩
  | timeout r hphase =>
      refine (List.mem_append.mp hm).imp_right (fun hlast => ?_)
      rw [List.mem_singleton.mp hlast] at hop
      cases hop
  | clientDrop first rest hlink | clientKnown first rest hlink | clientNew first rest hlink
  | clientCancel first rest owner hlink =>
      exact Or.inl (by rw [hlink]; exact .tail _ hm)
  | _ => exact Or.inl hm

/-- What a step sends to the server's plugin. -/
inductive SentToServer (config : Config) (s : State) : Message → Prop where
  | known (m : Message) (hlink : m ∈ s.toClient) (hop : m.opCode = .serviceToClient) :
      SentToServer config s
        ⟨.arriving config.reception .serviceToServer m.gID config.error, m.origin⟩
  | refusal (r : RequestId) (hprogress : (s.executions r).progress = .executing) :
      SentToServer config s (config.send .serviceToServer config.error r)
  | response (r : RequestId) (data : Bytes)
      (hcallback : (s.executions r).callback = .pending) :
      SentToServer config s (config.send .serviceToServer data r)

theorem Step.mem_toServer (hstep : Step config s label t) {m : Message}
    (hm : m ∈ t.toServer) : m ∈ s.toServer ∨ SentToServer config s m := by
  have hnew {last : Message} (hsent : SentToServer config s last)
      (hmem : m ∈ s.toServer ++ [last]) : m ∈ s.toServer ∨ SentToServer config s m := by
    refine (List.mem_append.mp hmem).imp_right (fun hlast => ?_)
    rwa [List.mem_singleton.mp hlast]
  cases hstep with
  | serverDrop first rest hlink => exact Or.inl (by rw [hlink]; exact .tail _ hm)
  | serverStore first rest owner hlink howner hhandling =>
      exact Or.inl (by rw [hlink]; exact .tail _ hm)
  | clientKnown first rest hlink hop => exact hnew (.known first (by simp [hlink]) hop) hm
  | refuse other refusal hprogress => exact hnew (.refusal other hprogress) hm
  | sendResponse other data hcallback => exact hnew (.response other data hcallback) hm
  | _ => exact Or.inl hm

/-- `sendAndWait` returns the response the handle holds. -/
theorem Step.mem_answers (hstep : Step config s label t) {m : Message}
    (hm : (r, m) ∈ t.answers) : (r, m) ∈ s.answers ∨ (s.calls r).goalResponse = some m := by
  cases hstep with
  | acceptResponse other response hphase hresponse =>
      refine (List.mem_append.mp hm).imp_right (fun hlast => ?_)
      cases List.mem_singleton.mp hlast
      exact hresponse
  | _ => exact Or.inl hm

/-- A canceled execution has its first message to thank for it. -/
theorem Step.mem_cancels (hstep : Step config s label t) {m : Message}
    (hm : (r, m) ∈ t.cancels) : (r, m) ∈ s.cancels ∨
      (s.executions r).progress = .waiting ∧ (s.executions r).done = false ∧
        m ∈ (s.executions r).waitQueue := by
  cases hstep with
  | cancel other callbackRuns first queue hprogress hdone hqueue =>
      refine (List.mem_append.mp hm).imp_right (fun hlast => ?_)
      cases List.mem_singleton.mp hlast
      exact ⟨hprogress, hdone, by simp [hqueue]⟩
  | _ => exact Or.inl hm

section Requests

variable {keys : Finset RequestId}

/-- Nothing is there of any other request. -/
structure Within (keys : Finset RequestId) (s : State) : Prop where
  calls : ∀ r, (s.calls r).phase ≠ .idle → r ∈ keys
  executions : ∀ r, (s.executions r).progress ≠ .absent ∨ (s.executions r).callback ≠ .unset →
    r ∈ keys
  toClient : ∀ m ∈ s.toClient, m.origin ∈ keys

theorem Within.start : Within keys .start where
  calls := fun _ hphase => absurd rfl hphase
  executions := fun _ hexecution => hexecution.elim (absurd rfl) (absurd rfl)
  toClient := fun _ hmem => by cases hmem

theorem mem_update_calls {calls : RequestId → Call}
    (hcalls : ∀ r, (calls r).phase ≠ .idle → r ∈ keys) {r : RequestId} {call : Call}
    (hr : call.phase ≠ .idle → r ∈ keys) (j : RequestId)
    (hj : (Function.update calls r call j).phase ≠ .idle) : j ∈ keys := by
  by_cases hsame : j = r
  · subst hsame
    rw [Function.update_self] at hj
    exact hr hj
  · rw [Function.update_of_ne hsame] at hj
    exact hcalls j hj

theorem mem_update_executions {executions : RequestId → Execution}
    (hexecutions : ∀ r, (executions r).progress ≠ .absent ∨ (executions r).callback ≠ .unset →
      r ∈ keys) {r : RequestId} {execution : Execution}
    (hr : execution.progress ≠ .absent ∨ execution.callback ≠ .unset → r ∈ keys) (j : RequestId)
    (hj : (Function.update executions r execution j).progress ≠ .absent ∨
      (Function.update executions r execution j).callback ≠ .unset) : j ∈ keys := by
  by_cases hsame : j = r
  · subst hsame
    rw [Function.update_self] at hj
    exact hr hj
  · rw [Function.update_of_ne hsame] at hj
    exact hexecutions j hj

/-- What is enabled belongs to one of the requests. -/
def Label.request? : Label → Option RequestId
  | .insertHandle r | .startHandling r | .sendRequest r _ | .receiveResponse r | .timeout r
  | .serverDone r | .refuse r _ | .asyncSendRequest r | .sendResponse r _
  | .markDone r _ | .finish r | .wake r | .cancel r _ => some r
  | .serverHandle | .serverRemove | .clientHandle | .clientRemove => none

theorem Within.request_mem (h : Within keys s) (henabled : enabled config s label = true)
    (hkeys : ∀ r, label = .insertHandle r → r ∈ keys) {r : RequestId}
    (hrequest : label.request? = some r) : r ∈ keys := by
  cases label with
  | serverHandle | serverRemove | clientHandle | clientRemove => cases hrequest
  | insertHandle other =>
      cases hrequest
      exact hkeys _ rfl
  | startHandling other | sendRequest other | serverDone other =>
      cases hrequest
      simp only [enabled, beq_iff_eq] at henabled
      exact h.calls _ (by simp [henabled])
  | receiveResponse other | timeout other =>
      cases hrequest
      simp only [enabled, Bool.and_eq_true, beq_iff_eq] at henabled
      exact h.calls _ (by simp [henabled.1])
  | refuse other | asyncSendRequest other | finish other | wake other | cancel other =>
      cases hrequest
      simp only [enabled, Bool.and_eq_true, beq_iff_eq] at henabled
      exact h.executions _ (Or.inl (by simp [henabled]))
  | sendResponse other =>
      cases hrequest
      simp only [enabled, beq_iff_eq] at henabled
      exact h.executions _ (Or.inr (by simp [henabled]))
  | markDone other =>
      cases hrequest
      simp only [enabled, Bool.and_eq_true, beq_iff_eq] at henabled
      exact h.executions _ (Or.inr (by simp [henabled.1]))

/-- What one step keeps. -/
theorem Within.next (h : Within keys s) (henabled : enabled config s label = true)
    (hkeys : ∀ r, label = .insertHandle r → r ∈ keys) : Within keys (next config s label) := by
  have hstep := Step.of_enabled henabled
  have hrequest {r : RequestId} (hr : label.request? = some r) : r ∈ keys :=
    h.request_mem henabled hkeys hr
  have htoClient : ∀ m ∈ (Service.next config s label).toClient, m.origin ∈ keys := by
    intro m hm
    rcases hstep.mem_toClient hm with hold | hsent
    · exact h.toClient m hold
    · cases hsent with
      | request r data hphase => exact h.calls r (by simp [hphase])
      | cancel r hphase => exact h.calls r (by simp [hphase])
  generalize Service.next config s label = t at hstep htoClient
  cases hstep with
  | insertHandle r | startHandling r | sendRequest r | acceptResponse r | timeout r =>
      exact ⟨mem_update_calls h.calls fun _ => hrequest rfl, h.executions, htoClient⟩
  | close r label hlabel =>
      have hr : r ∈ keys := by
        rcases hlabel with rfl | rfl <;> exact hrequest rfl
      exact ⟨mem_update_calls h.calls fun _ => hr, h.executions, htoClient⟩
  | serverStore m rest owner =>
      exact ⟨mem_update_calls h.calls (h.calls owner), h.executions, htoClient⟩
  | clientNew m rest hlink =>
      exact ⟨h.calls, mem_update_executions h.executions fun _ =>
        h.toClient m (by simp [hlink]), htoClient⟩
  | clientCancel m rest owner =>
      exact ⟨h.calls, mem_update_executions h.executions (h.executions owner), htoClient⟩
  | refuse r | asyncSendRequest r | sendResponse r | markDone r | cancel r =>
      exact ⟨h.calls, mem_update_executions h.executions fun _ => hrequest rfl, htoClient⟩
  | finish r label hlabel =>
      have hr : r ∈ keys := by
        rcases hlabel with rfl | rfl <;> exact hrequest rfl
      exact ⟨h.calls, mem_update_executions h.executions fun _ => hr, htoClient⟩
  | serverDrop | serverRemove | clientDrop | clientKnown | clientRemove =>
      exact ⟨h.calls, h.executions, htoClient⟩

end Requests

end Service

end Ros2Connect
