import Ros2Connect.Service.ResponseSlot

/-!
The two machines of a `ServiceServer` against each other. A step of the coarser
one, which takes a part of `sendAndWait` or the whole of `handle` at once, is a
sequence of statements of the other; so what is shown of every interleaving of
the statements covers its runs.
-/

namespace Ros2Connect

open Lib

namespace ServiceServer

/-- The phase of a call that is between two parts of `sendAndWait`. -/
def Position.phase : Position → Option Phase
  | idle => some .idle
  | inserted => some .inserted
  | armed => some .armed
  | waiting => some .waiting
  | returned => some .returned
  | refused | closed => some .closed
  | begun | emptied | sent | woken | running | present | plain | sized | cleared => none

/-- Where a call is that has not ended. -/
def Phase.position : Phase → Position
  | idle => .idle
  | inserted => .inserted
  | armed => .armed
  | waiting => .waiting
  | returned => .returned
  | closed => .closed

theorem Position.eq_of_phase {position : Position} {phase : Phase}
    (h : position.phase = some phase) (hopen : phase ≠ .closed) : position = phase.position := by
  cases position <;> simp only [Position.phase, Option.some.injEq, reduceCtorEq] at h <;>
    subst h <;> first | rfl | exact absurd rfl hopen

/-- No mutex is held between two parts. -/
theorem Position.free_of_phase {position : Position} {phase : Phase}
    (h : position.phase = some phase) : position.holdsMutex = false := by
  cases position <;> simp only [Position.phase, reduceCtorEq] at h <;> rfl

structure Slot.Matches (slot : Slot) (call : Call) : Prop where
  phase : slot.position.phase = some call.phase
  handlingGoal : slot.handlingGoal = call.handlingGoal
  goalResponse : slot.goalResponse = call.goalResponse

namespace SlotState

/-- The states agree on everything but the slot of one request. -/
structure MatchesExcept (request : RequestId) (t : SlotState) (s : State) : Prop where
  slots : ∀ other, other ≠ request → (t.slots other).Matches (s.calls other)
  handles : t.handles = s.handles
  toRemove : t.toRemove = s.toRemove
  removing : t.removing = s.removing
  handler : t.handler = none

structure Matches (t : SlotState) (s : State) : Prop where
  slots : ∀ request, (t.slots request).Matches (s.calls request)
  handles : t.handles = s.handles
  toRemove : t.toRemove = s.toRemove
  removing : t.removing = s.removing
  handler : t.handler = none

variable {config : Config} {s : State} {t : SlotState} {request : RequestId} {slot : Slot}
  {call : Call} {message : ServiceActionMessage}

theorem Matches.start : Matches .start .start where
  slots := fun _ => ⟨rfl, rfl, rfl⟩
  handles := rfl
  toRemove := rfl
  removing := rfl
  handler := rfl

theorem Matches.except (h : Matches t s) (request : RequestId) : MatchesExcept request t s where
  slots := fun other _ => h.slots other
  handles := h.handles
  toRemove := h.toRemove
  removing := h.removing
  handler := h.handler

theorem Matches.position (h : Matches t s) {phase : Phase}
    (hphase : (s.calls request).phase = phase) (hopen : phase ≠ .closed) :
    (t.slots request).position = phase.position := by
  have hslot := (h.slots request).phase
  rw [hphase] at hslot
  exact Position.eq_of_phase hslot hopen

theorem setSlot_setSlot (t : SlotState) (request : RequestId) (first second : Slot) :
    (t.setSlot request first).setSlot request second = t.setSlot request second := by
  simp [setSlot]

theorem goTo_goTo (t : SlotState) (request : RequestId) (first second : Position) :
    (t.goTo request first).goTo request second = t.goTo request second := by
  simp [goTo, setSlot]

@[simp] theorem goTo_slots_self (t : SlotState) (request : RequestId) (position : Position) :
    (t.goTo request position).slots request = { t.slots request with position } := by
  simp [goTo]

/-- The call goes on to where both machines agree again. -/
theorem MatchesExcept.setSlot (h : MatchesExcept request t s) (hslot : slot.Matches call) :
    Matches (t.setSlot request slot) (s.setCall request call) where
  slots := by
    intro other
    by_cases hsame : other = request
    · subst hsame
      simpa [SlotState.setSlot, State.setCall] using hslot
    · simpa [SlotState.setSlot, State.setCall, hsame] using h.slots other hsame
  handles := h.handles
  toRemove := h.toRemove
  removing := h.removing
  handler := h.handler

/-- The handle is queued for removal by both. -/
theorem Matches.toRemove_append (h : Matches t s) (request : RequestId) :
    Matches { t with toRemove := t.toRemove ++ [request] }
      { s with toRemove := s.toRemove ++ [request] } where
  slots := h.slots
  handles := h.handles
  toRemove := congrArg (· ++ [request]) h.toRemove
  removing := h.removing
  handler := h.handler

/-- The call ends, by `done` or with `nullptr`. -/
theorem MatchesExcept.close (h : MatchesExcept request t s) {position : Position}
    (hposition : position.phase = some .closed)
    (hresponse : (t.slots request).goalResponse = (s.calls request).goalResponse) :
    Matches { t.setSlot request { t.slots request with position, handlingGoal := false } with
      toRemove := t.toRemove ++ [request] } (s.removeHandle request) := by
  have hslot : Slot.Matches { t.slots request with position, handlingGoal := false }
      { s.calls request with phase := .closed, handlingGoal := false } :=
    ⟨hposition, rfl, hresponse⟩
  exact (h.setSlot hslot).toRemove_append request

theorem MatchesExcept.moveSlot (h : MatchesExcept request t s) (slot : Slot) :
    MatchesExcept request (t.setSlot request slot) s where
  slots := by
    intro other hother
    rw [setSlot_of_ne t slot hother]
    exact h.slots other hother
  handles := h.handles
  toRemove := h.toRemove
  removing := h.removing
  handler := h.handler

theorem MatchesExcept.moveCall (h : MatchesExcept request t s) (call : Call) :
    MatchesExcept request t (s.setCall request call) where
  slots := by
    intro other hother
    simpa [State.setCall, hother] using h.slots other hother
  handles := h.handles
  toRemove := h.toRemove
  removing := h.removing
  handler := h.handler

theorem Matches.goalMutexFree (h : Matches t s) (request : RequestId) :
    t.goalMutexFree request = true := by
  simp [SlotState.goalMutexFree, Position.free_of_phase (h.slots request).phase, handlerOn,
    h.handler]

theorem reachable_next (ht : (machine config).Reachable t) (label : SlotLabel)
    (henabled : enabled t label = true) : (machine config).Reachable (next config t label) :=
  .step ht henabled trivial

/-- The call has been woken and is not stopping. -/
theorem Matches.reachable_running (h : Matches t s) (ht : (machine config).Reachable t)
    (hphase : (s.calls request).phase = .waiting) :
    (machine config).Reachable (t.goTo request .running) := by
  have hwaiting : (t.slots request).position = .waiting := h.position hphase (by simp)
  have hwoken := reachable_next ht (.wake request)
    (by simp [enabled, hwaiting, h.goalMutexFree request])
  have hchecked := reachable_next hwoken (.checkStopping request false) (by simp [enabled, next])
  simpa [next, checkStopping, goTo_goTo] using hchecked

/-- The wait has timed out. -/
theorem Matches.timeout (h : Matches t s) (ht : (machine config).Reachable t)
    (hphase : (s.calls request).phase = .waiting)
    (hnone : (s.calls request).goalResponse = none) :
    ∃ t', (machine config).Reachable t' ∧ Matches t' (s.removeHandle request) := by
  have hresponse := (h.slots request).goalResponse.trans hnone
  have hrefused := reachable_next (h.reachable_running ht hphase) (.checkResponse request)
    (by simp [enabled])
  simp only [next, checkResponse, goTo_slots_self, hresponse, Option.isSome_none,
    Bool.false_eq_true, if_false] at hrefused
  exact ⟨_, hrefused, ((h.except request).moveSlot _).close rfl (by simp [hresponse, hnone])⟩

/-- The call has found a response. -/
theorem Matches.reachable_present (h : Matches t s) (ht : (machine config).Reachable t)
    (hphase : (s.calls request).phase = .waiting)
    (hsome : (s.calls request).goalResponse = some message) :
    (machine config).Reachable (t.goTo request .present) := by
  have hresponse := (h.slots request).goalResponse.trans hsome
  have hpresent := reachable_next (h.reachable_running ht hphase) (.checkResponse request)
    (by simp [enabled])
  simpa [next, checkResponse, hresponse, goTo_goTo] using hpresent

/-- A response of the expected size is returned. -/
theorem reachable_returned {response : ServiceActionMessage} {handlingGoal : Bool}
    (ht : (machine config).Reachable (t.setSlot request ⟨.plain, handlingGoal, some response⟩))
    (hfits : Fits config request response) :
    (machine config).Reachable (t.setSlot request ⟨.returned, false, some response⟩) := by
  have hsized := reachable_next ht (.checkSize request) (by simp [enabled])
  simp only [next, checkSize, setSlot_self, hfits, if_true, goTo, setSlot_setSlot] at hsized
  have hcleared := reachable_next hsized (.clearHandling request) (by simp [enabled])
  simp only [next, clearHandling, setSlot_self, setSlot_setSlot] at hcleared
  have hreturned := reachable_next hcleared (.returnHandle request) (by simp [enabled])
  simpa only [next, goTo, setSlot_self, setSlot_setSlot] using hreturned

theorem Matches.receiveResponse (h : Matches t s) (ht : (machine config).Reachable t)
    (hphase : (s.calls request).phase = .waiting)
    (hsome : (s.calls request).goalResponse = some message) :
    ∃ t', (machine config).Reachable t' ∧ Matches t' (s.receiveResponse config request) := by
  have hresponse := (h.slots request).goalResponse.trans hsome
  have hnext := reachable_next (h.reachable_present ht hphase hsome) (.decompress request)
    (by simp [enabled])
  simp only [next, decompress, goTo_slots_self, hresponse, Option.bind_some] at hnext
  simp only [State.receiveResponse, hsome]
  cases hdecompressed : State.decompressed config message with
  | none =>
      simp only [hdecompressed] at hnext ⊢
      exact ⟨_, hnext, ((h.except request).moveSlot _).close rfl (by simp [hresponse, hsome])⟩
  | some response =>
      simp only [hdecompressed, goTo, setSlot_setSlot] at hnext ⊢
      by_cases hfits : Fits config request response
      · have hcall : (config.dynamicSize request ||
            response.getData.length == config.expectedSize request) = true := by
          simpa [Fits] using hfits
        simp only [hcall, if_true]
        exact ⟨_, reachable_returned hnext hfits, (h.except request).setSlot ⟨rfl, rfl, rfl⟩⟩
      · have hcall : (config.dynamicSize request ||
            response.getData.length == config.expectedSize request) = false := by
          simpa [Fits] using hfits
        have hrefused := reachable_next hnext (.checkSize request) (by simp [enabled])
        simp only [next, checkSize, setSlot_self, hfits, if_false] at hrefused
        simp only [hcall, Bool.false_eq_true, if_false]
        refine ⟨_, hrefused, (((h.except request).moveSlot _).moveCall _).close rfl ?_⟩
        simp [State.setCall]

theorem Matches.insertHandle (h : Matches t s) (ht : (machine config).Reachable t)
    (hphase : (s.calls request).phase = .idle) :
    ∃ t', (machine config).Reachable t' ∧ Matches t' (s.insertHandle request) := by
  have hidle : (t.slots request).position = .idle := h.position hphase (by simp)
  have hbegun := reachable_next ht (.checkStopping request false) (by simp [enabled, hidle])
  simp only [next, checkStopping, hidle, Bool.false_eq_true, if_false] at hbegun
  have hinserted := reachable_next hbegun (.insertHandle request)
    (by simp [enabled, goTo, SlotState.setSlot, h.handler])
  simp only [next, SlotState.insertHandle, goTo_goTo] at hinserted
  have hslot : Slot.Matches { t.slots request with position := .inserted }
      { s.calls request with phase := .inserted } :=
    ⟨rfl, (h.slots request).handlingGoal, (h.slots request).goalResponse⟩
  have hmatches := (h.except request).setSlot hslot
  refine ⟨_, hinserted, { hmatches with handles := ?_ }⟩
  exact congrArg (fun handles => handles.insert request.gIDString request) h.handles

theorem Matches.startHandling (h : Matches t s) (ht : (machine config).Reachable t)
    (hphase : (s.calls request).phase = .inserted) :
    ∃ t', (machine config).Reachable t' ∧ Matches t' (s.startHandling request) := by
  have hinserted : (t.slots request).position = .inserted := h.position hphase (by simp)
  have hemptied := reachable_next ht (.emptyResponse request) (by simp [enabled, hinserted])
  have harmed := reachable_next hemptied (.startHandling request)
    (by simp [enabled, next, emptyResponse])
  simp only [next, SlotState.startHandling, emptyResponse, setSlot_self, setSlot_setSlot] at harmed
  exact ⟨_, harmed, (h.except request).setSlot ⟨rfl, rfl, rfl⟩⟩

theorem Matches.sendRequest (h : Matches t s) (ht : (machine config).Reachable t)
    (hphase : (s.calls request).phase = .armed) (data : Bytes) :
    ∃ t', (machine config).Reachable t' ∧ Matches t' (s.sendRequest request data) := by
  have harmed : (t.slots request).position = .armed := h.position hphase (by simp)
  have hsent := reachable_next ht (.sendRequest request) (by simp [enabled, harmed])
  have hwaiting := reachable_next hsent (.checkStopping request false) (by simp [enabled, next])
  simp only [next, checkStopping, goTo_slots_self, goTo_goTo, Bool.false_eq_true,
    if_false] at hwaiting
  have hslot : Slot.Matches { t.slots request with position := .waiting }
      { s.calls request with phase := .waiting } :=
    ⟨rfl, (h.slots request).handlingGoal, (h.slots request).goalResponse⟩
  exact ⟨_, hwaiting, { (h.except request).setSlot hslot with }⟩

theorem Matches.done (h : Matches t s) (ht : (machine config).Reachable t)
    (hphase : (s.calls request).phase = .returned) :
    ∃ t', (machine config).Reachable t' ∧ Matches t' (s.removeHandle request) := by
  have hreturned : (t.slots request).position = .returned := h.position hphase (by simp)
  have hclosed := reachable_next ht (.done request) (by simp [enabled, hreturned])
  exact ⟨_, hclosed, (h.except request).close rfl (h.slots request).goalResponse⟩

/-- `handle` runs from the look-up to the release of the mutex. -/
theorem Matches.handle (h : Matches t s) (ht : (machine config).Reachable t)
    (message : ServiceActionMessage) :
    ∃ t', (machine config).Reachable t' ∧ Matches t' (s.handle message) := by
  unfold State.handle
  cases hreceiver : s.receiver message with
  | none => exact ⟨t, ht, h⟩
  | some request =>
      have hopCode : message.isServiceActionOpCode .serviceToServer = true := by
        by_contra hother
        simp [State.receiver, hother] at hreceiver
      rw [State.receiver, if_pos hopCode, Option.filter_eq_some_iff] at hreceiver
      obtain ⟨hfound, hhandling⟩ := hreceiver
      have hhandles : t.handles message.getGIDString = some request := by
        rw [h.handles]
        exact hfound
      have hexpects : (t.slots request).handlingGoal = true :=
        (h.slots request).handlingGoal.trans hhandling
      have hfree := Position.free_of_phase (h.slots request).phase
      have hfinding := reachable_next ht (.findHandle message) (by simp [enabled, h.handler])
      simp only [next, findHandle, hopCode, if_true, hhandles, Option.map_some] at hfinding
      have hlocked := reachable_next hfinding .lockGoal
        (by simp [enabled, SlotState.goalMutexFree, handlerOn, hfree])
      simp only [next, moveHandler, Option.map_some] at hlocked
      have hchecked := reachable_next hlocked .checkHandling (by simp [enabled, handlerAt])
      simp only [next, checkHandling, hexpects, if_true, moveHandler, Option.map_some] at hchecked
      have hstored := reachable_next hchecked .storeResponse (by simp [enabled, handlerAt])
      have hunlocked := reachable_next hstored .unlock
        (by simp [enabled, next, SlotState.storeResponse, moveHandler, SlotState.setSlot,
          handlerAt])
      have hslot : Slot.Matches { t.slots request with goalResponse := some message }
          { s.calls request with goalResponse := some message } :=
        ⟨(h.slots request).phase, (h.slots request).handlingGoal, rfl⟩
      exact ⟨_, hunlocked, { (h.except request).setSlot hslot with handler := rfl }⟩

/-- One step of the coarser machine. -/
theorem Matches.step (h : Matches t s) (ht : (machine config).Reachable t) {label : Label}
    (henabled : ServiceServer.enabled s label = true) :
    ∃ t', (machine config).Reachable t' ∧ Matches t' (ServiceServer.next config s label) := by
  cases label with
  | insertHandle request => exact h.insertHandle ht (beq_iff_eq.mp henabled)
  | startHandling request => exact h.startHandling ht (beq_iff_eq.mp henabled)
  | sendRequest request data => exact h.sendRequest ht (beq_iff_eq.mp henabled) data
  | receiveResponse request =>
      simp only [ServiceServer.enabled, Bool.and_eq_true, beq_iff_eq] at henabled
      obtain ⟨message, hmessage⟩ := Option.isSome_iff_exists.mp henabled.2
      exact h.receiveResponse ht henabled.1 hmessage
  | timeout request =>
      simp only [ServiceServer.enabled, Bool.and_eq_true, beq_iff_eq] at henabled
      obtain ⟨t', ht', hmatches⟩ :=
        h.timeout ht henabled.1 (Option.isNone_iff_eq_none.mp henabled.2)
      exact ⟨t', ht', { hmatches with }⟩
  | done request => exact h.done ht (beq_iff_eq.mp henabled)
  | handle message => exact h.handle ht message
  | takeRemove =>
      have hlabel : enabled t .takeRemove = true := by
        rw [enabled, h.removing, h.toRemove]
        exact henabled
      refine ⟨_, reachable_next ht .takeRemove hlabel, ?_⟩
      simp only [next, takeRemove, ServiceServer.next, State.takeRemove, h.toRemove]
      cases s.toRemove with
      | nil => exact h
      | cons request rest => exact { h with toRemove := rfl, removing := rfl }
  | eraseHandle =>
      have hlabel : enabled t .eraseHandle = true := by
        rw [enabled, h.removing, h.handler]
        simpa [ServiceServer.enabled] using henabled
      refine ⟨_, reachable_next ht .eraseHandle hlabel, ?_⟩
      simp only [next, eraseHandle, ServiceServer.next, State.eraseHandle, h.removing]
      cases s.removing with
      | none => exact h
      | some request =>
          refine { h with handles := ?_, removing := rfl }
          exact congrArg (fun handles => handles.erase request.gIDString) h.handles

/-- Every state the coarser machine reaches is one the statements reach. -/
theorem exists_matches (h : (server config).Reachable s) :
    ∃ t, (machine config).Reachable t ∧ Matches t s :=
  h.invariant (fun s => ∃ t, (machine config).Reachable t ∧ Matches t s)
    ⟨.start, .start, .start⟩
    (fun _ _ ⟨_, ht, hmatches⟩ henabled _ => hmatches.step ht henabled)

/-- What every interleaving of the statements guarantees of a returned handle
holds in the coarser machine. -/
theorem goalResponse_of_returned (h : (server config).Reachable s)
    (hreturned : (s.calls request).phase = .returned) :
    ∃ response, (s.calls request).goalResponse = some response ∧
      MessageBase.isCompressed response = false ∧ Fits config request response := by
  obtain ⟨t, ht, hmatches⟩ := exists_matches h
  have hposition : (t.slots request).position = .returned :=
    hmatches.position hreturned (by simp)
  obtain ⟨-, hanswered⟩ := (inv_of_reachable ht request).returned (Or.inl hposition)
  rw [← (hmatches.slots request).goalResponse]
  exact hanswered.goalResponse

end SlotState

end ServiceServer

end Ros2Connect
