import Ros2Connect.Service.ServiceServer

/-!
The response slot of a `ServiceServer`'s handle, statement by statement. The
callback that waits in `sendAndWait` and the thread that is in `handle` share
the slot under `goalMutex` and the flag `handlingGoal`; `ServiceServer` takes
what either does under the mutex for one step, here a message may come in
between any two statements. The flags that tell a call to stop are set by other
threads, so a check of them may find either value.
-/

namespace Ros2Connect

open Lib

namespace ServiceServer

/-- How far `sendAndWait`, and the callback after it, have come. -/
inductive Position where
  | idle
  | begun
  | inserted
  | emptied
  | armed
  | sent
  | waiting
  /-- `wait_for` has returned: `goalMutex` is held here and up to `cleared`. -/
  | woken
  | running
  | present
  | plain
  | sized
  | cleared
  /-- The handle was returned. -/
  | returned
  /-- `nullptr` was returned. -/
  | refused
  | closed
  deriving Repr, DecidableEq

def Position.holdsMutex : Position → Bool
  | woken | running | present | plain | sized | cleared => true
  | idle | begun | inserted | emptied | armed | sent | waiting | returned | refused
  | closed => false

/-- The positions of which something is known. -/
def Position.guarded (position : Position) : Bool :=
  position.holdsMutex || position == .returned || position == .closed

structure Slot where
  position : Position
  handlingGoal : Bool
  goalResponse : Option ServiceActionMessage
  deriving Repr, DecidableEq

/-- Where `handle` is after it found the handle of a message; `handlesMutex` is
held throughout, and `goalMutex` from `locked` on. -/
inductive HandlerPosition where
  | found
  | locked
  | expected
  | stored
  deriving Repr, DecidableEq

structure Handler where
  message : ServiceActionMessage
  request : RequestId
  position : HandlerPosition
  deriving Repr, DecidableEq

structure SlotState where
  slots : RequestId → Slot
  handles : KeyMap Bytes RequestId
  toRemove : List RequestId
  removing : Option RequestId
  handler : Option Handler

inductive SlotLabel where
  | checkStopping (request : RequestId) (stopping : Bool)
  | insertHandle (request : RequestId)
  | emptyResponse (request : RequestId)
  | startHandling (request : RequestId)
  | sendRequest (request : RequestId)
  | wake (request : RequestId)
  | checkResponse (request : RequestId)
  | decompress (request : RequestId)
  | checkSize (request : RequestId)
  | clearHandling (request : RequestId)
  | returnHandle (request : RequestId)
  | done (request : RequestId)
  | findHandle (message : ServiceActionMessage)
  | lockGoal
  | checkHandling
  | storeResponse
  | unlock
  | takeRemove
  | eraseHandle
  deriving Repr, DecidableEq

/-- The call whose statement a label is. -/
def SlotLabel.subject : SlotLabel → Option RequestId
  | checkStopping request _ | insertHandle request | emptyResponse request
  | startHandling request | sendRequest request | wake request | checkResponse request
  | decompress request | checkSize request | clearHandling request | returnHandle request
  | done request => some request
  | findHandle _ | lockGoal | checkHandling | storeResponse | unlock | takeRemove
  | eraseHandle => none

namespace SlotState

def start : SlotState where
  slots := fun _ => ⟨.idle, false, none⟩
  handles := KeyMap.empty
  toRemove := []
  removing := none
  handler := none

def setSlot (s : SlotState) (request : RequestId) (slot : Slot) : SlotState :=
  { s with slots := Function.update s.slots request slot }

def goTo (s : SlotState) (request : RequestId) (position : Position) : SlotState :=
  s.setSlot request { s.slots request with position }

/-- Where `handle` is with a message for the request. -/
def handlerOn (s : SlotState) (request : RequestId) : Option HandlerPosition :=
  match s.handler with
  | some handler => if handler.request = request then some handler.position else none
  | none => none

def goalMutexFree (s : SlotState) (request : RequestId) : Bool :=
  !(s.slots request).position.holdsMutex &&
    (s.handlerOn request == none || s.handlerOn request == some .found)

/-- The handle is queued for removal and `nullptr` returned. -/
def refuse (s : SlotState) (request : RequestId) : SlotState :=
  { s.setSlot request { s.slots request with position := .refused, handlingGoal := false } with
    toRemove := s.toRemove ++ [request] }

/-- The checks before the handle is created, after the request is sent and after
the wait. Only the second one cleans up. -/
def checkStopping (s : SlotState) (request : RequestId) (stopping : Bool) : SlotState :=
  match (s.slots request).position with
  | .idle => s.goTo request (if stopping then .refused else .begun)
  | .sent => if stopping then s.refuse request else s.goTo request .waiting
  | .woken => s.goTo request (if stopping then .refused else .running)
  | _ => s

def insertHandle (s : SlotState) (request : RequestId) : SlotState :=
  { s.goTo request .inserted with handles := s.handles.insert request.gIDString request }

def emptyResponse (s : SlotState) (request : RequestId) : SlotState :=
  s.setSlot request { s.slots request with position := .emptied, goalResponse := none }

def startHandling (s : SlotState) (request : RequestId) : SlotState :=
  s.setSlot request { s.slots request with position := .armed, handlingGoal := true }

def checkResponse (s : SlotState) (request : RequestId) : SlotState :=
  if (s.slots request).goalResponse.isSome then s.goTo request .present else s.refuse request

def decompress (config : Config) (s : SlotState) (request : RequestId) : SlotState :=
  match (s.slots request).goalResponse.bind (State.decompressed config) with
  | some response =>
      s.setSlot request
        { s.slots request with position := .plain, goalResponse := some response }
  | none => s.refuse request

/-- The response has the size the plugin expects. -/
def Fits (config : Config) (request : RequestId) (response : ServiceActionMessage) : Prop :=
  config.dynamicSize request = true ∨ response.getData.length = config.expectedSize request

instance (config : Config) (request : RequestId) (response : ServiceActionMessage) :
    Decidable (Fits config request response) :=
  inferInstanceAs (Decidable (_ ∨ _))

def checkSize (config : Config) (s : SlotState) (request : RequestId) : SlotState :=
  match (s.slots request).goalResponse with
  | some response =>
      if Fits config request response then s.goTo request .sized else s.refuse request
  | none => s

def clearHandling (s : SlotState) (request : RequestId) : SlotState :=
  s.setSlot request { s.slots request with position := .cleared, handlingGoal := false }

def done (s : SlotState) (request : RequestId) : SlotState :=
  { s.setSlot request { s.slots request with position := .closed, handlingGoal := false } with
    toRemove := s.toRemove ++ [request] }

/-- Messages with another op-code or an unknown gid are dropped. -/
def findHandle (s : SlotState) (message : ServiceActionMessage) : SlotState :=
  if message.isServiceActionOpCode .serviceToServer then
    { s with handler := (s.handles message.getGIDString).map fun request =>
        ⟨message, request, .found⟩ }
  else s

def moveHandler (s : SlotState) (position : HandlerPosition) : SlotState :=
  { s with handler := s.handler.map fun handler => { handler with position } }

/-- A response nobody expects is dropped. -/
def checkHandling (s : SlotState) : SlotState :=
  match s.handler with
  | some handler =>
      if (s.slots handler.request).handlingGoal then s.moveHandler .expected
      else { s with handler := none }
  | none => s

def storeResponse (s : SlotState) : SlotState :=
  match s.handler with
  | some handler =>
      (s.setSlot handler.request { s.slots handler.request with
        goalResponse := some handler.message }).moveHandler .stored
  | none => s

def takeRemove (s : SlotState) : SlotState :=
  match s.toRemove with
  | [] => s
  | request :: rest => { s with toRemove := rest, removing := some request }

def eraseHandle (s : SlotState) : SlotState :=
  match s.removing with
  | none => s
  | some request =>
      { s with removing := none, handles := s.handles.erase request.gIDString }

def handlerAt (s : SlotState) (position : HandlerPosition) : Bool :=
  match s.handler with
  | some handler => handler.position == position
  | none => false

def enabled (s : SlotState) : SlotLabel → Bool
  | .checkStopping request _ =>
      [.idle, .sent, .woken].contains (s.slots request).position
  | .insertHandle request => (s.slots request).position == .begun && s.handler.isNone
  | .emptyResponse request => (s.slots request).position == .inserted
  | .startHandling request => (s.slots request).position == .emptied
  | .sendRequest request => (s.slots request).position == .armed
  | .wake request => (s.slots request).position == .waiting && s.goalMutexFree request
  | .checkResponse request => (s.slots request).position == .running
  | .decompress request => (s.slots request).position == .present
  | .checkSize request => (s.slots request).position == .plain
  | .clearHandling request => (s.slots request).position == .sized
  | .returnHandle request => (s.slots request).position == .cleared
  | .done request => (s.slots request).position == .returned
  | .findHandle _ => s.handler.isNone
  | .lockGoal => s.handler.any fun handler =>
      handler.position == .found && s.goalMutexFree handler.request
  | .checkHandling => s.handlerAt .locked
  | .storeResponse => s.handlerAt .expected
  | .unlock => s.handlerAt .stored
  | .takeRemove => s.removing.isNone && !s.toRemove.isEmpty
  | .eraseHandle => s.removing.isSome && s.handler.isNone

def next (config : Config) (s : SlotState) : SlotLabel → SlotState
  | .checkStopping request stopping => s.checkStopping request stopping
  | .insertHandle request => s.insertHandle request
  | .emptyResponse request => s.emptyResponse request
  | .startHandling request => s.startHandling request
  | .sendRequest request => s.goTo request .sent
  | .wake request => s.goTo request .woken
  | .checkResponse request => s.checkResponse request
  | .decompress request => s.decompress config request
  | .checkSize request => s.checkSize config request
  | .clearHandling request => s.clearHandling request
  | .returnHandle request => s.goTo request .returned
  | .done request => s.done request
  | .findHandle message => s.findHandle message
  | .lockGoal => s.moveHandler .locked
  | .checkHandling => s.checkHandling
  | .storeResponse => s.storeResponse
  | .unlock => { s with handler := none }
  | .takeRemove => s.takeRemove
  | .eraseHandle => s.eraseHandle

/-- The runs that go on from a state. -/
def machineFrom (config : Config) (s : SlotState) : Machine SlotState SlotLabel where
  start := s
  enabled := enabled
  next := next config

def machine (config : Config) : Machine SlotState SlotLabel := machineFrom config .start

/-- `handle` has not locked the slot. -/
def Outside (handler : Option HandlerPosition) : Prop :=
  handler = none ∨ handler = some .found

/-- The slot holds a response as the callback expects it, and takes no other. -/
structure Answered (config : Config) (request : RequestId) (slot : Slot) : Prop where
  handlingGoal : slot.handlingGoal = false
  goalResponse : ∃ response, slot.goalResponse = some response ∧
    MessageBase.isCompressed response = false ∧ Fits config request response

/-- What is known of a slot while `goalMutex` is held by `sendAndWait`, and after
the handle was returned. -/
def Good (config : Config) (request : RequestId) (slot : Slot)
    (handler : Option HandlerPosition) : Prop :=
  match slot.position with
  | .woken | .running | .present => Outside handler
  | .plain => Outside handler ∧ ∃ response, slot.goalResponse = some response ∧
      MessageBase.isCompressed response = false
  | .sized => Outside handler ∧ ∃ response, slot.goalResponse = some response ∧
      MessageBase.isCompressed response = false ∧ Fits config request response
  | .cleared => Outside handler ∧ Answered config request slot
  | .returned | .closed => handler ≠ some .expected ∧ Answered config request slot
  | .idle | .begun | .inserted | .emptied | .armed | .sent | .waiting | .refused => True

/-- Every slot is good. -/
def Inv (config : Config) (s : SlotState) : Prop :=
  ∀ request, Good config request (s.slots request) (s.handlerOn request)

variable {config : Config} {s t : SlotState} {request other : RequestId} {slot : Slot}
  {handler new : Option HandlerPosition} {message : ServiceActionMessage}

theorem Outside.ne_expected (h : Outside handler) : handler ≠ some .expected := by
  rintro rfl
  rcases h with h | h <;> cases h

/-- Nothing is asked of a slot by a thread that has not locked it. -/
theorem Good.outside (h : Good config request slot handler) (hnew : Outside new) :
    Good config request slot new := by
  unfold Good at h ⊢
  split at h
  · exact hnew
  · exact hnew
  · exact hnew
  · exact ⟨hnew, h.2⟩
  · exact ⟨hnew, h.2⟩
  · exact ⟨hnew, h.2⟩
  · exact ⟨hnew.ne_expected, h.2⟩
  · exact ⟨hnew.ne_expected, h.2⟩
  all_goals trivial

/-- While `sendAndWait` holds the mutex, `handle` does not. -/
theorem Good.exclusive (h : Good config request slot handler)
    (hholds : slot.position.holdsMutex = true) : Outside handler := by
  unfold Good at h
  split at h <;> rename_i hposition <;> rw [hposition] at hholds
  · exact h
  · exact h
  · exact h
  · exact h.1
  · exact h.1
  · exact h.1
  all_goals cases hholds

/-- A slot `sendAndWait` has not locked is good for `handle` to lock. -/
theorem Good.lock (h : Good config request slot handler)
    (hfree : slot.position.holdsMutex = false) : Good config request slot (some .locked) := by
  unfold Good at h ⊢
  split at h <;> rename_i hposition <;> rw [hposition] at hfree
  any_goals cases hfree
  · exact ⟨nofun, h.2⟩
  · exact ⟨nofun, h.2⟩
  all_goals trivial

/-- Nothing is known of the other slots. -/
theorem Good.of_unguarded (h : slot.position.guarded = false) :
    Good config request slot handler := by
  unfold Good
  split <;> rename_i hposition <;> rw [hposition] at h
  any_goals cases h
  all_goals trivial

theorem Good.returned (h : Good config request slot handler)
    (hreturned : slot.position = .returned ∨ slot.position = .closed) :
    handler ≠ some .expected ∧ Answered config request slot := by
  unfold Good at h
  rcases hreturned with hposition | hposition <;> rw [hposition] at h <;> exact h

/-- A slot that `handle` has locked and whose handle was not returned. -/
theorem Good.unguarded (h : Good config request slot handler) (hinside : ¬ Outside handler)
    (hopen : ¬ (slot.position = .returned ∨ slot.position = .closed)) :
    slot.position.guarded = false := by
  have hholds : slot.position.holdsMutex = false :=
    Bool.eq_false_of_not_eq_true fun hholds => hinside (h.exclusive hholds)
  rw [not_or] at hopen
  simp [Position.guarded, hholds, hopen]

/-- `handle` has locked the slot and found that it takes a response. -/
theorem Good.unguarded_of_locked (h : Good config request slot (some .locked))
    (hhandling : slot.handlingGoal = true) : slot.position.guarded = false := by
  apply h.unguarded
  · rintro (hnone | hfound) <;> contradiction
  · intro hreturned
    rw [(h.returned hreturned).2.handlingGoal] at hhandling
    cases hhandling

/-- `handle` is about to store a response. -/
theorem Good.unguarded_of_expected (h : Good config request slot (some .expected)) :
    slot.position.guarded = false := by
  apply h.unguarded
  · rintro (hnone | hfound) <;> contradiction
  · exact fun hreturned => (h.returned hreturned).1 rfl

@[simp] theorem setSlot_self (s : SlotState) (request : RequestId) (slot : Slot) :
    (s.setSlot request slot).slots request = slot := by
  simp [setSlot]

theorem setSlot_of_ne (s : SlotState) (slot : Slot) (h : other ≠ request) :
    (s.setSlot request slot).slots other = s.slots other := by
  simp [setSlot, h]

/-- `sendAndWait` goes on with its slot. -/
theorem Inv.setSlot (h : Inv config s) (slot : Slot)
    (hslot : Good config request slot (s.handlerOn request)) :
    Inv config (s.setSlot request slot) := by
  intro other
  change Good config other ((s.setSlot request slot).slots other) (s.handlerOn other)
  by_cases hsame : other = request
  · rw [hsame, setSlot_self]
    exact hslot
  · rw [setSlot_of_ne s slot hsame]
    exact h other

theorem Inv.goTo (h : Inv config s) (position : Position)
    (hslot : Good config request { s.slots request with position } (s.handlerOn request)) :
    Inv config (s.goTo request position) :=
  h.setSlot _ hslot

theorem Inv.refuse (h : Inv config s) : Inv config (s.refuse request) :=
  h.setSlot { s.slots request with position := .refused, handlingGoal := false } trivial

/-- What `decompress` has succeeded on is not compressed. -/
theorem isCompressed_decompressed {response : ServiceActionMessage}
    (h : State.decompressed config message = some response) :
    MessageBase.isCompressed response = false := by
  unfold State.decompressed at h
  split at h
  · split at h
    · next stored hstored =>
      obtain rfl : stored = response := Option.some.inj h
      obtain ⟨-, data, hstore⟩ := MessageBase.store_of_decompress hstored
      obtain rfl : message.store data = stored := Except.ok.inj hstore
      rfl
    all_goals cases h
  · next hplain =>
    obtain rfl : message = response := Option.some.inj h
    simpa using hplain

theorem good_at (h : Inv config s) {position : Position}
    (hposition : (s.slots request).position = position) :
    Good config request { s.slots request with position } (s.handlerOn request) := by
  rw [← hposition]
  exact h request

theorem Inv.checkStopping (h : Inv config s) (stopping : Bool) :
    Inv config (s.checkStopping request stopping) := by
  unfold SlotState.checkStopping
  split
  · cases stopping <;> exact h.goTo _ trivial
  · cases stopping
    · exact h.goTo _ trivial
    · exact h.refuse
  · next hwoken =>
    have houtside : Outside (s.handlerOn request) := good_at h hwoken
    cases stopping
    · exact h.goTo _ houtside
    · exact h.goTo _ trivial
  · exact h

theorem Inv.wake (h : Inv config s) (hfree : s.goalMutexFree request = true) :
    Inv config (s.goTo request .woken) := by
  simp only [goalMutexFree, Bool.and_eq_true, Bool.or_eq_true, beq_iff_eq] at hfree
  exact h.goTo _ hfree.2

theorem Inv.checkResponse (h : Inv config s)
    (hrunning : (s.slots request).position = .running) : Inv config (s.checkResponse request) := by
  have houtside : Outside (s.handlerOn request) := good_at h hrunning
  unfold SlotState.checkResponse
  split
  · exact h.goTo _ houtside
  · exact h.refuse

theorem Inv.decompress (h : Inv config s)
    (hpresent : (s.slots request).position = .present) :
    Inv config (s.decompress config request) := by
  unfold SlotState.decompress
  split
  · next response hresponse =>
    obtain ⟨message, -, hdecompressed⟩ := Option.bind_eq_some_iff.mp hresponse
    have houtside : Outside (s.handlerOn request) := good_at h hpresent
    exact h.setSlot _ ⟨houtside, response, rfl, isCompressed_decompressed hdecompressed⟩
  · exact h.refuse

theorem Inv.checkSize (h : Inv config s) (hplain : (s.slots request).position = .plain) :
    Inv config (s.checkSize config request) := by
  unfold SlotState.checkSize
  split
  · next response hresponse =>
    split
    · next hfits =>
      obtain ⟨houtside, found, hfound, hcompressed⟩ := good_at h hplain
      obtain rfl : response = found := Option.some.inj (hresponse.symm.trans hfound)
      exact h.goTo _ ⟨houtside, response, hresponse, hcompressed, hfits⟩
    · exact h.refuse
  · exact h

theorem Inv.clearHandling (h : Inv config s) (hsized : (s.slots request).position = .sized) :
    Inv config (s.clearHandling request) := by
  obtain ⟨houtside, hresponse⟩ := good_at h hsized
  exact h.setSlot _ ⟨houtside, rfl, hresponse⟩

theorem Inv.returnHandle (h : Inv config s) (hcleared : (s.slots request).position = .cleared) :
    Inv config (s.goTo request .returned) := by
  obtain ⟨houtside, hanswered⟩ := good_at h hcleared
  exact h.goTo _ ⟨houtside.ne_expected, hanswered.handlingGoal, hanswered.goalResponse⟩

theorem Inv.done (h : Inv config s) (hreturned : (s.slots request).position = .returned) :
    Inv config (s.done request) := by
  obtain ⟨hexpected, hanswered⟩ := (h request).returned (Or.inl hreturned)
  exact h.setSlot { s.slots request with position := .closed, handlingGoal := false }
    ⟨hexpected, rfl, hanswered.goalResponse⟩

/-- A step of `handle` that leaves it outside of every slot. -/
theorem Inv.outside (h : Inv config s) (hslots : t.slots = s.slots)
    (houtside : ∀ handler, t.handler = some handler → handler.position = .found) :
    Inv config t := by
  intro request
  rw [hslots]
  apply (h request).outside
  unfold handlerOn
  cases hhandler : t.handler with
  | none => exact Or.inl rfl
  | some handler =>
      simp only [houtside handler hhandler]
      split
      · exact Or.inr rfl
      · exact Or.inl rfl

/-- A step of `handle` inside the slot of its request. -/
theorem Inv.inside (h : Inv config s) {handler : Handler} {position : HandlerPosition}
    (hhandler : s.handler = some handler)
    (hslot : Good config handler.request (s.slots handler.request) (some position)) :
    Inv config (s.moveHandler position) := by
  intro request
  change Good config request (s.slots request) ((s.moveHandler position).handlerOn request)
  unfold handlerOn moveHandler
  simp only [hhandler, Option.map_some]
  split
  · next hsame =>
    subst hsame
    exact hslot
  · exact (h request).outside (Or.inl rfl)

theorem handlerOn_request {handler : Handler} (hhandler : s.handler = some handler) :
    s.handlerOn handler.request = some handler.position := by
  simp [handlerOn, hhandler]

theorem exists_handler {position : HandlerPosition} (h : s.handlerAt position = true) :
    ∃ handler, s.handler = some handler ∧ s.handlerOn handler.request = some position := by
  unfold handlerAt at h
  split at h
  · next handler hhandler =>
    refine ⟨handler, hhandler, ?_⟩
    rw [handlerOn_request hhandler, beq_iff_eq.mp h]
  · cases h

theorem Inv.findHandle (h : Inv config s) (message : ServiceActionMessage) :
    Inv config (s.findHandle message) := by
  unfold SlotState.findHandle
  split
  · refine h.outside ?_ ?_
    · rfl
    · intro handler hhandler
      obtain ⟨request, -, rfl⟩ := Option.map_eq_some_iff.mp hhandler
      rfl
  · exact h

theorem Inv.lockGoal (h : Inv config s) {handler : Handler} (hhandler : s.handler = some handler)
    (hfree : s.goalMutexFree handler.request = true) : Inv config (s.moveHandler .locked) := by
  simp only [goalMutexFree, Bool.and_eq_true, Bool.not_eq_true'] at hfree
  exact h.inside hhandler ((h handler.request).lock hfree.1)

theorem Inv.checkHandling (h : Inv config s) (hlocked : s.handlerAt .locked = true) :
    Inv config s.checkHandling := by
  obtain ⟨handler, hhandler, hposition⟩ := exists_handler hlocked
  have hgood := h handler.request
  rw [hposition] at hgood
  unfold SlotState.checkHandling
  simp only [hhandler]
  split
  · next hhandling =>
    exact h.inside hhandler (Good.of_unguarded (hgood.unguarded_of_locked hhandling))
  · exact h.outside rfl fun _ h => nomatch h

theorem Inv.storeResponse (h : Inv config s) (hexpected : s.handlerAt .expected = true) :
    Inv config s.storeResponse := by
  obtain ⟨handler, hhandler, hposition⟩ := exists_handler hexpected
  have hgood := h handler.request
  rw [hposition] at hgood
  have hopen := hgood.unguarded_of_expected
  unfold SlotState.storeResponse
  simp only [hhandler]
  let stored : Slot := { s.slots handler.request with goalResponse := some handler.message }
  have hstored : Inv config (s.setSlot handler.request stored) :=
    h.setSlot _ (Good.of_unguarded hopen)
  refine hstored.inside hhandler (Good.of_unguarded ?_)
  rw [setSlot_self]
  exact hopen

/-- What one step keeps. -/
theorem Inv.next (h : Inv config s) {label : SlotLabel} (henabled : enabled s label = true) :
    Inv config (next config s label) := by
  cases label with
  | checkStopping request stopping => exact h.checkStopping stopping
  | insertHandle request => exact h.goTo .inserted trivial
  | emptyResponse request =>
      exact h.setSlot { s.slots request with position := .emptied, goalResponse := none }
        trivial
  | startHandling request =>
      exact h.setSlot { s.slots request with position := .armed, handlingGoal := true } trivial
  | sendRequest request => exact h.goTo .sent trivial
  | wake request =>
      simp only [enabled, Bool.and_eq_true] at henabled
      exact h.wake henabled.2
  | checkResponse request => exact h.checkResponse (beq_iff_eq.mp henabled)
  | decompress request => exact h.decompress (beq_iff_eq.mp henabled)
  | checkSize request => exact h.checkSize (beq_iff_eq.mp henabled)
  | clearHandling request => exact h.clearHandling (beq_iff_eq.mp henabled)
  | returnHandle request => exact h.returnHandle (beq_iff_eq.mp henabled)
  | done request => exact h.done (beq_iff_eq.mp henabled)
  | findHandle message => exact h.findHandle message
  | lockGoal =>
      obtain ⟨handler, hhandler, hlock⟩ := (Option.any_eq_true _ _).mp henabled
      simp only [Bool.and_eq_true] at hlock
      exact h.lockGoal hhandler hlock.2
  | checkHandling => exact h.checkHandling henabled
  | storeResponse => exact h.storeResponse henabled
  | unlock => exact h.outside rfl fun _ h => nomatch h
  | takeRemove =>
      simp only [SlotState.next, SlotState.takeRemove]
      split <;> exact h
  | eraseHandle =>
      simp only [SlotState.next, SlotState.eraseHandle]
      split <;> exact h

theorem inv_of_reachable (h : (machine config).Reachable s) : Inv config s :=
  h.invariant (Inv config) (show Inv config .start from fun _ => trivial)
    fun _ _ hinv henabled _ => hinv.next henabled

theorem slots_refuse_of_ne (h : other ≠ request) :
    (s.refuse request).slots other = s.slots other :=
  setSlot_of_ne s _ h

/-- The statements of one call leave the slots of the others alone. -/
theorem slots_next_of_subject {label : SlotLabel} (hsubject : label.subject = some request)
    (h : other ≠ request) : (next config s label).slots other = s.slots other := by
  have hgoTo (position : Position) : (s.goTo request position).slots other = s.slots other :=
    setSlot_of_ne s _ h
  have hrefuse := slots_refuse_of_ne (s := s) h
  cases label with
  | checkStopping r stopping =>
      cases hsubject
      simp only [next, checkStopping]
      split
      · exact hgoTo _
      · split
        · exact hrefuse
        · exact hgoTo _
      · exact hgoTo _
      · rfl
  | insertHandle r | sendRequest r | wake r | returnHandle r =>
      cases hsubject
      exact hgoTo _
  | emptyResponse r | startHandling r | clearHandling r | done r =>
      cases hsubject
      exact setSlot_of_ne s _ h
  | checkResponse r =>
      cases hsubject
      simp only [next, checkResponse]
      split
      · exact hgoTo _
      · exact hrefuse
  | decompress r =>
      cases hsubject
      simp only [next, decompress]
      split
      · exact setSlot_of_ne s _ h
      · exact hrefuse
  | checkSize r =>
      cases hsubject
      simp only [next, checkSize]
      split
      · split
        · exact hgoTo _
        · exact hrefuse
      · rfl
  | findHandle _ | lockGoal | checkHandling | storeResponse | unlock | takeRemove
  | eraseHandle => cases hsubject

/-- `handle` and the removal thread change no slot, except that a response is
stored. -/
theorem slots_next_of_no_subject {label : SlotLabel} (hsubject : label.subject = none)
    (hstore : label ≠ .storeResponse) : (next config s label).slots = s.slots := by
  cases label with
  | findHandle message =>
      simp only [next, findHandle]
      split <;> rfl
  | checkHandling =>
      simp only [next, checkHandling]
      split
      · split <;> rfl
      · rfl
  | takeRemove =>
      simp only [next, takeRemove]
      split <;> rfl
  | eraseHandle =>
      simp only [next, eraseHandle]
      split <;> rfl
  | lockGoal | unlock => rfl
  | storeResponse => exact absurd rfl hstore
  | _ => cases hsubject

/-- The handle was returned with the response. -/
structure Settled (request : RequestId) (response : ServiceActionMessage) (s : SlotState) :
    Prop where
  position : (s.slots request).position = .returned ∨ (s.slots request).position = .closed
  goalResponse : (s.slots request).goalResponse = some response

theorem Settled.ofSlot {response : ServiceActionMessage} (h : Settled request response s)
    (hslot : t.slots request = s.slots request) : Settled request response t where
  position := by rw [hslot]; exact h.position
  goalResponse := by rw [hslot]; exact h.goalResponse

/-- A call that has returned its handle is only ended. -/
theorem eq_done_of_subject {label : SlotLabel} (henabled : enabled s label = true)
    (hsubject : label.subject = some request)
    (hposition : (s.slots request).position = .returned ∨
      (s.slots request).position = .closed) : label = .done request := by
  cases label with
  | done r =>
      cases hsubject
      rfl
  | findHandle _ | lockGoal | checkHandling | storeResponse | unlock | takeRemove
  | eraseHandle => cases hsubject
  | _ =>
      exfalso
      cases hsubject
      rcases hposition with hposition | hposition <;>
        simp [enabled, hposition] at henabled

theorem Settled.storeResponse {response : ServiceActionMessage}
    (h : Settled request response s) (hinv : Inv config s)
    (hexpected : s.handlerAt .expected = true) :
    Settled request response s.storeResponse := by
  obtain ⟨handler, hhandler, hposition⟩ := exists_handler hexpected
  have hgood := hinv handler.request
  rw [hposition] at hgood
  have hopen := hgood.unguarded_of_expected
  have hne : request ≠ handler.request := by
    rintro rfl
    rcases h.position with hsettled | hsettled <;> rw [hsettled] at hopen <;> cases hopen
  apply h.ofSlot
  unfold SlotState.storeResponse
  simp only [hhandler]
  exact setSlot_of_ne s _ hne

theorem Settled.next {response : ServiceActionMessage} (h : Settled request response s)
    (hinv : Inv config s) {label : SlotLabel} (henabled : enabled s label = true) :
    Settled request response (next config s label) := by
  cases hsubject : label.subject with
  | some other =>
      by_cases hsame : request = other
      · subst hsame
        obtain rfl := eq_done_of_subject henabled hsubject h.position
        exact ⟨Or.inr (by simp [SlotState.next, done]), by
          simpa [SlotState.next, done] using h.goalResponse⟩
      · exact h.ofSlot (slots_next_of_subject hsubject hsame)
  | none =>
      by_cases hstore : label = .storeResponse
      · subst hstore
        exact h.storeResponse hinv henabled
      · exact h.ofSlot (congrFun (slots_next_of_no_subject hsubject hstore) request)

/-- A handle that `sendAndWait` returns holds an uncompressed response of the
size the plugin expects, and whatever arrives afterwards leaves it there. -/
theorem sendAndWait_response (config : Config) (s : SlotState)
    (h : (machine config).Reachable s) (request : RequestId)
    (hreturned : (s.slots request).position = .returned) :
    ∃ response, (s.slots request).goalResponse = some response ∧
      MessageBase.isCompressed response = false ∧
      (config.dynamicSize request = true ∨
        response.getData.length = config.expectedSize request) ∧
      ∀ t, (machineFrom config s).Reachable t →
        (t.slots request).goalResponse = some response := by
  have hinv := inv_of_reachable h
  obtain ⟨-, -, response, hresponse, hcompressed, hfits⟩ :=
    (hinv request).returned (Or.inl hreturned)
  refine ⟨response, hresponse, hcompressed, hfits, ?_⟩
  intro t ht
  have hsettled : Inv config t ∧ Settled request response t :=
    ht.invariant (fun t => Inv config t ∧ Settled request response t)
      ⟨hinv, Or.inl hreturned, hresponse⟩
      fun _ _ hboth henabled _ =>
        ⟨hboth.1.next henabled, hboth.2.next hboth.1 henabled⟩
  exact hsettled.2.goalResponse

/-- A response of three bytes, compressed with LZ4, and one that comes late. -/
private def compressedResponse : ServiceActionMessage :=
  ⟨251, .lz4Default, 3, [251, 1, 3, 0, 0, 0, 5, 2, 1, 3, 48, 1, 2, 3], 5, .serviceToServer,
    ⟨9, 1⟩, ⟨10, 4⟩⟩

private def lateResponse : ServiceActionMessage :=
  ⟨251, .none, 1, [251, 0, 5, 2, 1, 3, 9], 5, .serviceToServer, ⟨5, 1⟩, ⟨6, 1⟩⟩

private def threeBytes : Config := ⟨literalCodecs, fun _ => 3, fun _ => false⟩

/-- The handle is returned while `handle` waits for its mutex with a second
response. -/
theorem sendAndWait_response_late :
    ∃ s : SlotState, s.handlerOn ⟨[3], 1⟩ = some .found ∧
      ∃ response, (s.slots ⟨[3], 1⟩).goalResponse = some response ∧
        MessageBase.isCompressed response = false ∧
        (threeBytes.dynamicSize ⟨[3], 1⟩ = true ∨
          response.getData.length = threeBytes.expectedSize ⟨[3], 1⟩) ∧
        ∀ t, (machineFrom threeBytes s).Reachable t →
          (t.slots ⟨[3], 1⟩).goalResponse = some response := by
  let request : RequestId := ⟨[3], 1⟩
  have hrun : ∃ s, (machine threeBytes).Reachable s ∧
      ((s.slots request).position = .returned ∧ s.handlerOn request = some .found) :=
    Machine.exists_reachable
      (fun s : SlotState => (s.slots request).position = .returned ∧
        s.handlerOn request = some .found)
      [.checkStopping request false, .insertHandle request, .emptyResponse request,
        .startHandling request, .sendRequest request, .findHandle compressedResponse,
        .checkStopping request false, .lockGoal, .checkHandling, .storeResponse, .unlock,
        .wake request, .findHandle lateResponse, .checkStopping request false,
        .checkResponse request, .decompress request, .checkSize request,
        .clearHandling request, .returnHandle request] (by decide)
  obtain ⟨s, hreach, hreturned, hfound⟩ := hrun
  exact ⟨s, hfound, sendAndWait_response threeBytes s hreach request hreturned⟩

end SlotState

end ServiceServer

end Ros2Connect
