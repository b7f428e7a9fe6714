import Ros2Connect.Action.ActionPair

/-!
An `ActionServer` that is not stopping, with any messages from the other node
and any number of calls of its functions. `sendCancelAndWait` refers to the
node of the map it has found until it returns, while the removal thread erases
nodes. Using the reference after that is undefined behaviour: the call is
followed no further.
-/

namespace Ros2Connect

open Lib

namespace CancelEntry

open Ros2Connect.Action (PluginCall ThreadState Phase)

/-- A call of `sendGoalAndWait` or of `sendCancelAndWait` for a goal. A handle
is named by the call that created it. -/
structure CallId where
  gid : GoalUUID
  number : Nat
  deriving DecidableEq

def CallId.gIDString (id : CallId) : Bytes := id.gid.gIDString

/-- A handle and how far the call that created it has come. `executeAccepted`
sets `done` right before it returns, so the thread's end stands for it. -/
structure Handle where
  phase : Phase
  handlingGoal : Bool
  goalResponse : Option Transfer
  accepted : Option Bool
  handlingWait : Bool
  thread : ThreadState
  waitQueue : List Transfer
  handlingCancel : Bool
  cancelResponse : Option Transfer
  /-- The call that holds it and does not wait. -/
  cancelMutex : Option CallId
  deriving DecidableEq

/-- How far a call of `sendCancelAndWait` has come, with the handle of the
entry it refers to and its answer, `true` for `ACCEPT`. -/
inductive CancelPhase where
  | idle
  | found (entry : CallId)
  | armed (entry : CallId)
  | waiting (entry : CallId)
  | decided (entry : CallId) (accept : Bool)
  | closing (entry : CallId) (accept : Bool)
  | returned (accept : Bool)
  | undefined
  deriving DecidableEq

namespace CancelPhase

def refersTo : CancelPhase → Option CallId
  | found entry | armed entry | waiting entry | decided entry _ | closing entry _ => some entry
  | idle | returned _ | undefined => none

def verdict? : CancelPhase → Option Bool
  | decided _ accept | closing _ accept | returned accept => some accept
  | idle | found _ | armed _ | waiting _ | undefined => none

end CancelPhase

structure State where
  goals : CallId → Handle
  handles : KeyMap Bytes CallId
  toRemove : List CallId
  /-- The handle the removal thread has taken. -/
  removing : Option CallId
  cancels : CallId → CancelPhase
  /-- What was passed to `send`: op-code, data and gid. -/
  sent : List (ServiceActionOpCode × Bytes × Bytes)
  calls : CallId → List (PluginCall × Bytes)

inductive Label where
  | insertHandle (id : CallId)
  | startHandling (id : CallId)
  | sendGoal (id : CallId) (data : Bytes)
  | receiveGoalResponse (id : CallId)
  | goalTimeout (id : CallId)
  | handleAccepted (id : CallId)
  | executeAccepted (id : CallId)
  | findCancel (call : CallId)
  | startCancel (call : CallId)
  | sendCancel (call : CallId)
  | wakeCancel (call : CallId)
  | closeCancel (call : CallId)
  | returnCancel (call : CallId)
  | handle (message : Transfer)
  | takeRemove
  | eraseHandle
  deriving DecidableEq

namespace State

def start : State where
  goals := fun _ => ⟨.idle, false, none, none, false, .absent, [], false, none, none⟩
  handles := KeyMap.empty
  toRemove := []
  removing := none
  cancels := fun _ => .idle
  sent := []
  calls := fun _ => []

def setGoal (s : State) (id : CallId) (handle : Handle) : State :=
  { s with goals := Function.update s.goals id handle }

def setCancel (s : State) (call : CallId) (phase : CancelPhase) : State :=
  { s with cancels := Function.update s.cancels call phase }

def send (s : State) (opCode : ServiceActionOpCode) (data gID : Bytes) : State :=
  { s with sent := s.sent ++ [(opCode, data, gID)] }

def removeHandle (s : State) (id : CallId) : State :=
  { s with toRemove := s.toRemove ++ [id] }

def insertHandle (s : State) (id : CallId) : State :=
  { s.setGoal id { s.goals id with phase := .inserted } with
    handles := s.handles.insert id.gIDString id }

/-- The end of `sendGoalAndWait` for a goal that has a response. -/
def receiveGoalResponse (s : State) (id : CallId) : State :=
  match (s.goals id).goalResponse with
  | none => s
  | some message =>
      if message.opCode = .actionToServerGoalAccept then
        s.setGoal id { s.goals id with phase := .returned true, handlingGoal := false }
      else
        (s.setGoal id { s.goals id with
          phase := .returned false, handlingGoal := false }).removeHandle id

def goalTimeout (s : State) (id : CallId) : State :=
  ((s.send .actionToClientCancel [] id.gid.bytes).setGoal id { s.goals id with
    phase := .returned false, handlingGoal := false }).removeHandle id

def handleAccepted (s : State) (id : CallId) : State :=
  let failed := s.setGoal id { s.goals id with accepted := some false }
  match s.handles id.gIDString with
  | none => failed.send .actionToClientCancel [] id.gid.bytes
  | some owner =>
      if (s.goals owner).thread = .absent then
        let called := s.setGoal id { s.goals id with accepted := some true }
        called.setGoal owner { called.goals owner with
          handlingWait := true, thread := .running }
      else (failed.send .actionToClientCancel [] owner.gid.bytes).removeHandle owner

end State

/-- The call `executeAccepted` makes for a message. A result that cannot be
decompressed aborts the goal. -/
def pluginCall (message : Transfer) : Option (PluginCall × Bytes) :=
  match PluginCall.ofOpCode? message.opCode, message.data with
  | none, _ => none
  | some .feedback, none => none
  | some _, none => some (.abort, [])
  | some call, some data => some (call, data)

namespace State

/-- One turn of the loop of `executeAccepted`; any call but feedback ends it. -/
def executeAccepted (s : State) (id : CallId) : State :=
  match (s.goals id).waitQueue with
  | [] => s
  | message :: rest =>
      let handle := { s.goals id with waitQueue := rest }
      match pluginCall message with
      | none => s.setGoal id handle
      | some (call, data) =>
          let called := { s with
            calls := Function.update s.calls id (s.calls id ++ [(call, data)]) }
          if call = .feedback then called.setGoal id handle
          else
            (called.setGoal id { handle with
              handlingWait := false, thread := .finished }).removeHandle id

/-- `sendCancelAndWait` looks up the goal. -/
def findCancel (s : State) (call : CallId) : State :=
  match s.handles call.gIDString with
  | none => s.setCancel call (.returned false)
  | some entry => s.setCancel call (.found entry)

/-- What a call does with the entry it refers to. -/
def through (s : State) (call : CallId) (effect : CallId → State) : State :=
  match (s.cancels call).refersTo with
  | none => s
  | some entry =>
      if s.handles call.gIDString = some entry then effect entry
      else s.setCancel call .undefined

def startCancel (s : State) (call : CallId) : State :=
  s.through call fun entry =>
    (s.setGoal entry { s.goals entry with
      cancelResponse := none, handlingCancel := true }).setCancel call (.armed entry)

def sendCancel (s : State) (call : CallId) : State :=
  s.through call fun entry =>
    (s.send .actionToClientCancel [] entry.gid.bytes).setCancel call (.waiting entry)

end State

/-- The answer to a cancel of which the handle holds the response, if any. -/
def Handle.cancelVerdict (handle : Handle) : Bool :=
  handle.cancelResponse.any fun message => message.opCode == .actionToServerCancelAccept

namespace State

/-- The call has been woken by a response or after ten seconds. -/
def wakeCancel (s : State) (call : CallId) : State :=
  s.through call fun entry =>
    (s.setGoal entry { s.goals entry with
      handlingCancel := false, cancelMutex := some call }).setCancel call
        (.decided entry (s.goals entry).cancelVerdict)

def closeCancel (s : State) (call : CallId) : State :=
  s.through call fun entry =>
    let accept := (s.cancels call).verdict? = some true
    let closed := s.setCancel call (.closing entry accept)
    if accept ∧ (s.goals entry).handlingWait = false then closed.removeHandle entry else closed

/-- The lock on the handle's `cancelMutex` ends with the call. -/
def returnCancel (s : State) (call : CallId) : State :=
  s.through call fun entry =>
    (s.setGoal entry { s.goals entry with cancelMutex := none }).setCancel call
      (.returned ((s.cancels call).verdict? = some true))

def handle (s : State) (message : Transfer) : State :=
  match s.handles (ServiceActionHandle.gIDString message.gID) with
  | none => s
  | some id =>
      if message.opCode = .actionToServerGoalReject ∨
          message.opCode = .actionToServerGoalAccept then
        if (s.goals id).handlingGoal then
          s.setGoal id { s.goals id with goalResponse := some message }
        else s
      else if message.opCode = .actionToServerCancelAccept ∨
          message.opCode = .actionToServerCancelReject then
        if (s.goals id).handlingCancel then
          s.setGoal id { s.goals id with cancelResponse := some message }
        else s
      else s.setGoal id { s.goals id with waitQueue := (s.goals id).waitQueue ++ [message] }

/-- `handle` waits for the `cancelMutex` of the handle it has found. -/
def blocked (s : State) (message : Transfer) : Bool :=
  (message.opCode == .actionToServerCancelAccept ||
    message.opCode == .actionToServerCancelReject) &&
  (s.handles (ServiceActionHandle.gIDString message.gID)).any fun id =>
    (s.goals id).cancelMutex.isSome

/-- `executeRemove` takes the next handle. -/
def takeRemove (s : State) : State :=
  match s.toRemove with
  | [] => s
  | id :: rest => { s with toRemove := rest, removing := some id }

/-- `executeRemove` erases what the map holds under the handle's key. -/
def eraseHandle (s : State) : State :=
  match s.removing with
  | none => s
  | some id => { s with removing := none, handles := s.handles.erase id.gIDString }

end State

/-- A handle is erased when its thread has been joined. -/
def enabled (s : State) : Label → Bool
  | .insertHandle id => (s.goals id).phase == .idle
  | .startHandling id => (s.goals id).phase == .inserted
  | .sendGoal id _ => (s.goals id).phase == .armed
  | .receiveGoalResponse id =>
      (s.goals id).phase == .waiting && (s.goals id).goalResponse.isSome
  | .goalTimeout id => (s.goals id).phase == .waiting && (s.goals id).goalResponse.isNone
  | .handleAccepted id =>
      (s.goals id).phase == .returned true && (s.goals id).accepted.isNone
  | .executeAccepted id =>
      (s.goals id).thread == .running && !(s.goals id).waitQueue.isEmpty
  | .findCancel call => s.cancels call == .idle
  | .startCancel call => match s.cancels call with | .found _ => true | _ => false
  | .sendCancel call => match s.cancels call with | .armed _ => true | _ => false
  | .wakeCancel call =>
      match s.cancels call with
      | .waiting entry => (s.goals entry).cancelMutex.isNone
      | _ => false
  | .closeCancel call => match s.cancels call with | .decided _ _ => true | _ => false
  | .returnCancel call => match s.cancels call with | .closing _ _ => true | _ => false
  | .handle message => !s.blocked message
  | .takeRemove => s.removing.isNone && !s.toRemove.isEmpty
  | .eraseHandle => s.removing.any fun id => (s.goals id).thread != .running

def next (s : State) : Label → State
  | .insertHandle id => s.insertHandle id
  | .startHandling id =>
      s.setGoal id { s.goals id with phase := .armed, goalResponse := none, handlingGoal := true }
  | .sendGoal id data =>
      (s.send .actionToClientGoal data id.gid.bytes).setGoal id
        { s.goals id with phase := .waiting }
  | .receiveGoalResponse id => s.receiveGoalResponse id
  | .goalTimeout id => s.goalTimeout id
  | .handleAccepted id => s.handleAccepted id
  | .executeAccepted id => s.executeAccepted id
  | .findCancel call => s.findCancel call
  | .startCancel call => s.startCancel call
  | .sendCancel call => s.sendCancel call
  | .wakeCancel call => s.wakeCancel call
  | .closeCancel call => s.closeCancel call
  | .returnCancel call => s.returnCancel call
  | .handle message => s.handle message
  | .takeRemove => s.takeRemove
  | .eraseHandle => s.eraseHandle

/-- The runs that go on from a state. -/
def serverFrom (s : State) : Machine State Label where
  start := s
  enabled := enabled
  next := next

def server : Machine State Label := serverFrom .start

variable {s t : State} {label : Label} {call other id entry : CallId} {accept : Bool}

/-- The handles queued for removal or taken by the removal thread. -/
def State.pending (s : State) : List CallId := s.removing.toList ++ s.toRemove

/-- The handle a step queues for removal. -/
def queued (s : State) : Label → Option CallId
  | .receiveGoalResponse id =>
      if (s.goals id).goalResponse.any fun message =>
        message.opCode != .actionToServerGoalAccept then some id else none
  | .goalTimeout id => some id
  | .handleAccepted id =>
      (s.handles id.gIDString).filter fun owner => (s.goals owner).thread != .absent
  | .executeAccepted id =>
      if ((s.goals id).waitQueue.head?.bind pluginCall).any fun made =>
        made.1 != .feedback then some id else none
  | .closeCancel call =>
      if (s.cancels call).verdict? = some true then
        (s.cancels call).refersTo.filter fun entry =>
          s.handles call.gIDString == some entry && !(s.goals entry).handlingWait
      else none
  | _ => none

/-- No handle of a goal is queued for removal while a cancel of the goal refers
to an entry, and no cancel finds an entry while a handle of its goal is queued
or being removed. -/
structure Undisturbed (s : State) (label : Label) : Prop where
  queued : ∀ id, queued s label = some id →
    ∀ call entry, (s.cancels call).refersTo = some entry → call.gid ≠ id.gid
  found : ∀ call, label = .findCancel call → s.handles call.gIDString ≠ none →
    ∀ id ∈ s.pending, id.gid ≠ call.gid

/-- A call refers to an entry that is in the map, and nothing is about to erase
it. -/
structure Referenced (s : State) : Prop where
  keyed : KeyMap.KeyedBy CallId.gIDString s.handles
  stored : ∀ call entry, (s.cancels call).refersTo = some entry →
    s.handles call.gIDString = some entry
  unqueued : ∀ call entry, (s.cancels call).refersTo = some entry →
    ∀ id ∈ s.pending, id.gid ≠ call.gid
  defined : ∀ call, s.cancels call ≠ .undefined

theorem gIDString_inj : id.gIDString = other.gIDString ↔ id.gid = other.gid :=
  GoalUUID.gIDString_inj

theorem Referenced.start : Referenced .start where
  keyed := KeyMap.KeyedBy.empty _
  stored := fun _ _ h => nomatch h
  unqueued := fun _ _ h => nomatch h
  defined := fun _ h => nomatch h

@[simp] theorem setCancel_self (s : State) (call : CallId) (phase : CancelPhase) :
    (s.setCancel call phase).cancels call = phase := by
  simp [State.setCancel]

theorem setCancel_of_ne (s : State) (phase : CancelPhase) (h : other ≠ call) :
    (s.setCancel call phase).cancels other = s.cancels other := by
  simp [State.setCancel, h]

@[simp] theorem removeHandle_cancels (s : State) (id : CallId) :
    (s.removeHandle id).cancels = s.cancels := rfl

@[simp] theorem removeHandle_pending (s : State) (id : CallId) :
    (s.removeHandle id).pending = s.pending ++ [id] := by
  simp [State.pending, State.removeHandle]

theorem Referenced.setGoal (h : Referenced s) (id : CallId) (handle : Handle) :
    Referenced (s.setGoal id handle) :=
  ⟨h.keyed, h.stored, h.unqueued, h.defined⟩

theorem Referenced.send (h : Referenced s) (opCode : ServiceActionOpCode) (data gID : Bytes) :
    Referenced (s.send opCode data gID) :=
  ⟨h.keyed, h.stored, h.unqueued, h.defined⟩

/-- The entry a call goes on with is in the map, and nothing is about to erase
it. -/
theorem Referenced.setCancel (h : Referenced s) {phase : CancelPhase}
    (hentry : ∀ entry, phase.refersTo = some entry →
      s.handles call.gIDString = some entry ∧ ∀ id ∈ s.pending, id.gid ≠ call.gid)
    (hdefined : phase ≠ .undefined) : Referenced (s.setCancel call phase) where
  keyed := h.keyed
  stored := by
    intro other entry hother
    by_cases hsame : other = call
    · subst hsame
      rw [setCancel_self] at hother
      exact (hentry entry hother).1
    · rw [setCancel_of_ne s phase hsame] at hother
      exact h.stored other entry hother
  unqueued := by
    intro other entry hother
    by_cases hsame : other = call
    · subst hsame
      rw [setCancel_self] at hother
      exact (hentry entry hother).2
    · rw [setCancel_of_ne s phase hsame] at hother
      exact h.unqueued other entry hother
  defined := by
    intro other
    by_cases hsame : other = call
    · subst hsame
      rw [setCancel_self]
      exact hdefined
    · rw [setCancel_of_ne s phase hsame]
      exact h.defined other

/-- A call goes on with the entry it has. -/
theorem Referenced.proceed (h : Referenced s) {phase : CancelPhase}
    (hentry : (s.cancels call).refersTo = some entry) (hphase : phase.refersTo = some entry)
    (hdefined : phase ≠ .undefined) : Referenced (s.setCancel call phase) := by
  refine h.setCancel (fun held hheld => ?_) hdefined
  rw [hphase] at hheld
  cases hheld
  exact ⟨h.stored call entry hentry, h.unqueued call entry hentry⟩

theorem Referenced.removeHandle (h : Referenced s)
    (hfree : ∀ call entry, (s.cancels call).refersTo = some entry → call.gid ≠ id.gid) :
    Referenced (s.removeHandle id) where
  keyed := h.keyed
  stored := h.stored
  unqueued := by
    intro call entry hentry other hother
    rw [removeHandle_pending] at hother
    rcases List.mem_append.mp hother with hold | hlast
    · exact h.unqueued call entry hentry other hold
    · rw [List.mem_singleton.mp hlast]
      exact Ne.symm (hfree call entry hentry)
  defined := h.defined

/-- A key that has an entry keeps it. -/
theorem Referenced.insertHandle (h : Referenced s) (id : CallId) :
    Referenced (s.insertHandle id) where
  keyed := h.keyed.insert id
  stored := by
    intro call entry hentry
    have hold : s.handles call.gIDString = some entry := h.stored call entry hentry
    by_cases hkey : call.gIDString = id.gIDString
    · rw [hkey] at hold ⊢
      exact (congrFun (KeyMap.insert_of_some hold id) _).trans hold
    · exact (KeyMap.insert_of_ne s.handles hkey).trans hold
  unqueued := h.unqueued
  defined := h.defined

theorem Referenced.receiveGoalResponse (h : Referenced s)
    (hquiet : Undisturbed s (.receiveGoalResponse id)) :
    Referenced (s.receiveGoalResponse id) := by
  unfold State.receiveGoalResponse
  split
  · exact h
  · rename_i message hresponse
    split
    · exact h.setGoal _ _
    · rename_i hreject
      exact (h.setGoal _ _).removeHandle
        (hquiet.queued id (by simp [queued, hresponse, hreject]))

theorem Referenced.handleAccepted (h : Referenced s)
    (hquiet : Undisturbed s (.handleAccepted id)) : Referenced (s.handleAccepted id) := by
  unfold State.handleAccepted
  simp only
  split
  · exact (h.setGoal _ _).send _ _ _
  · rename_i owner howner
    split
    · exact (h.setGoal _ _).setGoal _ _
    · rename_i hthread
      exact ((h.setGoal _ _).send _ _ _).removeHandle
        (hquiet.queued owner (by simp [queued, howner, hthread]))

theorem Referenced.executeAccepted (h : Referenced s)
    (hquiet : Undisturbed s (.executeAccepted id)) : Referenced (s.executeAccepted id) := by
  unfold State.executeAccepted
  split
  · exact h
  · rename_i message rest hqueue
    simp only
    split
    · exact h.setGoal _ _
    · rename_i made data hmade
      have hcalled : Referenced { s with
          calls := Function.update s.calls id (s.calls id ++ [(made, data)]) } :=
        ⟨h.keyed, h.stored, h.unqueued, h.defined⟩
      split
      · exact hcalled.setGoal _ _
      · rename_i hfeedback
        exact (hcalled.setGoal _ _).removeHandle
          (hquiet.queued id (by simp [queued, hqueue, hmade, hfeedback]))

/-- The entry a call finds has its goal's key, and nothing of the goal is being
removed. -/
theorem Referenced.findCancel (h : Referenced s) (hquiet : Undisturbed s (.findCancel call)) :
    Referenced (s.findCancel call) := by
  unfold State.findCancel
  cases hfound : s.handles call.gIDString with
  | none => exact h.setCancel (fun _ hentry => nomatch hentry) nofun
  | some entry =>
      refine h.setCancel (fun held hheld => ?_) nofun
      cases hheld
      exact ⟨hfound, hquiet.found call rfl (by simp [hfound])⟩

/-- A call uses its reference while the entry is there. -/
theorem Referenced.through (h : Referenced s) {effect : CallId → State}
    (heffect : ∀ entry, (s.cancels call).refersTo = some entry → Referenced (effect entry)) :
    Referenced (s.through call effect) := by
  unfold State.through
  cases hentry : (s.cancels call).refersTo with
  | none => exact h
  | some entry =>
      simp only
      rw [if_pos (h.stored call entry hentry)]
      exact heffect entry hentry

theorem Referenced.closeCancel (h : Referenced s) (hquiet : Undisturbed s (.closeCancel call)) :
    Referenced (s.closeCancel call) := by
  refine h.through fun entry hentry => ?_
  have hclosed (accept : Bool) : Referenced (s.setCancel call (.closing entry accept)) :=
    h.proceed hentry rfl nofun
  simp only
  split
  · rename_i hremove
    refine (hclosed _).removeHandle fun other held hother => ?_
    have hqueued : queued s (.closeCancel call) = some entry := by
      simp [queued, hremove, hentry, h.stored call entry hentry]
    by_cases hsame : other = call
    · subst hsame
      exact hquiet.queued entry hqueued other entry hentry
    · rw [setCancel_of_ne s _ hsame] at hother
      exact hquiet.queued entry hqueued other held hother
  · exact hclosed _

theorem Referenced.handle (h : Referenced s) (message : Transfer) :
    Referenced (s.handle message) := by
  unfold State.handle
  split
  · exact h
  · split
    · split
      · exact h.setGoal _ _
      · exact h
    · split
      · split
        · exact h.setGoal _ _
        · exact h
      · exact h.setGoal _ _

theorem takeRemove_pending (hidle : s.removing = none) : s.takeRemove.pending = s.pending := by
  unfold State.takeRemove
  cases hqueue : s.toRemove with
  | nil => rfl
  | cons id rest => simp [State.pending, hidle, hqueue]

theorem Referenced.takeRemove (h : Referenced s) (hidle : s.removing = none) :
    Referenced s.takeRemove := by
  have hpending := takeRemove_pending hidle
  have hsame : s.takeRemove.handles = s.handles ∧ s.takeRemove.cancels = s.cancels := by
    unfold State.takeRemove
    split <;> exact ⟨rfl, rfl⟩
  refine ⟨?_, ?_, ?_, ?_⟩
  · rw [hsame.1]
    exact h.keyed
  · rw [hsame.1, hsame.2]
    exact h.stored
  · rw [hsame.2, hpending]
    exact h.unqueued
  · rw [hsame.2]
    exact h.defined

/-- What is erased has another key than any entry a call refers to. -/
theorem Referenced.eraseHandle (h : Referenced s) : Referenced s.eraseHandle := by
  unfold State.eraseHandle
  cases hremoving : s.removing with
  | none => exact h
  | some id =>
      have hpending : s.pending = id :: s.toRemove := by simp [State.pending, hremoving]
      refine ⟨h.keyed.erase _, ?_, ?_, h.defined⟩
      · intro call entry hentry
        have hgoal : id.gid ≠ call.gid :=
          h.unqueued call entry hentry id (by simp [hpending])
        have hkey : call.gIDString ≠ id.gIDString := fun hsame =>
          hgoal (gIDString_inj.mp hsame).symm
        exact (KeyMap.erase_of_ne s.handles hkey).trans (h.stored call entry hentry)
      · intro call entry hentry other hother
        exact h.unqueued call entry hentry other (by
          rw [hpending]
          exact List.mem_cons_of_mem _ hother)

/-- What one step keeps. -/
theorem Referenced.next (h : Referenced s) (henabled : enabled s label = true)
    (hquiet : Undisturbed s label) : Referenced (next s label) := by
  cases label with
  | insertHandle id => exact h.insertHandle id
  | startHandling id => exact h.setGoal _ _
  | sendGoal id data => exact (h.send _ _ _).setGoal _ _
  | receiveGoalResponse id => exact h.receiveGoalResponse hquiet
  | goalTimeout id => exact ((h.send _ _ _).setGoal _ _).removeHandle (hquiet.queued id rfl)
  | handleAccepted id => exact h.handleAccepted hquiet
  | executeAccepted id => exact h.executeAccepted hquiet
  | findCancel call => exact h.findCancel hquiet
  | startCancel call =>
      exact h.through fun entry hentry =>
        (h.setGoal _ _).proceed hentry rfl nofun
  | sendCancel call =>
      exact h.through fun entry hentry =>
        (h.send _ _ _).proceed hentry rfl nofun
  | wakeCancel call =>
      exact h.through fun entry hentry =>
        (h.setGoal _ _).proceed hentry rfl nofun
  | closeCancel call => exact h.closeCancel hquiet
  | returnCancel call =>
      exact h.through fun entry hentry =>
        (h.setGoal _ _).setCancel (fun _ hheld => nomatch hheld) nofun
  | handle message => exact h.handle message
  | takeRemove =>
      simp only [enabled, Bool.and_eq_true, Option.isNone_iff_eq_none] at henabled
      exact h.takeRemove henabled.1
  | eraseHandle => exact h.eraseHandle

theorem referenced_of_reachable (h : server.ReachableWith Undisturbed s) : Referenced s :=
  h.invariant Referenced .start fun _ _ hheld henabled hquiet => hheld.next henabled hquiet

/-- The call of `sendCancelAndWait` a label is a step of. -/
def Label.cancel? : Label → Option CallId
  | .findCancel call | .startCancel call | .sendCancel call | .wakeCancel call
  | .closeCancel call | .returnCancel call => some call
  | _ => none

theorem through_cancels_of_ne {effect : CallId → State} (hne : other ≠ call)
    (heffect : ∀ entry, (effect entry).cancels other = s.cancels other) :
    (s.through call effect).cancels other = s.cancels other := by
  unfold State.through
  split
  · rfl
  · split
    · exact heffect _
    · exact setCancel_of_ne s _ hne

theorem closeCancel_cancels_of_ne (hne : other ≠ call) :
    (s.closeCancel call).cancels other = s.cancels other := by
  refine through_cancels_of_ne hne fun entry => ?_
  simp only
  split
  · exact setCancel_of_ne s _ hne
  · exact setCancel_of_ne s _ hne

/-- Only its own steps change a call. -/
theorem next_cancels (hcall : label.cancel? ≠ some call) :
    (next s label).cancels call = s.cancels call := by
  have hne {own : CallId} (hown : label.cancel? = some own) : call ≠ own := fun hsame =>
    hcall (hsame ▸ hown)
  cases label with
  | insertHandle id | startHandling id | sendGoal id data | goalTimeout id => rfl
  | receiveGoalResponse id =>
      simp only [next, State.receiveGoalResponse]
      split
      · rfl
      · split <;> rfl
  | handleAccepted id =>
      simp only [next, State.handleAccepted]
      split
      · rfl
      · split <;> rfl
  | executeAccepted id =>
      simp only [next, State.executeAccepted]
      split
      · rfl
      · split
        · rfl
        · split <;> rfl
  | findCancel own =>
      simp only [next, State.findCancel]
      split <;> exact setCancel_of_ne s _ (hne rfl)
  | startCancel own | sendCancel own | wakeCancel own | returnCancel own =>
      exact through_cancels_of_ne (hne rfl) fun entry => setCancel_of_ne _ _ (hne rfl)
  | closeCancel own => exact closeCancel_cancels_of_ne (hne rfl)
  | handle message =>
      simp only [next, State.handle]
      split
      · rfl
      · split
        · split <;> rfl
        · split
          · split <;> rfl
          · rfl
  | takeRemove =>
      simp only [next, State.takeRemove]
      split <;> rfl
  | eraseHandle =>
      simp only [next, State.eraseHandle]
      split <;> rfl

theorem through_eq {effect : CallId → State} (hentry : (s.cancels call).refersTo = some entry)
    (hstored : s.handles call.gIDString = some entry) : s.through call effect = effect entry := by
  simp [State.through, hentry, hstored]

/-- What its own step makes of a call that has its entry. -/
inductive CancelStep (s : State) (call : CallId) : CancelPhase → CancelPhase → Prop where
  | unknown : s.handles call.gIDString = none → CancelStep s call .idle (.returned false)
  | find {entry : CallId} : s.handles call.gIDString = some entry →
      CancelStep s call .idle (.found entry)
  | start {entry : CallId} : CancelStep s call (.found entry) (.armed entry)
  | send {entry : CallId} : CancelStep s call (.armed entry) (.waiting entry)
  | wake {entry : CallId} :
      CancelStep s call (.waiting entry) (.decided entry (s.goals entry).cancelVerdict)
  | close {entry : CallId} {accept : Bool} :
      CancelStep s call (.decided entry accept) (.closing entry accept)
  | finish {entry : CallId} {accept : Bool} :
      CancelStep s call (.closing entry accept) (.returned accept)

theorem CancelStep.findCancel (hidle : s.cancels call = .idle) :
    CancelStep s call (s.cancels call) ((s.findCancel call).cancels call) := by
  unfold State.findCancel
  cases hfound : s.handles call.gIDString with
  | none =>
      rw [hidle, setCancel_self]
      exact .unknown hfound
  | some entry =>
      rw [hidle, setCancel_self]
      exact .find hfound

theorem CancelStep.closeCancel (hphase : s.cancels call = .decided entry accept)
    (hstored : s.handles call.gIDString = some entry) :
    CancelStep s call (s.cancels call) ((s.closeCancel call).cancels call) := by
  have hentry : (s.cancels call).refersTo = some entry := by rw [hphase]; rfl
  rw [State.closeCancel, through_eq hentry hstored, hphase]
  simp only [CancelPhase.verdict?, Option.some.injEq, Bool.decide_eq_true]
  split
  · rw [removeHandle_cancels, setCancel_self]
    exact .close
  · rw [setCancel_self]
    exact .close

theorem Referenced.cancelStep (h : Referenced s) (henabled : enabled s label = true)
    (hown : label.cancel? = some call) :
    CancelStep s call (s.cancels call) ((CancelEntry.next s label).cancels call) := by
  have hstored {entry : CallId} {phase : CancelPhase} (hphase : s.cancels call = phase)
      (hentry : phase.refersTo = some entry) : s.handles call.gIDString = some entry :=
    h.stored call entry (hphase ▸ hentry)
  cases label <;> simp only [Label.cancel?, Option.some.injEq, reduceCtorEq] at hown
  all_goals
    subst hown
    simp only [enabled] at henabled
  case findCancel own => exact .findCancel (beq_iff_eq.mp henabled)
  case startCancel own =>
    split at henabled
    · rename_i entry hphase
      rw [CancelEntry.next, State.startCancel, through_eq (by rw [hphase]; rfl)
        (hstored hphase rfl), setCancel_self, hphase]
      exact .start
    · cases henabled
  case sendCancel own =>
    split at henabled
    · rename_i entry hphase
      rw [CancelEntry.next, State.sendCancel, through_eq (by rw [hphase]; rfl)
        (hstored hphase rfl), setCancel_self, hphase]
      exact .send
    · cases henabled
  case wakeCancel own =>
    split at henabled
    · rename_i entry hphase
      rw [CancelEntry.next, State.wakeCancel, through_eq (by rw [hphase]; rfl)
        (hstored hphase rfl), setCancel_self, hphase]
      exact .wake
    · cases henabled
  case closeCancel own =>
    split at henabled
    · rename_i entry accept hphase
      exact .closeCancel hphase (hstored hphase rfl)
    · cases henabled
  case returnCancel own =>
    split at henabled
    · rename_i entry accept hphase
      rw [CancelEntry.next, State.returnCancel, through_eq (by rw [hphase]; rfl)
        (hstored hphase rfl), setCancel_self, hphase]
      simp only [CancelPhase.verdict?, Option.some.injEq, Bool.decide_eq_true]
      exact .finish
    · cases henabled

/-- Where the answer of a call comes from: it has been given before, the goal is
unknown, or it is read from the handle of the entry in the map. -/
theorem Referenced.verdict (h : Referenced s) (henabled : enabled s label = true)
    (hverdict : ((CancelEntry.next s label).cancels call).verdict? = some accept) :
    (s.cancels call).verdict? = some accept ∨
      (s.handles call.gIDString = none ∧ accept = false) ∨
      ∃ entry, (s.cancels call).refersTo = some entry ∧ s.handles call.gIDString = some entry ∧
        accept = (s.goals entry).cancelVerdict := by
  by_cases hown : label.cancel? = some call
  · have hstored := h.stored call
    have hstep := h.cancelStep henabled hown
    generalize s.cancels call = before at hstored hstep ⊢
    generalize (CancelEntry.next s label).cancels call = after at hverdict hstep
    cases hstep with
    | unknown hunknown =>
        cases hverdict
        exact .inr (.inl ⟨hunknown, rfl⟩)
    | find | start | send => cases hverdict
    | wake =>
        cases hverdict
        exact .inr (.inr ⟨_, rfl, hstored _ rfl, rfl⟩)
    | close | finish => exact .inl hverdict
  · rw [next_cancels hown] at hverdict
    exact .inl hverdict

/-- The removal thread goes on until it has erased the handle's key. -/
theorem exists_erased {base : State} {queue : List CallId} (hid : id ∈ other :: queue) :
    ∀ {s : State}, (serverFrom base).Reachable s → s.removing = some other →
      s.toRemove = queue → (∀ id ∈ other :: queue, (s.goals id).thread ≠ .running) →
      ∃ t, (serverFrom base).Reachable t ∧ t.cancels = s.cancels ∧
        t.handles id.gIDString = none := by
  induction queue generalizing other with
  | nil =>
      intro s hreach hremoving _ hthread
      rw [List.mem_singleton.mp hid]
      have henabled : (serverFrom base).enabled s .eraseHandle = true := by
        simp [serverFrom, enabled, hremoving, hthread other (by simp)]
      refine ⟨_, hreach.step henabled trivial, ?_⟩
      simp [serverFrom, next, State.eraseHandle, hremoving, KeyMap.erase]
  | cons first rest ih =>
      intro s hreach hremoving hqueue hthread
      have henabled : (serverFrom base).enabled s .eraseHandle = true := by
        simp [serverFrom, enabled, hremoving, hthread other (by simp)]
      have herased := hreach.step henabled trivial
      rcases List.mem_cons.mp hid with hsame | hlater
      · refine ⟨_, herased, ?_⟩
        simp [serverFrom, next, State.eraseHandle, hremoving, KeyMap.erase, hsame]
      · have htake : (serverFrom base).enabled (next s .eraseHandle) .takeRemove = true := by
          simp [serverFrom, enabled, next, State.eraseHandle, hremoving, hqueue]
        obtain ⟨t, ht, hcancels, hgone⟩ := ih hlater (herased.step htake trivial)
          (by simp [serverFrom, next, State.eraseHandle, State.takeRemove, hremoving, hqueue])
          (by simp [serverFrom, next, State.eraseHandle, State.takeRemove, hremoving, hqueue])
          (by
            intro id hmem
            have hgoals : (next (next s .eraseHandle) .takeRemove).goals = s.goals := by
              simp [next, State.eraseHandle, State.takeRemove, hremoving, hqueue]
            exact (congrFun hgoals id).symm ▸ hthread id (List.mem_cons_of_mem _ hmem))
        refine ⟨t, ht, hcancels.trans ?_, hgone⟩
        simp [serverFrom, next, State.eraseHandle, State.takeRemove, hremoving, hqueue]

theorem exists_pending_erased {base : State} (hreach : (serverFrom base).Reachable s)
    (hid : id ∈ s.pending) (hthread : ∀ id ∈ s.pending, (s.goals id).thread ≠ .running) :
    ∃ t, (serverFrom base).Reachable t ∧ t.cancels = s.cancels ∧
      t.handles id.gIDString = none := by
  cases hremoving : s.removing with
  | some other =>
      have hpending : s.pending = other :: s.toRemove := by simp [State.pending, hremoving]
      rw [hpending] at hid hthread
      exact exists_erased hid hreach hremoving rfl hthread
  | none =>
      cases hqueue : s.toRemove with
      | nil => simp [State.pending, hremoving, hqueue] at hid
      | cons other rest =>
          have hpending : s.pending = other :: rest := by
            simp [State.pending, hremoving, hqueue]
          have htake : (serverFrom base).enabled s .takeRemove = true := by
            simp [serverFrom, enabled, hremoving, hqueue]
          have htaken : s.takeRemove = { s with toRemove := rest, removing := some other } := by
            simp [State.takeRemove, hqueue]
          rw [hpending] at hid hthread
          obtain ⟨t, ht, hcancels, hgone⟩ := exists_erased hid (hreach.step htake trivial)
            (congrArg State.removing htaken) (congrArg State.toRemove htaken)
            (fun id hmem => congrFun (congrArg State.goals htaken) id ▸ hthread id hmem)
          have hsame : s.takeRemove.cancels = s.cancels := by rw [htaken]
          exact ⟨t, ht, hcancels.trans hsame, hgone⟩

theorem queued_pending (hqueued : queued s label = some id) : id ∈ (next s label).pending := by
  cases label <;> simp only [queued, reduceCtorEq] at hqueued
  case receiveGoalResponse own =>
    cases hresponse : (s.goals own).goalResponse with
    | none => simp [hresponse] at hqueued
    | some message =>
        simp only [hresponse, Option.any_some, bne_iff_ne, ne_eq, Option.ite_none_right_eq_some,
          Option.some.injEq] at hqueued
        obtain ⟨hreject, rfl⟩ := hqueued
        simp [next, State.receiveGoalResponse, hresponse, hreject]
  case goalTimeout own =>
    cases hqueued
    simp [next, State.goalTimeout]
  case handleAccepted own =>
    obtain ⟨howner, hthread⟩ := Option.filter_eq_some_iff.mp hqueued
    simp only [bne_iff_ne, ne_eq] at hthread
    simp [next, State.handleAccepted, howner, hthread]
  case executeAccepted own =>
    cases hqueue : (s.goals own).waitQueue with
    | nil => simp [hqueue] at hqueued
    | cons message rest =>
        cases hmade : pluginCall message with
        | none => simp [hqueue, hmade] at hqueued
        | some made =>
            simp only [hqueue, List.head?_cons, Option.bind_some, hmade, Option.any_some,
              bne_iff_ne, ne_eq, Option.ite_none_right_eq_some, Option.some.injEq] at hqueued
            obtain ⟨hend, rfl⟩ := hqueued
            simp [next, State.executeAccepted, hqueue, hmade, hend]
  case closeCancel own =>
    simp only [Option.ite_none_right_eq_some] at hqueued
    obtain ⟨hverdict, hentry⟩ := hqueued
    obtain ⟨hentry, hclose⟩ := Option.filter_eq_some_iff.mp hentry
    simp only [Bool.and_eq_true, beq_iff_eq, Bool.not_eq_true'] at hclose
    rw [next, State.closeCancel, through_eq hentry hclose.1]
    simp [hverdict, hclose.2]

/-- A call goes on to refer to its entry when a handle is queued. -/
theorem Referenced.queued_entry (h : Referenced s) (henabled : enabled s label = true)
    (hqueued : queued s label = some id) (hentry : (s.cancels call).refersTo = some entry) :
    ((CancelEntry.next s label).cancels call).refersTo = some entry := by
  by_cases hown : label.cancel? = some call
  · cases label <;> simp only [queued, reduceCtorEq] at hqueued
    case closeCancel own =>
      have hstep := h.cancelStep henabled hown
      cases hown
      simp only [enabled] at henabled
      split at henabled
      · rename_i held accept hphase
        rw [hphase] at hstep hentry
        generalize (CancelEntry.next s (.closeCancel call)).cancels call = after at hstep ⊢
        cases hstep
        exact hentry
      · cases henabled
    all_goals cases hown
  · rw [next_cancels hown]
    exact hentry

theorem Referenced.disturbed (h : Referenced s) (henabled : enabled s label = true)
    (hdisturbed : ¬ Undisturbed s label) :
    ∃ id ∈ (CancelEntry.next s label).pending, ∃ call entry,
      ((CancelEntry.next s label).cancels call).refersTo = some entry ∧ call.gid = id.gid := by
  by_contra hnone
  refine hdisturbed ⟨fun id hqueued call entry hentry hgoal => hnone ?_,
    fun call hlabel hfound id hid hgoal => hnone ?_⟩
  · exact ⟨id, queued_pending hqueued, call, entry,
      h.queued_entry henabled hqueued hentry, hgoal⟩
  · subst hlabel
    obtain ⟨entry, hentry⟩ := Option.ne_none_iff_exists'.mp hfound
    have hstep : CancelEntry.next s (.findCancel call) = s.setCancel call (.found entry) := by
      simp [CancelEntry.next, State.findCancel, hentry]
    rw [hstep]
    exact ⟨id, hid, call, entry, by rw [setCancel_self]; rfl, hgoal.symm⟩

/-- What a call relies on: from finding its entry until it returns the entry is
in `handles`, and what it answers is read from the handle of this entry. -/
structure EntryKept (s : State) (call : CallId) : Prop where
  stored : ∀ entry, (s.cancels call).refersTo = some entry →
    s.handles call.gIDString = some entry ∧ entry.gid = call.gid
  defined : s.cancels call ≠ .undefined
  verdict : ∀ label accept, enabled s label = true →
    ((next s label).cancels call).verdict? = some accept →
      (s.cancels call).verdict? = some accept ∨
      (s.handles call.gIDString = none ∧ accept = false) ∨
      ∃ entry, (s.cancels call).refersTo = some entry ∧ s.handles call.gIDString = some entry ∧
        accept = (s.goals entry).cancelVerdict

/-- While no handle of a goal is queued for removal during a cancel of the goal,
every cancel keeps its entry. After a step that queues one, or that finds an
entry while one is queued, the removal thread erases the entry of a call that
has not returned, unless it waits for a thread. -/
theorem sendCancelAndWait_kept (h : server.ReachableWith Undisturbed s) :
    (∀ call, EntryKept s call) ∧
    ∀ label, enabled s label = true → ¬ Undisturbed s label →
      (∀ id ∈ (next s label).pending, ((next s label).goals id).thread ≠ .running) →
      ∃ t, (serverFrom (next s label)).Reachable t ∧ ∃ call entry,
        (t.cancels call).refersTo = some entry ∧ t.handles call.gIDString = none := by
  have hreferenced := referenced_of_reachable h
  refine ⟨fun call => ⟨fun entry hentry => ?_, hreferenced.defined call,
    fun label accept henabled hverdict => hreferenced.verdict henabled hverdict⟩, ?_⟩
  · have hstored := hreferenced.stored call entry hentry
    exact ⟨hstored, gIDString_inj.mp (hreferenced.keyed _ _ hstored)⟩
  · intro label henabled hdisturbed hthread
    obtain ⟨id, hid, call, entry, hentry, hgoal⟩ := hreferenced.disturbed henabled hdisturbed
    obtain ⟨t, ht, hcancels, hgone⟩ := exists_pending_erased .start hid hthread
    refine ⟨t, ht, call, entry, ?_, ?_⟩
    · rw [hcancels]
      exact hentry
    · rw [gIDString_inj.mpr hgoal]
      exact hgone

theorem Undisturbed.of_idle (hqueued : CancelEntry.queued s label = none)
    (hpending : s.pending = []) : Undisturbed s label where
  queued := by
    intro id hid
    rw [hqueued] at hid
    cases hid
  found := by
    intro call _ _ id hid
    rw [hpending] at hid
    cases hid

/-- The first call for a goal. -/
def sampleCall : CallId := ⟨⟨List.replicate 16 1, rfl⟩, 0⟩

def sampleMessage (opCode : ServiceActionOpCode) : Transfer :=
  ⟨opCode, sampleCall.gid.bytes, some []⟩

/-- A goal is accepted, and a cancel for it waits for a response. -/
def sampleRun : List Label :=
  [.insertHandle sampleCall, .startHandling sampleCall, .sendGoal sampleCall [],
    .handle (sampleMessage .actionToServerGoalAccept), .receiveGoalResponse sampleCall,
    .handleAccepted sampleCall, .findCancel sampleCall, .startCancel sampleCall,
    .sendCancel sampleCall]

/-- A cancel that is accepted before the result arrives. -/
theorem sendCancelAndWait_kept_accepted :
    ∃ s, server.ReachableWith Undisturbed s ∧ s.cancels sampleCall = .decided sampleCall true ∧
      ∀ call, EntryKept s call := by
  have hrun : ∃ s, server.ReachableWith Undisturbed s ∧
      s.cancels sampleCall = .decided sampleCall true :=
    Machine.ReachableWith.exists_replay
      (fun s label (hidle : queued s label = none ∧ s.pending = []) =>
        Undisturbed.of_idle hidle.1 hidle.2)
      (fun s : State => s.cancels sampleCall = .decided sampleCall true) .start
      (sampleRun ++ [.handle (sampleMessage .actionToServerCancelAccept),
        .wakeCancel sampleCall])
      (by decide)
  obtain ⟨s, hreach, hphase⟩ := hrun
  exact ⟨s, hreach, hphase, (sendCancelAndWait_kept hreach).1⟩

/-- The response has arrived, and before the call is woken the result does:
the entry is erased, and the call reads its response through the reference. -/
theorem sendCancelAndWait_erased :
    ∃ s, server.Reachable s ∧ s.cancels sampleCall = .waiting sampleCall ∧
      (s.goals sampleCall).cancelVerdict = true ∧ s.handles sampleCall.gIDString = none ∧
      enabled s (.wakeCancel sampleCall) = true ∧
      (next s (.wakeCancel sampleCall)).cancels sampleCall = .undefined :=
  Machine.exists_reachable _
    (sampleRun ++ [.handle (sampleMessage .actionToServerCancelAccept),
      .handle (sampleMessage .actionToServerResultCanceled), .executeAccepted sampleCall,
      .takeRemove, .eraseHandle])
    (by decide)

end CancelEntry

end Ros2Connect
