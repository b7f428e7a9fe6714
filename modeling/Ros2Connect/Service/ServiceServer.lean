import Ros2Connect.Service.ServicePair

/-!
A `ServiceServer` that is not stopping, with any messages from the other node.
A step is a part of `sendAndWait` for one request, `handle` of a message, which
may arrive at any time, or a part of the removal thread. A handle is named by
the request it was created for; the map, as in the source, knows only the gid.
-/

namespace Ros2Connect

open Lib

namespace ServiceServer

/-- What the plugin passes to `sendAndWait`. -/
structure Config where
  codecs : Codecs
  expectedSize : RequestId → Nat
  dynamicSize : RequestId → Bool

/-- How far the callback of a request has come. -/
inductive Phase where
  | idle
  | inserted
  | armed
  | waiting
  | returned
  | closed
  deriving Repr, DecidableEq

structure Call where
  phase : Phase
  handlingGoal : Bool
  goalResponse : Option ServiceActionMessage
  deriving Repr, DecidableEq

structure State where
  calls : RequestId → Call
  handles : KeyMap Bytes RequestId
  toRemove : List RequestId
  /-- The handle the removal thread has taken. -/
  removing : Option RequestId
  /-- What was passed to `send`: op-code, data and gid. -/
  sent : List (ServiceActionOpCode × Bytes × Bytes)

inductive Label where
  | insertHandle (request : RequestId)
  | startHandling (request : RequestId)
  | sendRequest (request : RequestId) (data : Bytes)
  | receiveResponse (request : RequestId)
  | timeout (request : RequestId)
  | done (request : RequestId)
  | handle (message : ServiceActionMessage)
  | takeRemove
  | eraseHandle
  deriving Repr, DecidableEq

namespace State

def start : State where
  calls := fun _ => ⟨.idle, false, none⟩
  handles := KeyMap.empty
  toRemove := []
  removing := none
  sent := []

def setCall (s : State) (request : RequestId) (call : Call) : State :=
  { s with calls := Function.update s.calls request call }

def insertHandle (s : State) (request : RequestId) : State :=
  { s.setCall request { s.calls request with phase := .inserted } with
    handles := s.handles.insert request.gIDString request }

def startHandling (s : State) (request : RequestId) : State :=
  s.setCall request ⟨.armed, true, none⟩

def sendRequest (s : State) (request : RequestId) (data : Bytes) : State :=
  { s.setCall request { s.calls request with phase := .waiting } with
    sent := s.sent ++ [(.serviceToClient, data, request.gID)] }

/-- The call ends, and its handle is queued for removal. -/
def removeHandle (s : State) (request : RequestId) : State :=
  { s.setCall request { s.calls request with phase := .closed, handlingGoal := false } with
    toRemove := s.toRemove ++ [request] }

/-- The message whose `decompress` has succeeded. -/
def decompressed (config : Config) (message : ServiceActionMessage) :
    Option ServiceActionMessage :=
  if MessageBase.isCompressed message then
    match MessageBase.decompress config.codecs message with
    | .ok (true, stored) => some stored
    | .ok (false, _) | .error _ => none
  else some message

/-- `sendAndWait` has been woken by a response. -/
def receiveResponse (config : Config) (s : State) (request : RequestId) : State :=
  match (s.calls request).goalResponse with
  | none => s
  | some message =>
      match decompressed config message with
      | none => s.removeHandle request
      | some response =>
          if config.dynamicSize request ||
              response.getData.length == config.expectedSize request then
            s.setCall request ⟨.returned, false, some response⟩
          else
            (s.setCall request { s.calls request with
              goalResponse := some response }).removeHandle request

/-- `sendAndWait` has waited for `maxExecTime` seconds. -/
def timeout (s : State) (request : RequestId) : State :=
  { s.removeHandle request with
    sent := s.sent ++ [(.serviceToClientCancel, [], request.gID)] }

/-- The request in whose handle `handle` stores a message. -/
def receiver (s : State) (message : ServiceActionMessage) : Option RequestId :=
  if message.isServiceActionOpCode .serviceToServer then
    (s.handles message.getGIDString).filter fun request => (s.calls request).handlingGoal
  else none

def handle (s : State) (message : ServiceActionMessage) : State :=
  match s.receiver message with
  | none => s
  | some request =>
      s.setCall request { s.calls request with goalResponse := some message }

/-- `executeRemove` takes the next handle. -/
def takeRemove (s : State) : State :=
  match s.toRemove with
  | [] => s
  | request :: rest => { s with toRemove := rest, removing := some request }

/-- `executeRemove` erases what the map holds under the handle's key. -/
def eraseHandle (s : State) : State :=
  match s.removing with
  | none => s
  | some request =>
      { s with removing := none, handles := s.handles.erase request.gIDString }

end State

/-- Handles are woken by a response that is there, or after the longest time. -/
def enabled (s : State) : Label → Bool
  | .insertHandle request => (s.calls request).phase == .idle
  | .startHandling request => (s.calls request).phase == .inserted
  | .sendRequest request _ => (s.calls request).phase == .armed
  | .receiveResponse request =>
      (s.calls request).phase == .waiting && (s.calls request).goalResponse.isSome
  | .timeout request =>
      (s.calls request).phase == .waiting && (s.calls request).goalResponse.isNone
  | .done request => (s.calls request).phase == .returned
  | .handle _ => true
  | .takeRemove => s.removing.isNone && !s.toRemove.isEmpty
  | .eraseHandle => s.removing.isSome

def next (config : Config) (s : State) : Label → State
  | .insertHandle request => s.insertHandle request
  | .startHandling request => s.startHandling request
  | .sendRequest request data => s.sendRequest request data
  | .receiveResponse request => s.receiveResponse config request
  | .timeout request => s.timeout request
  | .done request => s.removeHandle request
  | .handle message => s.handle message
  | .takeRemove => s.takeRemove
  | .eraseHandle => s.eraseHandle

/-- The runs that go on from a state. -/
def serverFrom (config : Config) (s : State) : Machine State Label where
  start := s
  enabled := enabled
  next := next config

def server (config : Config) : Machine State Label := serverFrom config .start

variable {config : Config} {s t : State} {label : Label} {request other : RequestId}

/-- The handle that `ServiceServer::handle` of the pair finds is the same. -/
theorem serverHandle_receiver {pair : Service.State} {message : ServiceActionMessage}
    {arriving : Service.Message} {rest : List Service.Message}
    (hhandles : s.handles = pair.serverHandles)
    (hgoal : ∀ request, (s.calls request).handlingGoal = (pair.calls request).handlingGoal)
    (hlink : pair.toServer = arriving :: rest)
    (hopCode : arriving.opCode = message.serviceActionOpCode)
    (hgid : arriving.gID = message.getGID) :
    Service.serverHandle pair =
      match s.receiver message with
      | none => { pair with toServer := rest }
      | some request =>
          { pair with toServer := rest }.setCall request
            { pair.calls request with goalResponse := some arriving } := by
  simp only [Service.serverHandle, hlink, hopCode, State.receiver, hgid, hhandles,
    ServiceActionHandle.getGIDString_eq, ServiceActionMessage.isServiceActionOpCode]
  by_cases hresponse : message.serviceActionOpCode = .serviceToServer
  · simp only [hresponse, beq_self_eq_true, if_true, ne_eq, not_true, if_false]
    cases hfound : pair.serverHandles (ServiceActionHandle.gIDString message.getGID) with
    | none => rfl
    | some request =>
        cases hhandling : (pair.calls request).handlingGoal <;>
          simp [Option.filter, hgoal, hhandling]
  · simp [hresponse]

/-- The map holds nothing under the key of a handle that is inserted. -/
def FreshKey (s : State) : Label → Prop
  | .insertHandle request => s.handles request.gIDString = none
  | _ => True

instance (s : State) : DecidablePred (FreshKey s)
  | .insertHandle request => inferInstanceAs (Decidable (s.handles request.gIDString = none))
  | .startHandling _ | .sendRequest _ _ | .receiveResponse _ | .timeout _ | .done _ | .handle _
  | .takeRemove | .eraseHandle => isTrue trivial

/-- The handle is to be found in the map. -/
def Phase.open : Phase → Bool
  | .inserted | .armed | .waiting | .returned => true
  | .idle | .closed => false

/-- The handles queued for removal or taken by the removal thread. -/
def State.pending (s : State) : List RequestId := s.removing.toList ++ s.toRemove

/-- Every handle sits in the map until its own removal. -/
structure Held (s : State) : Prop where
  stored : ∀ request, (s.calls request).phase.open = true →
    s.handles request.gIDString = some request
  pending : ∀ request ∈ s.pending,
    s.handles request.gIDString = some request ∧ (s.calls request).phase = .closed
  distinct : s.pending.Nodup
  known : ∀ key request, s.handles key = some request → (s.calls request).phase ≠ .idle
  handling : ∀ request, (s.calls request).phase = .armed ∨ (s.calls request).phase = .waiting →
    (s.calls request).handlingGoal = true

theorem Held.start : Held .start where
  stored := fun _ h => nomatch h
  pending := fun _ h => nomatch h
  distinct := List.nodup_nil
  known := fun _ _ h => nomatch h
  handling := by
    intro _ h
    rcases h with h | h <;> cases h

@[simp] theorem setCall_self (s : State) (request : RequestId) (call : Call) :
    (s.setCall request call).calls request = call := by
  simp [State.setCall]

theorem setCall_of_ne (s : State) (call : Call) (h : other ≠ request) :
    (s.setCall request call).calls other = s.calls other := by
  simp [State.setCall, h]

/-- A handle that sits in the map goes on. -/
theorem Held.setCall (h : Held s) {call : Call} (hopen : (s.calls request).phase.open = true)
    (hphase : call.phase.open = true)
    (hhandling : call.phase = .armed ∨ call.phase = .waiting → call.handlingGoal = true) :
    Held (s.setCall request call) where
  stored := by
    intro other hother
    by_cases hsame : other = request
    · subst hsame
      exact h.stored other hopen
    · rw [setCall_of_ne s call hsame] at hother
      exact h.stored other hother
  pending := by
    intro other hother
    obtain ⟨hstored, hclosed⟩ := h.pending other hother
    have hne : other ≠ request := by
      rintro rfl
      rw [hclosed] at hopen
      cases hopen
    rw [setCall_of_ne s call hne]
    exact ⟨hstored, hclosed⟩
  distinct := h.distinct
  known := by
    intro key other hkey
    by_cases hsame : other = request
    · subst hsame
      rw [setCall_self]
      intro hidle
      rw [hidle] at hphase
      cases hphase
    · rw [setCall_of_ne s call hsame]
      exact h.known key other hkey
  handling := by
    intro other hother
    by_cases hsame : other = request
    · subst hsame
      rw [setCall_self] at hother ⊢
      exact hhandling hother
    · rw [setCall_of_ne s call hsame] at hother ⊢
      exact h.handling other hother

/-- A step that changes no phase and does not touch the map. -/
theorem Held.ofSame (h : Held s) (hphase : ∀ other, (t.calls other).phase = (s.calls other).phase)
    (hhandling : ∀ other, (t.calls other).handlingGoal = (s.calls other).handlingGoal)
    (hhandles : t.handles = s.handles) (hpending : t.pending = s.pending) : Held t where
  stored := by
    intro other hother
    rw [hphase] at hother
    rw [hhandles]
    exact h.stored other hother
  pending := by
    intro other hother
    rw [hpending] at hother
    rw [hhandles, hphase]
    exact h.pending other hother
  distinct := by
    rw [hpending]
    exact h.distinct
  known := by
    intro key other hkey
    rw [hhandles] at hkey
    rw [hphase]
    exact h.known key other hkey
  handling := by
    intro other hother
    rw [hphase] at hother
    rw [hhandling]
    exact h.handling other hother

theorem Held.insertHandle (h : Held s) (hfresh : s.handles request.gIDString = none) :
    Held (s.insertHandle request) := by
  have hmap : (s.insertHandle request).handles =
      Function.update s.handles request.gIDString (some request) := KeyMap.insert_of_none hfresh _
  have hkept : ∀ {other : RequestId}, s.handles other.gIDString = some other →
      other ≠ request ∧ (s.insertHandle request).handles other.gIDString = some other := by
    intro other hstored
    have hkey : other.gIDString ≠ request.gIDString := by
      intro hsame
      rw [hsame, hfresh] at hstored
      cases hstored
    refine ⟨fun hsame => hkey (congrArg _ hsame), ?_⟩
    rw [hmap, Function.update_of_ne hkey]
    exact hstored
  refine ⟨?_, ?_, h.distinct, ?_, ?_⟩
  · intro other hother
    by_cases hsame : other = request
    · rw [hsame, hmap, Function.update_self]
    · rw [State.insertHandle, setCall_of_ne s _ hsame] at hother
      exact (hkept (h.stored other hother)).2
  · intro other hother
    obtain ⟨hstored, hclosed⟩ := h.pending other hother
    obtain ⟨hne, hnew⟩ := hkept hstored
    refine ⟨hnew, ?_⟩
    rw [State.insertHandle, setCall_of_ne s _ hne]
    exact hclosed
  · intro key other hkey
    by_cases hsame : other = request
    · rw [hsame, State.insertHandle, setCall_self]
      nofun
    · rw [State.insertHandle, setCall_of_ne s _ hsame]
      apply h.known key other
      rcases KeyMap.insert_eq_some hkey with hold | ⟨-, hnew, -⟩
      · exact hold
      · exact absurd hnew hsame
  · intro other hother
    by_cases hsame : other = request
    · rw [hsame, State.insertHandle, setCall_self] at hother
      rcases hother with hother | hother <;> cases hother
    · rw [State.insertHandle, setCall_of_ne s _ hsame] at hother ⊢
      exact h.handling other hother

theorem Held.removeHandle (h : Held s) (hopen : (s.calls request).phase.open = true) :
    Held (s.removeHandle request) := by
  have hstored := h.stored request hopen
  have hnew : request ∉ s.pending := by
    intro hmem
    rw [(h.pending request hmem).2] at hopen
    cases hopen
  have hpending : (s.removeHandle request).pending = s.pending ++ [request] := by
    simp [State.pending, State.removeHandle, State.setCall, List.append_assoc]
  refine ⟨?_, ?_, ?_, ?_, ?_⟩
  · intro other hother
    by_cases hsame : other = request
    · rw [hsame, State.removeHandle, setCall_self] at hother
      cases hother
    · rw [State.removeHandle, setCall_of_ne s _ hsame] at hother
      exact h.stored other hother
  · intro other hother
    rw [hpending] at hother
    by_cases hsame : other = request
    · refine ⟨?_, ?_⟩
      · rw [hsame]
        exact hstored
      · rw [hsame, State.removeHandle, setCall_self]
    · rw [State.removeHandle, setCall_of_ne s _ hsame]
      rcases List.mem_append.mp hother with hold | hlast
      · exact h.pending other hold
      · exact absurd (List.mem_singleton.mp hlast) hsame
  · rw [hpending]
    refine List.nodup_append.mpr ⟨h.distinct, List.nodup_singleton _, ?_⟩
    intro first hfirst second hlast heq
    exact hnew (List.mem_singleton.mp hlast ▸ heq ▸ hfirst)
  · intro key other hkey
    by_cases hsame : other = request
    · rw [hsame, State.removeHandle, setCall_self]
      nofun
    · rw [State.removeHandle, setCall_of_ne s _ hsame]
      exact h.known key other hkey
  · intro other hother
    by_cases hsame : other = request
    · rw [hsame, State.removeHandle, setCall_self] at hother
      rcases hother with hother | hother <;> cases hother
    · rw [State.removeHandle, setCall_of_ne s _ hsame] at hother ⊢
      exact h.handling other hother

theorem Held.receiveResponse (h : Held s) (hwaiting : (s.calls request).phase = .waiting) :
    Held (s.receiveResponse config request) := by
  have hopen : (s.calls request).phase.open = true := by rw [hwaiting]; rfl
  unfold State.receiveResponse
  split
  · exact h
  · split
    · exact h.removeHandle hopen
    · split
      · exact h.setCall hopen rfl (by simp)
      · refine (h.setCall hopen ?_ ?_).removeHandle ?_
        · exact hopen
        · exact h.handling request
        · rw [setCall_self]
          exact hopen

/-- A message changes what a handle holds, and not how far its call has come. -/
theorem handle_calls (s : State) (message : ServiceActionMessage) (other : RequestId) :
    ((s.handle message).calls other).phase = (s.calls other).phase ∧
      ((s.handle message).calls other).handlingGoal = (s.calls other).handlingGoal := by
  unfold State.handle
  split
  · exact ⟨rfl, rfl⟩
  · rename_i request _
    by_cases hsame : other = request
    · rw [hsame, setCall_self]
      exact ⟨rfl, rfl⟩
    · rw [setCall_of_ne s _ hsame]
      exact ⟨rfl, rfl⟩

theorem Held.handle (h : Held s) (message : ServiceActionMessage) :
    Held (s.handle message) := by
  refine h.ofSame (fun other => (handle_calls s message other).1)
    (fun other => (handle_calls s message other).2) ?_ ?_ <;>
  · unfold State.handle
    split <;> rfl

theorem Held.takeRemove (h : Held s) (hidle : s.removing = none) : Held s.takeRemove := by
  unfold State.takeRemove
  cases hqueue : s.toRemove with
  | nil => exact h
  | cons request rest =>
      refine h.ofSame (fun _ => rfl) (fun _ => rfl) rfl ?_
      simp [State.pending, hidle, hqueue]

/-- The removal thread erases the handle it has taken, and no other. -/
theorem Held.eraseHandle (h : Held s) : Held s.eraseHandle := by
  unfold State.eraseHandle
  cases hremoving : s.removing with
  | none => exact h
  | some request =>
      have hpending : s.pending = request :: s.toRemove := by simp [State.pending, hremoving]
      obtain ⟨hstored, hclosed⟩ := h.pending request (by simp [hpending])
      have hdistinct := h.distinct
      rw [hpending, List.nodup_cons] at hdistinct
      have hkept : ∀ {other : RequestId}, s.handles other.gIDString = some other →
          other ≠ request → s.handles.erase request.gIDString other.gIDString = some other := by
        intro other hother hne
        have hkey : other.gIDString ≠ request.gIDString := by
          intro hsame
          rw [hsame, hstored] at hother
          exact hne (Option.some.inj hother).symm
        rw [KeyMap.erase_of_ne _ hkey]
        exact hother
      refine ⟨?_, ?_, hdistinct.2, ?_, h.handling⟩
      · intro other hother
        apply hkept (h.stored other hother)
        rintro rfl
        have hopen : (s.calls other).phase.open = true := hother
        rw [hclosed] at hopen
        cases hopen
      · intro other hother
        obtain ⟨hfound, hdone⟩ := h.pending other (by
          rw [hpending]
          exact List.mem_cons_of_mem _ hother)
        refine ⟨hkept hfound ?_, hdone⟩
        rintro rfl
        exact hdistinct.1 hother
      · intro key other hkey
        exact h.known key other (KeyMap.erase_eq_some hkey).2

/-- What one step keeps. -/
theorem Held.next (h : Held s) (henabled : enabled s label = true) (hfresh : FreshKey s label) :
    Held (next config s label) := by
  cases label with
  | insertHandle request => exact h.insertHandle hfresh
  | startHandling request =>
      have hphase : (s.calls request).phase = .inserted := by simpa [enabled] using henabled
      exact h.setCall (by rw [hphase]; rfl) rfl fun _ => rfl
  | sendRequest request data =>
      have hphase : (s.calls request).phase = .armed := by simpa [enabled] using henabled
      have hcall : Held (s.setCall request { s.calls request with phase := .waiting }) :=
        h.setCall (by rw [hphase]; rfl) rfl fun _ => h.handling request (.inl hphase)
      exact hcall.ofSame (fun _ => rfl) (fun _ => rfl) rfl rfl
  | receiveResponse request =>
      simp only [enabled, Bool.and_eq_true, beq_iff_eq] at henabled
      exact h.receiveResponse henabled.1
  | timeout request =>
      simp only [enabled, Bool.and_eq_true, beq_iff_eq] at henabled
      have hclosed : Held (s.removeHandle request) :=
        h.removeHandle (by rw [henabled.1]; rfl)
      exact hclosed.ofSame (fun _ => rfl) (fun _ => rfl) rfl rfl
  | done request =>
      have hphase : (s.calls request).phase = .returned := by simpa [enabled] using henabled
      exact h.removeHandle (by rw [hphase]; rfl)
  | handle message => exact h.handle message
  | takeRemove =>
      simp only [enabled, Bool.and_eq_true, Option.isNone_iff_eq_none] at henabled
      exact h.takeRemove henabled.1
  | eraseHandle => exact h.eraseHandle

theorem held_of_reachable (h : (server config).ReachableWith FreshKey s) : Held s :=
  h.invariant Held .start (fun _ _ hheld henabled hfresh => hheld.next henabled hfresh)

/-- The map leads to the request's own handle, and a response with its gid is
stored there. -/
structure Reached (s : State) (request : RequestId) : Prop where
  stored : s.handles request.gIDString = some request
  response : ∀ message : ServiceActionMessage,
    message.isServiceActionOpCode .serviceToServer = true →
    message.getGIDString = request.gIDString →
      ((s.handle message).calls request).goalResponse = some message

theorem Held.reached (h : Held s) (hwaiting : (s.calls request).phase = .waiting) :
    Reached s request where
  stored := h.stored request (by rw [hwaiting]; rfl)
  response := by
    intro message hopCode hgid
    have hstored := h.stored request (by rw [hwaiting]; rfl)
    have hhandling := h.handling request (.inr hwaiting)
    have hreceiver : s.receiver message = some request := by
      simp [State.receiver, hopCode, hgid, hstored, Option.filter, hhandling]
    simp [State.handle, hreceiver]

/-- A handle whose insertion found its key taken. -/
structure Dropped (request : RequestId) (s : State) : Prop where
  begun : (s.calls request).phase ≠ .idle
  missing : ∀ key, s.handles key ≠ some request

theorem setCall_begun {call : Call} (h : (s.calls request).phase ≠ .idle)
    (hphase : call.phase ≠ .idle) : ((s.setCall other call).calls request).phase ≠ .idle := by
  by_cases hsame : request = other
  · rw [hsame, setCall_self]
    exact hphase
  · rw [setCall_of_ne s call hsame]
    exact h

theorem receiveResponse_begun (h : (s.calls request).phase ≠ .idle)
    (hwaiting : (s.calls other).phase = .waiting) :
    ((s.receiveResponse config other).calls request).phase ≠ .idle := by
  unfold State.receiveResponse
  split
  · exact h
  · split
    · exact setCall_begun h (by simp)
    · split
      · exact setCall_begun h (by simp)
      · refine setCall_begun (setCall_begun h ?_) (by simp)
        rw [hwaiting]
        simp

/-- A call never starts again. -/
theorem begun_next (h : (s.calls request).phase ≠ .idle) (henabled : enabled s label = true) :
    ((next config s label).calls request).phase ≠ .idle := by
  cases label with
  | insertHandle other => exact setCall_begun h (by simp)
  | startHandling other => exact setCall_begun h (by simp)
  | sendRequest other data => exact setCall_begun h (by simp)
  | receiveResponse other =>
      simp only [enabled, Bool.and_eq_true, beq_iff_eq] at henabled
      exact receiveResponse_begun h henabled.1
  | timeout other => exact setCall_begun h (by simp)
  | done other => exact setCall_begun h (by simp)
  | handle message =>
      rw [next, (handle_calls s message request).1]
      exact h
  | takeRemove =>
      simp only [next, State.takeRemove]
      split <;> exact h
  | eraseHandle =>
      simp only [next, State.eraseHandle]
      split <;> exact h

/-- What the map holds after a step it held before, or is the handle that is
inserted. -/
theorem handles_next {key : Bytes} (h : (next config s label).handles key = some request) :
    s.handles key = some request ∨ label = .insertHandle request := by
  cases label with
  | insertHandle other =>
      rcases KeyMap.insert_eq_some h with hold | ⟨-, hnew, -⟩
      · exact .inl hold
      · exact .inr (by rw [hnew])
  | receiveResponse other =>
      left
      simp only [next, State.receiveResponse] at h
      split at h
      · exact h
      · split at h
        · exact h
        · split at h <;> exact h
  | handle message =>
      left
      simp only [next, State.handle] at h
      split at h <;> exact h
  | takeRemove =>
      left
      simp only [next, State.takeRemove] at h
      split at h <;> exact h
  | eraseHandle =>
      left
      simp only [next, State.eraseHandle] at h
      split at h
      · exact h
      · exact (KeyMap.erase_eq_some h).2
  | startHandling | sendRequest | timeout | done => exact .inl h

theorem Dropped.next (h : Dropped request s) (henabled : enabled s label = true) :
    Dropped request (next config s label) where
  begun := begun_next h.begun henabled
  missing := by
    intro key hkey
    rcases handles_next hkey with hold | rfl
    · exact h.missing key hold
    · exact h.begun (by simpa [enabled] using henabled)

/-- The insertion drops the handle. -/
theorem Held.dropped (h : Held s) (hidle : (s.calls request).phase = .idle)
    (htaken : s.handles request.gIDString ≠ none) : Dropped request (s.insertHandle request) where
  begun := by
    rw [State.insertHandle, setCall_self]
    nofun
  missing := by
    intro key hkey
    rcases KeyMap.insert_eq_some hkey with hold | ⟨-, -, hnone⟩
    · exact h.known key request hold hidle
    · exact htaken hnone

/-- As long as no handle is inserted under a key the map holds already, a request
whose call waits is reached by its responses. A handle that is inserted under
such a key is never reached, and nothing keeps its call from sending. -/
theorem sendAndWait_reached (config : Config) (s : State)
    (h : (server config).ReachableWith FreshKey s) :
    (∀ request, (s.calls request).phase = .waiting → Reached s request) ∧
      ∀ request, (server config).enabled s (.insertHandle request) = true →
        ¬ FreshKey s (.insertHandle request) →
          let later := serverFrom config ((server config).next s (.insertHandle request))
          (∀ t, later.Reachable t → ¬ Reached t request) ∧
            ∃ t, later.Reachable t ∧ (t.calls request).phase = .waiting := by
  have hheld := held_of_reachable h
  refine ⟨fun request hwaiting => hheld.reached hwaiting, ?_⟩
  intro request henabled htaken
  have hidle : (s.calls request).phase = .idle := by
    simpa [server, serverFrom, enabled] using henabled
  refine ⟨fun t ht hreached => ?_, ?_⟩
  · have hdropped : Dropped request t := ht.invariant (Dropped request) (hheld.dropped hidle htaken)
      (fun _ _ hinv hstep _ => hinv.next hstep)
    exact hdropped.missing _ hreached.stored
  · let later := serverFrom config ((server config).next s (.insertHandle request))
    let inserted := s.insertHandle request
    let armed := inserted.startHandling request
    have hstart : later.enabled inserted (.startHandling request) = true := by
      show ((s.insertHandle request).calls request).phase == .inserted
      simp [State.insertHandle]
    have hsend : later.enabled armed (.sendRequest request []) = true := by
      show ((inserted.startHandling request).calls request).phase == .armed
      simp [State.startHandling]
    refine ⟨armed.sendRequest request [], .step (.step .start hstart trivial) hsend trivial, ?_⟩
    simp [State.sendRequest]

/-- Requests of one ROS client. -/
private def clientRequest (sequenceNumber : Int) : RequestId := ⟨[3], sequenceNumber⟩

private def plainServer : Config := ⟨literalCodecs, fun _ => 0, fun _ => true⟩

/-- A second request waits after the handle of the first one was erased. -/
theorem sendAndWait_reached_second : ∃ s : State,
    (s.calls (clientRequest 2)).phase = .waiting ∧ s.sent.length = 3 ∧
      Reached s (clientRequest 2) := by
  have hrun : ∃ s, (server plainServer).ReachableWith FreshKey s ∧
      (s.calls (clientRequest 2)).phase = .waiting ∧ s.sent.length = 3 :=
    Machine.ReachableWith.exists_replay (fun _ _ h => h)
      (fun s : State => (s.calls (clientRequest 2)).phase = .waiting ∧ s.sent.length = 3) .start
      [.insertHandle (clientRequest 1), .startHandling (clientRequest 1),
        .sendRequest (clientRequest 1) [], .timeout (clientRequest 1), .takeRemove, .eraseHandle,
        .insertHandle (clientRequest 2), .startHandling (clientRequest 2),
        .sendRequest (clientRequest 2) []] (by decide)
  obtain ⟨s, hreach, hwaiting, hsent⟩ := hrun
  exact ⟨s, hwaiting, hsent, (sendAndWait_reached plainServer s hreach).1 _ hwaiting⟩

/-- The second request is sent while the handle of the first one is queued for
removal, and no handle is left for its response. -/
theorem sendAndWait_unreached : ∃ s : State, (server plainServer).Reachable s ∧
    (s.calls (clientRequest 2)).phase = .waiting ∧
      s.handles (clientRequest 2).gIDString = none :=
  Machine.exists_reachable
    (fun s : State => (s.calls (clientRequest 2)).phase = .waiting ∧
      s.handles (clientRequest 2).gIDString = none)
    [.insertHandle (clientRequest 1), .startHandling (clientRequest 1),
      .sendRequest (clientRequest 1) [], .timeout (clientRequest 1),
      .insertHandle (clientRequest 2), .startHandling (clientRequest 2),
      .sendRequest (clientRequest 2) [], .takeRemove, .eraseHandle] (by decide)

end ServiceServer

end Ros2Connect
