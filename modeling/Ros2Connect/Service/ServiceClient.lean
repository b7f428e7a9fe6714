import Ros2Connect.Service.ServicePair
import Ros2Connect.Message.StoreWrites

/-!
A `ServiceClient` that is not stopping, with any messages from the other node. A
step is a part of `handle`, of `executeHandle` in the thread of a handle, of the
plugin's callback or of the removal thread. A handle is named by the number of
the SERVICE_TO_CLIENT message it was created for; the map knows only the gid. The
errors are sent with the gid of the message, which `decompress` has moved by the
`memcpy` of the platform.
-/

namespace Ros2Connect

open Lib

namespace ServiceClient

/-- What the platform does and the plugin sets. -/
structure Config where
  memcpy : Memcpy
  codecs : Codecs
  expectedSize : Nat
  dynamicSize : Bool
  error : Bytes

/-- Where `executeHandle` is. -/
inductive Turn where
  | decompress
  | checkSize
  | waitForService
  | asyncSendRequest
  /-- About to respond with the error. -/
  | refuse
  | wait
  | cancel
  | removeHandle
  | returned
  deriving Repr, DecidableEq

/-- The callback of the request sent to the local service, which calls
`sendAndDone`. -/
inductive Callback where
  | unset
  | pending
  | removed
  | sent
  | finished
  deriving Repr, DecidableEq

/-- `executeHandle` with its message and its handle. `moved` tells whether its
message was decompressed, `canceled` whether a cancel was queued before it
returned; no step reads them. -/
structure Execution where
  message : ServiceActionMessage
  moved : Bool
  gID : Bytes
  turn : Turn
  callback : Callback
  done : Bool
  waitQueue : List ServiceActionMessage
  canceled : Bool
  deriving Repr, DecidableEq

/-- A SERVICE_TO_SERVER message and the message it answers. -/
structure Response where
  cause : Nat
  data : Bytes
  gID : Bytes
  deriving Repr, DecidableEq

structure State where
  /-- The gids of the SERVICE_TO_CLIENT messages handled so far. -/
  requests : List Bytes
  executions : Nat → Option Execution
  handles : KeyMap Bytes Nat
  /-- The handle whose thread was started by the call of `handle` that holds the
  lock of the map. -/
  inserting : Option Nat
  toRemove : List Nat
  /-- The handle the removal thread has taken. -/
  removing : Option Nat
  sent : List Response

inductive Label where
  | handle (source : RclMessage)
  | insertHandle
  | decompress (number : Nat)
  | checkSize (number : Nat)
  | waitForService (number : Nat) (alive : Bool)
  | asyncSendRequest (number : Nat) (throws : Bool)
  | refuse (number : Nat)
  | wake (number : Nat)
  | cancel (number : Nat) (callbackRuns : Bool)
  | removeHandle (number : Nat)
  | sendResponse (number : Nat) (data : Bytes)
  | markDone (number : Nat)
  | takeRemove
  | eraseHandle
  deriving DecidableEq

/-- The message whose `decompress` has succeeded. -/
def decompressed (config : Config) (message : ServiceActionMessage) :
    Option ServiceActionMessage :=
  if MessageBase.isCompressed message then
    match message.decompressWith config.memcpy config.codecs with
    | .ok (true, stored) => some stored
    | .ok (false, _) | .error _ => none
  else some message

namespace Execution

def start (message : ServiceActionMessage) : Execution where
  message := message
  moved := false
  gID := message.getGID
  turn := .decompress
  callback := .unset
  done := false
  waitQueue := []
  canceled := false

def decompress (config : Config) (execution : Execution) : Execution :=
  match decompressed config execution.message with
  | none => { execution with turn := .refuse }
  | some message =>
      { execution with
        message := message
        moved := MessageBase.isCompressed execution.message
        turn := .checkSize }

def checkSize (config : Config) (execution : Execution) : Execution :=
  if Service.sizeFits config.expectedSize config.dynamicSize execution.message.getData then
    { execution with turn := .waitForService }
  else { execution with turn := .refuse }

def waitForService (alive : Bool) (execution : Execution) : Execution :=
  { execution with turn := if alive then .asyncSendRequest else .refuse }

/-- The plugin throws, or has its callback called once at a later time. -/
def asyncSendRequest (throws : Bool) (execution : Execution) : Execution :=
  if throws then { execution with turn := .refuse }
  else { execution with callback := .pending, turn := .wait }

def wake (execution : Execution) : Execution :=
  { execution with turn := if execution.done then .removeHandle else .cancel }

/-- The plugin drops the callback unless an executor runs it already. -/
def cancel (callbackRuns : Bool) (execution : Execution) : Execution :=
  { execution with
    callback :=
      if execution.callback = .pending ∧ callbackRuns = false then .removed
      else execution.callback
    done := true
    turn := .removeHandle }

/-- A cancel is pushed to the queue of the handle. -/
def push (message : ServiceActionMessage) (execution : Execution) : Execution :=
  { execution with
    waitQueue := execution.waitQueue ++ [message]
    canceled := execution.canceled || execution.turn != .returned }

end Execution

namespace State

def start : State where
  requests := []
  executions := fun _ => none
  handles := KeyMap.empty
  inserting := none
  toRemove := []
  removing := none
  sent := []

def setExecution (s : State) (number : Nat) (execution : Execution) : State :=
  { s with executions := Function.update s.executions number (some execution) }

/-- A step of the execution of a handle, if there is one. -/
def withExecution (s : State) (number : Nat) (step : Execution → State) : State :=
  match s.executions number with
  | none => s
  | some execution => step execution

def advance (s : State) (number : Nat) (step : Execution → Execution) : State :=
  s.withExecution number fun execution => s.setExecution number (step execution)

/-- `handle`, up to the insertion of a new handle into the map. -/
def handle (config : Config) (s : State) (message : ServiceActionMessage) : State :=
  let known := s.handles message.getGIDString
  if message.isServiceActionOpCode .serviceToClient then
    let received := { s with requests := s.requests ++ [message.getGID] }
    match known with
    | some _ =>
        { received with
          sent := s.sent ++ [⟨s.requests.length, config.error, message.getGID⟩] }
    | none =>
        { received.setExecution s.requests.length (.start message) with
          inserting := some s.requests.length }
  else if message.isServiceActionOpCode .serviceToClientCancel then
    match known with
    | none => s
    | some number => s.advance number (.push message)
  else s

def insertHandle (s : State) : State :=
  match s.inserting with
  | none => s
  | some number =>
      s.withExecution number fun execution =>
        { s with
          inserting := none
          handles := s.handles.insert (ServiceActionHandle.gIDString execution.gID) number }

/-- The error is sent with the gid of the message, -/
def refuse (config : Config) (s : State) (number : Nat) : State :=
  s.withExecution number fun execution =>
    { s.setExecution number { execution with turn := .removeHandle } with
      sent := s.sent ++ [⟨number, config.error, execution.message.getGID⟩] }

/-- a response with the gid of the handle. -/
def sendResponse (s : State) (number : Nat) (data : Bytes) : State :=
  s.withExecution number fun execution =>
    { s.setExecution number { execution with callback := .sent } with
      sent := s.sent ++ [⟨number, data, execution.gID⟩] }

def removeHandle (s : State) (number : Nat) : State :=
  { s.advance number fun execution => { execution with turn := .returned } with
    toRemove := s.toRemove ++ [number] }

/-- `executeRemove` takes the next handle. -/
def takeRemove (s : State) : State :=
  match s.toRemove with
  | [] => s
  | number :: rest => { s with toRemove := rest, removing := some number }

/-- `executeRemove` erases what the map holds under the handle's key. -/
def eraseHandle (s : State) : State :=
  match s.removing with
  | none => s
  | some number =>
      s.withExecution number fun execution =>
        { s with
          removing := none
          handles := s.handles.erase (ServiceActionHandle.gIDString execution.gID) }

/-- The execution of a handle has come to a turn. -/
def isAt (s : State) (number : Nat) (turn : Turn) : Bool :=
  (s.executions number).any fun execution => execution.turn == turn

end State

/-- The manager has converted every message that is handled. The map is locked
while a handle is inserted; a handle is woken by a cancel
or by `done`; the removal thread joins the thread of a handle before it erases
it. -/
def enabled (s : State) : Label → Bool
  | .handle _ => s.inserting.isNone
  | .insertHandle => s.inserting.isSome
  | .decompress number => s.isAt number .decompress
  | .checkSize number => s.isAt number .checkSize
  | .waitForService number _ => s.isAt number .waitForService
  | .asyncSendRequest number _ => s.isAt number .asyncSendRequest
  | .refuse number => s.isAt number .refuse
  | .wake number => (s.executions number).any fun execution =>
      execution.turn == .wait && (execution.done || !execution.waitQueue.isEmpty)
  | .cancel number _ => s.isAt number .cancel
  | .removeHandle number => s.isAt number .removeHandle
  | .sendResponse number _ => (s.executions number).any fun execution =>
      execution.callback == .pending
  | .markDone number => (s.executions number).any fun execution => execution.callback == .sent
  | .takeRemove => s.removing.isNone && !s.toRemove.isEmpty
  | .eraseHandle => s.inserting.isNone && s.removing.any fun number => s.isAt number .returned

def next (config : Config) (s : State) : Label → State
  | .handle source =>
      match ServiceActionMessage.fromMessage source with
      | .ok (some message) => s.handle config message
      | .ok none | .error _ => s
  | .insertHandle => s.insertHandle
  | .decompress number => s.advance number (.decompress config)
  | .checkSize number => s.advance number (.checkSize config)
  | .waitForService number alive => s.advance number (.waitForService alive)
  | .asyncSendRequest number throws => s.advance number (.asyncSendRequest throws)
  | .refuse number => s.refuse config number
  | .wake number => s.advance number .wake
  | .cancel number callbackRuns => s.advance number (.cancel callbackRuns)
  | .removeHandle number => s.removeHandle number
  | .sendResponse number data => s.sendResponse number data
  | .markDone number =>
      s.advance number fun execution => { execution with callback := .finished, done := true }
  | .takeRemove => s.takeRemove
  | .eraseHandle => s.eraseHandle

def client (config : Config) : Machine State Label where
  start := .start
  enabled := enabled
  next := next config

variable {config : Config} {s t : State} {number other : Nat} {execution : Execution}

@[simp] theorem setExecution_self (s : State) (number : Nat) (execution : Execution) :
    (s.setExecution number execution).executions number = some execution :=
  Function.update_self ..

theorem setExecution_of_ne (s : State) (execution : Execution) (h : other ≠ number) :
    (s.setExecution number execution).executions other = s.executions other :=
  Function.update_of_ne h ..

theorem withExecution_of_some (h : s.executions number = some execution)
    (step : Execution → State) : s.withExecution number step = step execution := by
  simp only [State.withExecution, h]

/-- The handles queued for removal or taken by the removal thread. -/
def State.pending (s : State) : List Nat := s.removing.toList ++ s.toRemove

/-- The handle is found under its key, or is about to be. -/
def State.Holds (s : State) (number : Nat) (execution : Execution) : Prop :=
  s.handles (ServiceActionHandle.gIDString execution.gID) = some number ∨
    s.inserting = some number

/-- Every handle sits in the map from its insertion to its own removal. -/
structure Held (s : State) : Prop where
  stored : ∀ number execution, s.executions number = some execution →
    execution.turn ≠ .returned ∨ number ∈ s.pending → s.Holds number execution
  pending : ∀ number ∈ s.pending, ∃ execution, s.executions number = some execution ∧
    execution.turn = .returned
  distinct : s.pending.Nodup
  known : ∀ key number, s.handles key = some number → ∃ execution,
    s.executions number = some execution ∧ ServiceActionHandle.gIDString execution.gID = key
  inserting : ∀ number, s.inserting = some number → ∃ execution,
    s.executions number = some execution ∧
      s.handles (ServiceActionHandle.gIDString execution.gID) = none
  fresh : ∀ number, s.requests.length ≤ number → s.executions number = none

theorem Held.start : Held .start where
  stored _ _ h := nomatch h
  pending _ h := nomatch h
  distinct := List.nodup_nil
  known _ _ h := nomatch h
  inserting _ h := nomatch h
  fresh _ _ := rfl

section SetExecution

variable (h : Held s) (hexecution : s.executions number = some execution) {after : Execution}
  (hgid : after.gID = execution.gID)
include hexecution hgid

/-- A step of an execution keeps every gid. -/
theorem exists_setExecution {found : Execution} (hfound : s.executions other = some found) :
    ∃ now, (s.setExecution number after).executions other = some now ∧
      now.gID = found.gID := by
  by_cases hsame : other = number
  · subst hsame
    cases hexecution.symm.trans hfound
    exact ⟨after, setExecution_self .., hgid⟩
  · exact ⟨found, (setExecution_of_ne s after hsame).trans hfound, rfl⟩

include h

theorem Held.known_setExecution (key : Bytes) (other : Nat)
    (hkey : s.handles key = some other) :
    ∃ found, (s.setExecution number after).executions other = some found ∧
      ServiceActionHandle.gIDString found.gID = key := by
  obtain ⟨before, hbefore, hkeyed⟩ := h.known key other hkey
  obtain ⟨found, hfound, hsame⟩ := exists_setExecution hexecution hgid hbefore
  exact ⟨found, hfound, by rw [hsame, hkeyed]⟩

theorem Held.inserting_setExecution (other : Nat) (hinserting : s.inserting = some other) :
    ∃ found, (s.setExecution number after).executions other = some found ∧
      s.handles (ServiceActionHandle.gIDString found.gID) = none := by
  obtain ⟨before, hbefore, hfree⟩ := h.inserting other hinserting
  obtain ⟨found, hfound, hsame⟩ := exists_setExecution hexecution hgid hbefore
  exact ⟨found, hfound, by rw [hsame, hfree]⟩

omit hgid in
theorem Held.fresh_setExecution (other : Nat) (hlate : s.requests.length ≤ other) :
    (s.setExecution number after).executions other = none := by
  have hnone := h.fresh other hlate
  have hne : other ≠ number := by
    rintro rfl
    cases hexecution.symm.trans hnone
  exact (setExecution_of_ne s after hne).trans hnone

/-- A step that leaves the map, the removals and the requests alone. -/
theorem Held.setExecution (hturn : after.turn = .returned ↔ execution.turn = .returned)
    (sent : List Response) : Held { s.setExecution number after with sent := sent } where
  stored := by
    intro other found hfound hopen
    by_cases hsame : other = number
    · subst hsame
      cases (setExecution_self s other after).symm.trans hfound
      have hholds := h.stored other execution hexecution
        (hopen.imp (fun hne => hne ∘ hturn.mpr) id)
      unfold State.Holds at hholds ⊢
      rwa [hgid]
    · exact h.stored other found ((setExecution_of_ne s after hsame).symm.trans hfound) hopen
  pending := by
    intro other hpending
    obtain ⟨found, hfound, hreturned⟩ := h.pending other hpending
    by_cases hsame : other = number
    · subst hsame
      cases hexecution.symm.trans hfound
      exact ⟨after, setExecution_self .., hturn.mpr hreturned⟩
    · exact ⟨found, (setExecution_of_ne s after hsame).trans hfound, hreturned⟩
  distinct := h.distinct
  known := h.known_setExecution hexecution hgid
  inserting := h.inserting_setExecution hexecution hgid
  fresh := h.fresh_setExecution hexecution

end SetExecution

/-- Two handles with one gid are one handle. -/
theorem Held.eq_of_holds (h : Held s) {first second : Execution}
    (hfirst : s.executions number = some first) (hsecond : s.executions other = some second)
    (hgid : first.gID = second.gID) (hholds : s.Holds number first)
    (hother : s.Holds other second) : number = other := by
  have hinserting : ∀ {m n : Nat} {a b : Execution}, s.executions m = some a → a.gID = b.gID →
      s.inserting = some m →
      s.handles (ServiceActionHandle.gIDString b.gID) ≠ some n := by
    intro m n a b ha hsame hm hn
    obtain ⟨found, hfound, hfree⟩ := h.inserting m hm
    rw [ha] at hfound
    cases hfound
    rw [hsame, hn] at hfree
    cases hfree
  rcases hholds with hstored | hnew <;> rcases hother with hstored' | hnew'
  · rw [hgid, hstored'] at hstored
    exact (Option.some.inj hstored).symm
  · exact absurd hstored (hinserting hsecond hgid.symm hnew')
  · exact absurd hstored' (hinserting hfirst hgid hnew)
  · rw [hnew] at hnew'
    exact Option.some.inj hnew'

/-- A message for a gid in the map is answered at once. -/
theorem Held.duplicate (h : Held s) (gID : Bytes) (sent : List Response) :
    Held { s with requests := s.requests ++ [gID], sent := sent } where
  stored := h.stored
  pending := h.pending
  distinct := h.distinct
  known := h.known
  inserting := h.inserting
  fresh number hlate := h.fresh number (by simp only [List.length_append] at hlate; omega)

/-- A message for a new gid starts an execution. -/
theorem Held.create (h : Held s) (hnone : s.inserting = none) (execution : Execution)
    (hfree : s.handles (ServiceActionHandle.gIDString execution.gID) = none) :
    Held { { s with requests := s.requests ++ [execution.gID] }.setExecution s.requests.length
        execution with
      inserting := some s.requests.length } := by
  have hnew := h.fresh s.requests.length (Nat.le_refl _)
  have hother : ∀ {number found}, s.executions number = some found →
      Function.update s.executions s.requests.length (some execution) number = some found := by
    intro number found hfound
    have hne : number ≠ s.requests.length := by
      rintro rfl
      rw [hnew] at hfound
      cases hfound
    rwa [Function.update_of_ne hne]
  constructor
  · intro number found hfound hopen
    by_cases hsame : number = s.requests.length
    · exact Or.inr (congrArg some hsame.symm)
    · have hfound : s.executions number = some found := by
        rwa [← Function.update_of_ne hsame (some execution) s.executions]
      rcases h.stored number found hfound hopen with hstored | hinserting
      · exact Or.inl hstored
      · rw [hnone] at hinserting
        cases hinserting
  · intro number hpending
    obtain ⟨found, hfound, hreturned⟩ := h.pending number hpending
    exact ⟨found, hother hfound, hreturned⟩
  · exact h.distinct
  · intro key number hkey
    obtain ⟨found, hfound, hkeyed⟩ := h.known key number hkey
    exact ⟨found, hother hfound, hkeyed⟩
  · rintro number ⟨⟩
    exact ⟨execution, Function.update_self .., hfree⟩
  · intro number hlate
    have hlate : s.requests.length + 1 ≤ number := by
      simpa [State.setExecution] using hlate
    have hne : number ≠ s.requests.length := by omega
    exact (Function.update_of_ne hne ..).trans (h.fresh number (by omega))

theorem Held.insertHandle (h : Held s) : Held s.insertHandle := by
  unfold State.insertHandle
  split
  · exact h
  next number hinserting =>
    obtain ⟨execution, hexecution, hfree⟩ := h.inserting number hinserting
    rw [withExecution_of_some hexecution]
    have hmap : s.handles.insert (ServiceActionHandle.gIDString execution.gID) number =
        Function.update s.handles (ServiceActionHandle.gIDString execution.gID) (some number) :=
      KeyMap.insert_of_none hfree number
    have hkept : ∀ {key : Bytes} {other : Nat}, s.handles key = some other →
        s.handles.insert (ServiceActionHandle.gIDString execution.gID) number key = some other := by
      intro key other hkey
      have hne : key ≠ ServiceActionHandle.gIDString execution.gID := by
        rintro rfl
        rw [hfree] at hkey
        cases hkey
      rwa [hmap, Function.update_of_ne hne]
    constructor
    · intro other found hfound hopen
      apply Or.inl
      rcases h.stored other found hfound hopen with hstored | hother
      · exact hkept hstored
      · rw [hinserting] at hother
        cases hother
        rw [hexecution] at hfound
        cases hfound
        simp only [hmap, Function.update_self]
    · exact h.pending
    · exact h.distinct
    · intro key other hkey
      by_cases hsame : key = ServiceActionHandle.gIDString execution.gID
      · subst hsame
        simp only [hmap, Function.update_self, Option.some.injEq] at hkey
        exact ⟨execution, hkey ▸ hexecution, rfl⟩
      · simp only [hmap, Function.update_of_ne hsame] at hkey
        exact h.known key other hkey
    · intro other hother
      cases hother
    · exact h.fresh

theorem removeHandle_of_some (hexecution : s.executions number = some execution) :
    s.removeHandle number = { s.setExecution number { execution with turn := .returned } with
      toRemove := s.toRemove ++ [number] } := by
  simp only [State.removeHandle, State.advance, withExecution_of_some hexecution]

/-- The last step of an execution queues its handle for removal. -/
theorem Held.removeHandle (h : Held s) (hexecution : s.executions number = some execution)
    (hturn : execution.turn = .removeHandle) : Held (s.removeHandle number) := by
  have hnew : number ∉ s.pending := by
    intro hmem
    obtain ⟨found, hfound, hreturned⟩ := h.pending number hmem
    cases hexecution.symm.trans hfound
    rw [hturn] at hreturned
    cases hreturned
  have hpending : ∀ {other : Nat}, other ∈ s.removing.toList ++ (s.toRemove ++ [number]) →
      other ∈ s.pending ∨ other = number := by
    intro other hmem
    rw [← List.append_assoc] at hmem
    exact (List.mem_append.mp hmem).imp id List.mem_singleton.mp
  have hdistinct : (s.removing.toList ++ (s.toRemove ++ [number])).Nodup := by
    rw [← List.append_assoc, List.nodup_append]
    refine ⟨h.distinct, List.nodup_singleton _, ?_⟩
    rintro first hfirst _ hsecond rfl
    exact hnew (List.mem_singleton.mp hsecond ▸ hfirst)
  rw [removeHandle_of_some hexecution]
  constructor
  · intro other found hfound hopen
    by_cases hsame : other = number
    · subst hsame
      cases (setExecution_self s other { execution with turn := .returned }).symm.trans hfound
      exact h.stored other execution hexecution (Or.inl (by simp [hturn]))
    · refine h.stored other found ((setExecution_of_ne s _ hsame).symm.trans hfound)
        (hopen.imp id fun hmem => ?_)
      exact (hpending hmem).resolve_right hsame
  · intro other hmem
    rcases hpending hmem with hold | rfl
    · have hne : other ≠ number := fun hsame => hnew (hsame ▸ hold)
      obtain ⟨found, hfound, hreturned⟩ := h.pending other hold
      exact ⟨found, (setExecution_of_ne s _ hne).trans hfound, hreturned⟩
    · exact ⟨_, setExecution_self .., rfl⟩
  · exact hdistinct
  · exact h.known_setExecution hexecution rfl
  · exact h.inserting_setExecution hexecution rfl
  · exact h.fresh_setExecution hexecution

theorem Held.takeRemove (h : Held s) (hremoving : s.removing = none) : Held s.takeRemove := by
  unfold State.takeRemove
  split
  · exact h
  next number rest hqueue =>
    have hpending : State.pending { s with toRemove := rest, removing := some number } =
        s.pending := by
      simp [State.pending, hremoving, hqueue]
    exact {
      stored := fun other found hfound hopen =>
        h.stored other found hfound (hopen.imp id fun hmem => by rwa [hpending] at hmem)
      pending := fun other hmem => h.pending other (by rwa [hpending] at hmem)
      distinct := by
        rw [hpending]
        exact h.distinct
      known := h.known
      inserting := h.inserting
      fresh := h.fresh }

/-- What is erased is the entry of the handle itself. -/
theorem Held.eraseHandle (h : Held s) (hunlocked : s.inserting = none) : Held s.eraseHandle := by
  unfold State.eraseHandle
  split
  · exact h
  next number hremoving =>
    have hmem : number ∈ s.pending := by simp [State.pending, hremoving]
    obtain ⟨execution, hexecution, hreturned⟩ := h.pending number hmem
    rw [withExecution_of_some hexecution]
    have hpending : s.pending = number :: s.toRemove := by simp [State.pending, hremoving]
    have hdistinct := h.distinct
    rw [hpending, List.nodup_cons] at hdistinct
    have hstored : s.handles (ServiceActionHandle.gIDString execution.gID) = some number := by
      rcases h.stored number execution hexecution (Or.inr hmem) with hstored | hinserting
      · exact hstored
      · rw [hunlocked] at hinserting
        cases hinserting
    constructor
    · intro other found hfound hopen
      have hother : other ≠ number := by
        rintro rfl
        rw [hexecution] at hfound
        cases hfound
        rcases hopen with hopen | hqueued
        · exact hopen hreturned
        · exact hdistinct.1 hqueued
      have hold : other ∈ s.toRemove → other ∈ s.pending := by
        rw [hpending]
        exact List.mem_cons_of_mem number
      rcases h.stored other found hfound (hopen.imp id hold) with hkept | hinserting
      · apply Or.inl
        have hkey : ServiceActionHandle.gIDString found.gID ≠
            ServiceActionHandle.gIDString execution.gID := by
          intro hsame
          rw [hsame, hstored] at hkept
          exact hother (Option.some.inj hkept).symm
        exact (KeyMap.erase_of_ne s.handles hkey).trans hkept
      · exact Or.inr hinserting
    · intro other hqueued
      exact h.pending other (hpending ▸ List.mem_cons_of_mem number hqueued)
    · exact hdistinct.2
    · intro key other hkey
      exact h.known key other (KeyMap.erase_eq_some hkey).2
    · intro other hinserting
      rw [hunlocked] at hinserting
      cases hinserting
    · exact h.fresh

/-- The request was sent and its callback not dropped. -/
def Callback.requested : Callback → Bool
  | .pending | .sent | .finished => true
  | .unset | .removed => false

/-- What is known at a turn about the callback, `done` and the cancels. -/
def Execution.AtTurn (execution : Execution) : Prop :=
  match execution.turn with
  | .decompress | .checkSize | .waitForService | .asyncSendRequest | .refuse =>
      execution.callback = .unset ∧ execution.done = false
  | .wait =>
      execution.callback.requested = true ∧
        (execution.done = true → execution.callback = .finished)
  | .cancel => execution.callback.requested = true ∧ execution.canceled = true
  | .removeHandle | .returned =>
      execution.callback = .pending ∨ execution.callback = .removed → execution.canceled = true

/-- The responses an execution has sent: the one of its callback, or the error
if it ended without a request. -/
def Execution.responses (execution : Execution) : Nat :=
  match execution.callback with
  | .unset => if execution.turn = .removeHandle ∨ execution.turn = .returned then 1 else 0
  | .pending | .removed => 0
  | .sent | .finished => 1

/-- Its message was not decompressed, or the move of the gid was one `memcpy`
allows. -/
def Execution.GIDKept (execution : Execution) : Prop :=
  execution.moved = true → execution.gID.length ≤ 4

structure Execution.Ok (execution : Execution) : Prop where
  gID : execution.GIDKept → execution.message.getGID = execution.gID
  laid : execution.turn = .decompress → execution.moved = false ∧ execution.message.Laid
  atTurn : execution.AtTurn
  queue : execution.turn ≠ .returned → execution.waitQueue ≠ [] → execution.canceled = true

theorem Execution.Ok.start {message : ServiceActionMessage} (h : message.Laid) :
    (Execution.start message).Ok :=
  ⟨fun _ => rfl, fun _ => ⟨rfl, h⟩, ⟨rfl, rfl⟩, fun _ hqueue => absurd rfl hqueue⟩

/-- Decompression leaves the gid of a message if it is short. -/
theorem decompressed_getGID {message stored : ServiceActionMessage} (hlaid : message.Laid)
    (h : decompressed config message = some stored)
    (hshort : MessageBase.isCompressed message = true → message.getGID.length ≤ 4) :
    stored.getGID = message.getGID := by
  unfold decompressed at h
  split at h
  next hcompressed =>
    have hcompressor : message.compressor ≠ .none := by
      simpa [MessageBase.isCompressed, MessageBase.compressor] using hcompressed
    have hsize : message.gID.size ≤ 4 := hlaid.length_getGID ▸ hshort hcompressed
    rcases message.decompressWith_cases config.memcpy config.codecs with
      ⟨-, hfails⟩ | ⟨data, -, hstores⟩
    · simp [hfails] at h
    · simp only [hstores, Option.some.injEq] at h
      rw [← h, hlaid.storeWith_eq hcompressor hsize]
      exact (hlaid.store hcompressor data).2
  next =>
    cases h
    rfl

/-- A step of an execution that sends nothing. -/
structure Execution.Quiet (before after : Execution) : Prop where
  ok : after.Ok
  gID : after.gID = before.gID
  turn : after.turn = .returned ↔ before.turn = .returned
  responses : after.responses = before.responses

section Quiet

variable (h : execution.Ok)
include h

/-- The checks before the request go on or refuse. -/
theorem Execution.Ok.check {message : ServiceActionMessage} {moved : Bool} {turn : Turn}
    (hearly : execution.callback = .unset ∧ execution.done = false)
    (hbefore : execution.turn ≠ .removeHandle ∧ execution.turn ≠ .returned)
    (hturn : turn = .checkSize ∨ turn = .waitForService ∨ turn = .asyncSendRequest ∨
      turn = .refuse)
    (hgid : { execution with moved := moved }.GIDKept → message.getGID = execution.gID) :
    execution.Quiet { execution with message := message, moved := moved, turn := turn } where
  ok := by
    refine ⟨hgid, ?_, ?_, fun _ hqueue => h.queue hbefore.2 hqueue⟩
    · rintro rfl
      simp at hturn
    · rcases hturn with rfl | rfl | rfl | rfl <;> exact hearly
  gID := rfl
  turn := by
    rcases hturn with rfl | rfl | rfl | rfl <;> simp [hbefore.2]
  responses := by
    rcases hturn with rfl | rfl | rfl | rfl <;> simp [Execution.responses, hearly.1, hbefore]

theorem Execution.Ok.decompress (hturn : execution.turn = .decompress) :
    execution.Quiet (execution.decompress config) := by
  have hatTurn := h.atTurn
  simp only [Execution.AtTurn, hturn] at hatTurn
  unfold Execution.decompress
  split
  · exact h.check hatTurn (by simp [hturn]) (by simp) h.gID
  next message hmessage =>
    obtain ⟨hunmoved, hlaid⟩ := h.laid hturn
    have hgid : execution.message.getGID = execution.gID := h.gID (by simp [GIDKept, hunmoved])
    refine h.check hatTurn (by simp [hturn]) (by simp) fun hkept => ?_
    exact (decompressed_getGID hlaid hmessage (hgid ▸ hkept)).trans hgid

theorem Execution.Ok.checkSize (hturn : execution.turn = .checkSize) :
    execution.Quiet (execution.checkSize config) := by
  have hatTurn := h.atTurn
  simp only [Execution.AtTurn, hturn] at hatTurn
  unfold Execution.checkSize
  split
  · exact h.check hatTurn (by simp [hturn]) (by simp) h.gID
  · exact h.check hatTurn (by simp [hturn]) (by simp) h.gID

theorem Execution.Ok.waitForService (hturn : execution.turn = .waitForService) (alive : Bool) :
    execution.Quiet (execution.waitForService alive) := by
  have hatTurn := h.atTurn
  simp only [Execution.AtTurn, hturn] at hatTurn
  exact h.check hatTurn (by simp [hturn]) (by cases alive <;> simp) h.gID

theorem Execution.Ok.asyncSendRequest (hturn : execution.turn = .asyncSendRequest)
    (throws : Bool) : execution.Quiet (execution.asyncSendRequest throws) := by
  have hatTurn := h.atTurn
  simp only [Execution.AtTurn, hturn] at hatTurn
  unfold Execution.asyncSendRequest
  split
  · exact h.check hatTurn (by simp [hturn]) (by simp) h.gID
  · exact {
      ok := ⟨h.gID, nofun, ⟨rfl, fun hdone => by simp [hatTurn.2] at hdone⟩,
        fun _ hqueue => h.queue (by simp [hturn]) hqueue⟩
      gID := rfl
      turn := by simp [hturn]
      responses := by simp [Execution.responses, hatTurn.1, hturn] }

theorem Execution.Ok.wake (hturn : execution.turn = .wait)
    (hwoken : execution.done = true ∨ execution.waitQueue ≠ []) :
    execution.Quiet execution.wake := by
  have hatTurn := h.atTurn
  simp only [Execution.AtTurn, hturn] at hatTurn
  have hqueue : execution.waitQueue ≠ [] → execution.canceled = true :=
    h.queue (by simp [hturn])
  unfold Execution.wake
  split
  next hdone =>
    have hfinished := hatTurn.2 hdone
    exact {
      ok := ⟨h.gID, nofun, by simp [Execution.AtTurn, hfinished], fun _ => hqueue⟩
      gID := rfl
      turn := by simp [hturn]
      responses := by simp [Execution.responses, hfinished] }
  next hdone =>
    exact {
      ok := ⟨h.gID, nofun, ⟨hatTurn.1, hqueue (hwoken.resolve_left hdone)⟩, fun _ => hqueue⟩
      gID := rfl
      turn := by simp [hturn]
      responses := by simp [Execution.responses, hturn] }

theorem Execution.Ok.cancel (hturn : execution.turn = .cancel) (callbackRuns : Bool) :
    execution.Quiet (execution.cancel callbackRuns) := by
  have hatTurn := h.atTurn
  simp only [Execution.AtTurn, hturn] at hatTurn
  exact {
    ok := ⟨h.gID, nofun, fun _ => hatTurn.2, fun _ _ => hatTurn.2⟩
    gID := rfl
    turn := by simp [Execution.cancel, hturn]
    responses := by
      have hrequested := hatTurn.1
      unfold Execution.cancel Execution.responses
      cases hcallback : execution.callback with
      | unset | removed => simp [hcallback, Callback.requested] at hrequested
      | pending => cases callbackRuns <;> simp
      | sent | finished => simp }

theorem Execution.Ok.markDone (hcallback : execution.callback = .sent) :
    execution.Quiet { execution with callback := .finished, done := true } where
  ok := by
    have hatTurn := h.atTurn
    refine ⟨h.gID, h.laid, ?_, h.queue⟩
    unfold Execution.AtTurn at hatTurn ⊢
    cases hturn : execution.turn with
    | decompress | checkSize | waitForService | asyncSendRequest | refuse =>
        simp [hturn, hcallback] at hatTurn
    | wait => simp [Callback.requested]
    | cancel =>
        simp only [hturn] at hatTurn
        simp [Callback.requested, hatTurn.2]
    | removeHandle | returned => simp
  gID := rfl
  turn := Iff.rfl
  responses := by simp [Execution.responses, hcallback]

theorem Execution.Ok.push (message : ServiceActionMessage) :
    execution.Quiet (execution.push message) where
  ok := by
    have hatTurn := h.atTurn
    refine ⟨h.gID, h.laid, ?_, fun hturn _ => ?_⟩
    · unfold Execution.AtTurn at hatTurn ⊢
      unfold Execution.push
      cases hturn : execution.turn with
      | decompress | checkSize | waitForService | asyncSendRequest | refuse | wait =>
          simpa [hturn] using hatTurn
      | cancel =>
          simp only [hturn] at hatTurn
          simp [hatTurn]
      | removeHandle => simp
      | returned =>
          simp only [hturn] at hatTurn
          simpa using hatTurn
    · have hopen : execution.turn ≠ .returned := hturn
      simp [Execution.push, hopen]
  gID := rfl
  turn := Iff.rfl
  responses := rfl

end Quiet

/-- The responses a message has caused. -/
def State.answers (s : State) (number : Nat) : Nat :=
  s.sent.countP fun response => response.cause == number

/-- The responses a message was to cause so far. -/
def State.expected (s : State) (number : Nat) : Nat :=
  match s.executions number with
  | some execution => execution.responses
  | none => if number < s.requests.length then 1 else 0

structure Counted (s : State) : Prop where
  ok : ∀ number execution, s.executions number = some execution → execution.Ok
  requests : ∀ number execution, s.executions number = some execution →
    s.requests[number]? = some execution.gID
  answers : ∀ number, s.answers number = s.expected number
  gID : ∀ response ∈ s.sent, s.requests[response.cause]? = some response.gID

theorem Counted.start : Counted .start where
  ok _ _ h := nomatch h
  requests _ _ h := nomatch h
  answers _ := by simp [State.answers, State.expected, State.start]
  gID _ h := nomatch h

/-- What a step changes beside executions and responses is not counted. -/
theorem Counted.ofSame (h : Counted s) (hrequests : t.requests = s.requests)
    (hexecutions : t.executions = s.executions) (hsent : t.sent = s.sent) : Counted t where
  ok := by
    rw [hexecutions]
    exact h.ok
  requests := by
    rw [hexecutions, hrequests]
    exact h.requests
  answers number := by
    simp only [State.answers, State.expected, hexecutions, hrequests, hsent]
    exact h.answers number
  gID := by
    rw [hsent, hrequests]
    exact h.gID

/-- An execution goes on and sends the responses it is said to. -/
theorem Counted.setExecution (h : Counted s) (hexecution : s.executions number = some execution)
    (after : Execution) (hok : after.Ok) (hgid : after.gID = execution.gID)
    (responses : List Response)
    (hresponses : ∀ response ∈ responses, response = ⟨number, response.data, execution.gID⟩)
    (hcount : after.responses = execution.responses + responses.length) :
    Counted { s.setExecution number after with sent := s.sent ++ responses } := by
  have hrequest := h.requests number execution hexecution
  have hmine : ∀ response ∈ responses, response.cause = number := by
    intro response hmem
    rw [hresponses response hmem]
  constructor
  · intro other found hfound
    by_cases hsame : other = number
    · subst hsame
      cases (setExecution_self s other after).symm.trans hfound
      exact hok
    · exact h.ok other found ((setExecution_of_ne s after hsame).symm.trans hfound)
  · intro other found hfound
    by_cases hsame : other = number
    · subst hsame
      cases (setExecution_self s other after).symm.trans hfound
      rw [hgid]
      exact hrequest
    · exact h.requests other found ((setExecution_of_ne s after hsame).symm.trans hfound)
  · intro other
    have hold := h.answers other
    simp only [State.answers, State.expected, List.countP_append] at hold ⊢
    rw [hold]
    by_cases hsame : other = number
    · subst hsame
      have hall : responses.countP (fun response => response.cause == other) =
          responses.length := by
        rw [List.countP_eq_length]
        intro response hmem
        simpa using hmine response hmem
      simp only [setExecution_self, hexecution, hall, hcount]
    · have hnone : responses.countP (fun response => response.cause == other) = 0 := by
        rw [List.countP_eq_zero]
        intro response hmem
        rw [hmine response hmem]
        simpa using Ne.symm hsame
      simp only [setExecution_of_ne s after hsame, hnone, Nat.add_zero]
      rfl
  · intro response hmem
    rcases List.mem_append.mp hmem with hold | hnew
    · exact h.gID response hold
    · rw [hresponses response hnew]
      exact hrequest

/-- A request that is known stays known. -/
theorem getElem_append {requests : List Bytes} {found : Bytes} (gID : Bytes)
    (hfound : requests[number]? = some found) : (requests ++ [gID])[number]? = some found := by
  obtain ⟨hlt, -⟩ := List.getElem?_eq_some_iff.mp hfound
  rwa [List.getElem?_append_left hlt]

theorem lt_length_append {requests : List Bytes} (gID : Bytes) (h : number ≠ requests.length) :
    number < (requests ++ [gID]).length ↔ number < requests.length := by
  simp only [List.length_append, List.length_singleton]
  omega

/-- A message for a gid in the map is answered at once. -/
theorem Counted.duplicate (h : Counted s) (hheld : Held s) (gID data : Bytes) :
    Counted { s with
      requests := s.requests ++ [gID]
      sent := s.sent ++ [⟨s.requests.length, data, gID⟩] } where
  ok := h.ok
  requests number found hfound := getElem_append gID (h.requests number found hfound)
  answers number := by
    have hold := h.answers number
    simp only [State.answers, State.expected, List.countP_append, List.countP_singleton]
      at hold ⊢
    rw [hold]
    by_cases hsame : number = s.requests.length
    · subst hsame
      simp [hheld.fresh s.requests.length (Nat.le_refl _)]
    · simp only [beq_eq_false_iff_ne.mpr (Ne.symm hsame), lt_length_append gID hsame]
      simp
  gID response hmem := by
    rcases List.mem_append.mp hmem with hold | hsent
    · exact getElem_append gID (h.gID response hold)
    · rw [List.mem_singleton.mp hsent]
      simp

/-- A message for a new gid is answered by its execution. -/
theorem Counted.create (h : Counted s) (hheld : Held s) (hok : execution.Ok)
    (hnone : execution.responses = 0) :
    Counted { { s with requests := s.requests ++ [execution.gID] }.setExecution s.requests.length
        execution with
      inserting := some s.requests.length } := by
  have hself : Function.update s.executions s.requests.length (some execution)
      s.requests.length = some execution := Function.update_self ..
  have hother : ∀ number ≠ s.requests.length,
      Function.update s.executions s.requests.length (some execution) number =
        s.executions number := fun number hne => Function.update_of_ne hne ..
  constructor
  · intro number found hfound
    by_cases hsame : number = s.requests.length
    · subst hsame
      cases hself.symm.trans hfound
      exact hok
    · exact h.ok number found ((hother number hsame).symm.trans hfound)
  · intro number found hfound
    by_cases hsame : number = s.requests.length
    · subst hsame
      cases hself.symm.trans hfound
      simp [State.setExecution]
    · exact getElem_append _ (h.requests number found ((hother number hsame).symm.trans hfound))
  · intro number
    have hold := h.answers number
    simp only [State.answers, State.expected, State.setExecution] at hold ⊢
    rw [hold]
    by_cases hsame : number = s.requests.length
    · subst hsame
      simp [hheld.fresh s.requests.length (Nat.le_refl _), hnone]
    · simp only [hother number hsame, lt_length_append _ hsame]
  · exact fun response hmem => getElem_append _ (h.gID response hmem)

/-- The two invariants of a client. -/
structure Sound (s : State) : Prop where
  held : Held s
  counted : Counted s

theorem advance_of_some (hexecution : s.executions number = some execution)
    (step : Execution → Execution) :
    s.advance number step = s.setExecution number (step execution) :=
  withExecution_of_some hexecution _

/-- A step of an execution that sends nothing. -/
theorem Sound.advance (h : Sound s) (hexecution : s.executions number = some execution)
    {step : Execution → Execution} (hquiet : execution.Quiet (step execution)) :
    Sound (s.advance number step) := by
  rw [advance_of_some hexecution]
  have hcounted := h.counted.setExecution hexecution (step execution) hquiet.ok hquiet.gID [] nofun
    hquiet.responses
  rw [List.append_nil] at hcounted
  exact ⟨h.held.setExecution hexecution hquiet.gID hquiet.turn s.sent, hcounted⟩

/-- A step of an execution that sends a response. -/
theorem Sound.respond (h : Sound s) (hexecution : s.executions number = some execution)
    (after : Execution) (hok : after.Ok) (hgid : after.gID = execution.gID)
    (hturn : after.turn = .returned ↔ execution.turn = .returned)
    (hcount : after.responses = execution.responses + 1) (data : Bytes) :
    Sound { s.setExecution number after with
      sent := s.sent ++ [⟨number, data, execution.gID⟩] } where
  held := h.held.setExecution hexecution hgid hturn _
  counted := h.counted.setExecution hexecution after hok hgid [⟨number, data, execution.gID⟩]
    (fun response hmem => by rw [List.mem_singleton.mp hmem]) hcount

theorem Sound.refuse (h : Sound s) (hexecution : s.executions number = some execution)
    (hturn : execution.turn = .refuse) (hkept : execution.GIDKept) :
    Sound (s.refuse config number) := by
  have hok := h.counted.ok number execution hexecution
  have hatTurn := hok.atTurn
  simp only [Execution.AtTurn, hturn] at hatTurn
  unfold State.refuse
  rw [withExecution_of_some hexecution, hok.gID hkept]
  refine h.respond hexecution { execution with turn := .removeHandle }
    ⟨hok.gID, nofun, ?_, fun _ => hok.queue (by simp [hturn])⟩ rfl (by simp [hturn]) ?_
    config.error
  · simp [Execution.AtTurn, hatTurn.1]
  · simp [Execution.responses, hatTurn.1, hturn]

/-- The callback is called after the request was sent, and once. -/
theorem Sound.sendResponse (h : Sound s) (hexecution : s.executions number = some execution)
    (hcallback : execution.callback = .pending) (data : Bytes) :
    Sound (s.sendResponse number data) := by
  have hok := h.counted.ok number execution hexecution
  have hatTurn := hok.atTurn
  unfold State.sendResponse
  rw [withExecution_of_some hexecution]
  refine h.respond hexecution { execution with callback := .sent }
    ⟨hok.gID, hok.laid, ?_, hok.queue⟩ rfl Iff.rfl ?_ data
  · unfold Execution.AtTurn at hatTurn ⊢
    cases hturn : execution.turn with
    | decompress | checkSize | waitForService | asyncSendRequest | refuse =>
        simp [hturn, hcallback] at hatTurn
    | wait =>
        simp only [hturn, hcallback] at hatTurn
        exact ⟨rfl, fun hdone => nomatch hatTurn.2 hdone⟩
    | cancel =>
        simp only [hturn] at hatTurn
        exact ⟨rfl, hatTurn.2⟩
    | removeHandle | returned => simp
  · simp [Execution.responses, hcallback]

theorem Sound.handle (h : Sound s) (hunlocked : s.inserting = none)
    {message : ServiceActionMessage} (hlaid : message.Laid) :
    Sound (s.handle config message) := by
  unfold State.handle
  dsimp only
  split
  · split
    · exact ⟨h.held.duplicate _ _, h.counted.duplicate h.held _ _⟩
    next hfree =>
      have hok := Execution.Ok.start hlaid
      have hnone : (Execution.start message).responses = 0 := by
        simp [Execution.responses, Execution.start]
      exact ⟨h.held.create hunlocked (.start message) hfree, h.counted.create h.held hok hnone⟩
  · split
    · split
      · exact h
      next number hfound =>
        obtain ⟨execution, hexecution, -⟩ := h.held.known _ number hfound
        exact h.advance hexecution ((h.counted.ok number execution hexecution).push message)
    · exact h

theorem Sound.removeHandle (h : Sound s) (hexecution : s.executions number = some execution)
    (hturn : execution.turn = .removeHandle) : Sound (s.removeHandle number) where
  held := h.held.removeHandle hexecution hturn
  counted := by
    have hok := h.counted.ok number execution hexecution
    have hatTurn := hok.atTurn
    simp only [Execution.AtTurn, hturn] at hatTurn
    have hcounted := h.counted.setExecution hexecution { execution with turn := .returned }
      ⟨hok.gID, nofun, hatTurn, fun hne => absurd rfl hne⟩ rfl [] nofun
      (by simp [Execution.responses, hturn])
    rw [List.append_nil] at hcounted
    refine hcounted.ofSame ?_ ?_ ?_ <;>
      simp only [State.removeHandle, advance_of_some hexecution, State.setExecution]

/-- The steps that leave the executions alone. -/
theorem Sound.ofHeld (h : Sound s) (hheld : Held t) (hrequests : t.requests = s.requests)
    (hexecutions : t.executions = s.executions) (hsent : t.sent = s.sent) : Sound t :=
  ⟨hheld, h.counted.ofSame hrequests hexecutions hsent⟩

theorem isAt_eq_true {turn : Turn} (h : s.isAt number turn = true) :
    ∃ execution, s.executions number = some execution ∧ execution.turn = turn := by
  obtain ⟨execution, hexecution, hturn⟩ := (Option.any_eq_true _ _).mp h
  exact ⟨execution, hexecution, eq_of_beq hturn⟩

/-- No request with a gid of more than four bytes is refused after it was
decompressed. -/
def KeepsGID (s : State) : Label → Prop
  | .refuse number => ∀ execution ∈ s.executions number, execution.GIDKept
  | _ => True

instance (execution : Execution) : Decidable execution.GIDKept :=
  inferInstanceAs (Decidable (execution.moved = true → execution.gID.length ≤ 4))

instance (s : State) (label : Label) : Decidable (KeepsGID s label) :=
  match label with
  | .refuse number =>
      inferInstanceAs (Decidable (∀ execution ∈ s.executions number, execution.GIDKept))
  | .handle _ | .insertHandle | .decompress _ | .checkSize _ | .waitForService _ _
  | .asyncSendRequest _ _ | .wake _ | .cancel _ _ | .removeHandle _ | .sendResponse _ _
  | .markDone _ | .takeRemove | .eraseHandle => isTrue trivial

theorem Sound.next (h : Sound s) {label : Label} (henabled : enabled s label = true)
    (hkeeps : KeepsGID s label) : Sound (next config s label) := by
  have hok := h.counted.ok
  cases label with
  | handle source =>
      simp only [ServiceClient.next]
      split
      next message hmessage =>
        exact h.handle (by simpa [enabled] using henabled)
          (ServiceActionMessage.fromMessage_laid hmessage)
      · exact h
      · exact h
  | insertHandle =>
      refine h.ofHeld h.held.insertHandle ?_ ?_ ?_ <;>
        · simp only [ServiceClient.next, State.insertHandle, State.withExecution]
          split
          · rfl
          · split <;> rfl
  | decompress number =>
      obtain ⟨execution, hexecution, hturn⟩ := isAt_eq_true henabled
      exact h.advance hexecution ((hok number execution hexecution).decompress hturn)
  | checkSize number =>
      obtain ⟨execution, hexecution, hturn⟩ := isAt_eq_true henabled
      exact h.advance hexecution ((hok number execution hexecution).checkSize hturn)
  | waitForService number alive =>
      obtain ⟨execution, hexecution, hturn⟩ := isAt_eq_true henabled
      exact h.advance hexecution ((hok number execution hexecution).waitForService hturn alive)
  | asyncSendRequest number throws =>
      obtain ⟨execution, hexecution, hturn⟩ := isAt_eq_true henabled
      exact h.advance hexecution ((hok number execution hexecution).asyncSendRequest hturn throws)
  | refuse number =>
      obtain ⟨execution, hexecution, hturn⟩ := isAt_eq_true henabled
      exact h.refuse hexecution hturn (hkeeps execution hexecution)
  | wake number =>
      obtain ⟨execution, hexecution, hwoken⟩ := (Option.any_eq_true _ _).mp henabled
      simp only [Bool.and_eq_true, Bool.or_eq_true, beq_iff_eq, Bool.not_eq_true',
        List.isEmpty_eq_false_iff] at hwoken
      exact h.advance hexecution ((hok number execution hexecution).wake hwoken.1 hwoken.2)
  | cancel number callbackRuns =>
      obtain ⟨execution, hexecution, hturn⟩ := isAt_eq_true henabled
      exact h.advance hexecution ((hok number execution hexecution).cancel hturn callbackRuns)
  | removeHandle number =>
      obtain ⟨execution, hexecution, hturn⟩ := isAt_eq_true henabled
      exact h.removeHandle hexecution hturn
  | sendResponse number data =>
      obtain ⟨execution, hexecution, hcallback⟩ := (Option.any_eq_true _ _).mp henabled
      exact h.sendResponse hexecution (eq_of_beq hcallback) data
  | markDone number =>
      obtain ⟨execution, hexecution, hcallback⟩ := (Option.any_eq_true _ _).mp henabled
      exact h.advance hexecution
        ((hok number execution hexecution).markDone (eq_of_beq hcallback))
  | takeRemove =>
      simp only [enabled, Bool.and_eq_true, Option.isNone_iff_eq_none] at henabled
      refine h.ofHeld (h.held.takeRemove henabled.1) ?_ ?_ ?_ <;>
        · simp only [ServiceClient.next, State.takeRemove]
          split <;> rfl
  | eraseHandle =>
      simp only [enabled, Bool.and_eq_true, Option.isNone_iff_eq_none] at henabled
      refine h.ofHeld (h.held.eraseHandle henabled.1) ?_ ?_ ?_ <;>
        · simp only [ServiceClient.next, State.eraseHandle, State.withExecution]
          split
          · rfl
          · split <;> rfl

/-- The gid of the SERVICE_TO_CLIENT message that is handled. -/
def Label.request? : Label → Option Bytes
  | .handle source =>
      match ServiceActionMessage.fromMessage source with
      | .ok (some message) =>
          if message.isServiceActionOpCode .serviceToClient then some message.getGID else none
      | .ok none | .error _ => none
  | _ => none

/-- The gids of the SERVICE_TO_CLIENT messages handled in a run. -/
def requests (labels : List Label) : List Bytes := labels.filterMap Label.request?

theorem advance_requests (s : State) (number : Nat) (step : Execution → Execution) :
    (s.advance number step).requests = s.requests := by
  unfold State.advance State.withExecution
  split <;> rfl

theorem handle_requests (s : State) (message : ServiceActionMessage) :
    (s.handle config message).requests = s.requests ++
      if message.isServiceActionOpCode .serviceToClient then [message.getGID] else [] := by
  unfold State.handle
  dsimp only
  split
  · split <;> rfl
  · rw [List.append_nil]
    split
    · split
      · rfl
      · exact advance_requests s _ _
    · rfl

theorem requests_next (config : Config) (s : State) (label : Label) :
    (next config s label).requests = s.requests ++ label.request?.toList := by
  cases label with
  | handle source =>
      simp only [ServiceClient.next, Label.request?]
      split
      · rw [handle_requests]
        split <;> rfl
      · exact (List.append_nil _).symm
      · exact (List.append_nil _).symm
  | insertHandle =>
      simp only [ServiceClient.next, State.insertHandle, State.withExecution, Label.request?,
        Option.toList_none, List.append_nil]
      split
      · rfl
      · split <;> rfl
  | refuse number | sendResponse number =>
      simp only [ServiceClient.next, State.refuse, State.sendResponse, State.withExecution,
        Label.request?, Option.toList_none, List.append_nil]
      split <;> rfl
  | takeRemove =>
      simp only [ServiceClient.next, State.takeRemove, Label.request?, Option.toList_none,
        List.append_nil]
      split <;> rfl
  | eraseHandle =>
      simp only [ServiceClient.next, State.eraseHandle, State.withExecution, Label.request?,
        Option.toList_none, List.append_nil]
      split
      · rfl
      · split <;> rfl
  | removeHandle number => exact (advance_requests s _ _).trans (List.append_nil _).symm
  | decompress number | checkSize number | waitForService number | asyncSendRequest number
  | wake number | cancel number | markDone number =>
      exact (advance_requests s _ _).trans (List.append_nil _).symm

/-- No gid has two executions in progress. A message that is handled is answered
at once or has an execution; it causes at most one response, with its gid, and
exactly one if it has none or once this has ended, unless a cancel was queued
before. -/
structure AnsweredOnce (requests : List Bytes) (s : State) : Prop where
  single : ∀ number other first second, s.executions number = some first →
    s.executions other = some second → first.turn ≠ .returned → second.turn ≠ .returned →
      first.gID = second.gID → number = other
  executed : ∀ number execution, s.executions number = some execution →
    requests[number]? = some execution.gID
  once : ∀ number, s.answers number ≤ 1
  gID : ∀ response ∈ s.sent, requests[response.cause]? = some response.gID
  duplicate : ∀ number, number < requests.length → s.executions number = none →
    s.answers number = 1
  returned : ∀ number execution, s.executions number = some execution →
    execution.turn = .returned → execution.canceled = false → s.answers number = 1

theorem Execution.responses_le (execution : Execution) : execution.responses ≤ 1 := by
  unfold Execution.responses
  split
  · split <;> omega
  · omega
  · omega
  · omega
  · omega

/-- An execution that ends without a cancel was refused or has responded. -/
theorem Execution.Ok.responses_of_returned (h : execution.Ok) (hturn : execution.turn = .returned)
    (hcanceled : execution.canceled = false) : execution.responses = 1 := by
  have hatTurn := h.atTurn
  simp only [Execution.AtTurn, hturn] at hatTurn
  unfold Execution.responses
  cases hcallback : execution.callback with
  | unset => simp [hturn]
  | pending | removed => simp [hcallback, hcanceled] at hatTurn
  | sent | finished => rfl

theorem Sound.answeredOnce (h : Sound s) : AnsweredOnce s.requests s where
  single number other first second hfirst hsecond hopen hopen' hgid :=
    h.held.eq_of_holds hfirst hsecond hgid (h.held.stored number first hfirst (Or.inl hopen))
      (h.held.stored other second hsecond (Or.inl hopen'))
  executed := h.counted.requests
  once number := by
    rw [h.counted.answers, State.expected]
    split
    · exact Execution.responses_le _
    · split <;> omega
  gID := h.counted.gID
  duplicate number hnumber hnone := by
    rw [h.counted.answers, State.expected, hnone]
    exact if_pos hnumber
  returned number execution hexecution hturn hcanceled := by
    rw [h.counted.answers, State.expected, hexecution]
    exact (h.counted.ok number execution hexecution).responses_of_returned hturn hcanceled

/-- Whatever messages arrive and however the threads interleave, as long as no
long gid is read from a message that was decompressed. -/
theorem handle_answersOnce (config : Config) (labels : List Label) (s : State)
    (h : (client config).replay KeepsGID .start labels = some s) :
    AnsweredOnce (requests labels) s := by
  have hsound : Sound s := Machine.invariant_replay Sound
    (fun _ _ hs henabled hkeeps => hs.next henabled hkeeps) ⟨.start, .start⟩ h
  have hrequests : s.requests = requests labels :=
    Machine.replay_filterMap (requests_next config) h
  exact hrequests ▸ hsound.answeredOnce

private def plainClient : Config := ⟨.backward, literalCodecs, 0, false, [255]⟩

/-- A request without data, with the gid 9, on channel 5. -/
private def request : RclMessage := ⟨251, .none, 4, [5, 0, 1, 9]⟩

/-- A compressed request of one byte with the same gid. -/
private def compressedRequest : RclMessage := ⟨251, .lz4Default, 1, [5, 0, 1, 9, 16, 7]⟩

private def answered : List Label :=
  [.handle request, .decompress 0, .insertHandle, .checkSize 0, .waitForService 0 true,
    .handle request, .asyncSendRequest 0 false, .sendResponse 0 [42], .markDone 0, .wake 0,
    .removeHandle 0, .takeRemove, .eraseHandle, .handle compressedRequest, .insertHandle,
    .decompress 2, .checkSize 2, .refuse 2, .removeHandle 2]

/-- A request, a duplicate while it is executed, and a compressed one of the wrong
size after its handle was erased. -/
theorem handle_answersOnce_duplicate : ∃ s : State,
    s.sent = [⟨1, [255], [9]⟩, ⟨0, [42], [9]⟩, ⟨2, [255], [9]⟩] ∧
      AnsweredOnce [[9], [9], [9]] s := by
  have hrun : ∃ s, (client plainClient).replay KeepsGID .start answered = some s ∧
      s.sent = [⟨1, [255], [9]⟩, ⟨0, [42], [9]⟩, ⟨2, [255], [9]⟩] := ⟨_, rfl, rfl⟩
  obtain ⟨s, hs, hsent⟩ := hrun
  exact ⟨s, hsent, handle_answersOnce plainClient answered s hs⟩

/-- A compressed request of the wrong size with the gid of a ROS client. -/
private def longRequest : RclMessage :=
  ⟨251, .lz4Default, 1, ServiceActionMessage.requestWithGID.combinedVector.drop 6⟩

/-- A platform that copies the last byte first answers it with another gid. -/
theorem handle_answersOnce_moved :
    ¬ ∀ (config : Config) (labels : List Label) (s : State),
      (client config).replay (fun _ _ => True) .start labels = some s →
        AnsweredOnce (requests labels) s := by
  intro hall
  have hrun : ∃ s, (client plainClient).replay (fun _ _ => True) .start
      [.handle longRequest, .insertHandle, .decompress 0, .checkSize 0, .refuse 0] = some s ∧
      s.sent = [⟨0, [255], [12, 13, 14, 16, 12, 13, 14, 16, 12, 13, 14, 16, 12, 13, 14, 16]⟩] :=
    ⟨_, rfl, rfl⟩
  obtain ⟨s, hs, hsent⟩ := hrun
  have hgID := (hall plainClient _ s hs).gID
  rw [hsent] at hgID
  exact absurd (hgID _ (List.mem_singleton_self _)) (by decide)

end ServiceClient

end Ros2Connect
