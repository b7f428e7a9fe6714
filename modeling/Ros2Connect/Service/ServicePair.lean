import Ros2Connect.Lib.Transition
import Ros2Connect.ServiceAction.Handle

/-!
A `ServiceServer` on one node, the `ServiceClient` of the same channel on the
other and the two FIFO links between them, as a transition system. A step is
what happens under one lock or between two sends. Handles are named by the
request they were created for; the maps, as in the source, know only the gid.
The `origin` of a message and the two logs are for statements only: no step
reads them.
-/

namespace Ros2Connect

open Lib

/-- `rmw_request_id_t`. -/
structure RequestId where
  writerGuid : Bytes
  sequenceNumber : Int
  deriving Repr, DecidableEq

namespace RequestId

/-- The handle of a request carries the writer's guid as its gid. -/
def gID (request : RequestId) : Bytes := request.writerGuid

def gIDString (request : RequestId) : Bytes := ServiceActionHandle.gIDString request.gID

end RequestId

namespace Service

/-- A message between the two plugins; `origin` is the request it was sent
for. -/
structure Message extends Transfer where
  origin : RequestId
  deriving Repr, DecidableEq

/-- What the plugins of a channel fix: the sizes they accept and the response
that stands for an error; and what arrives of the data they send. -/
structure Config where
  requestSize : Nat
  requestDynamic : Bool
  responseSize : Nat
  responseDynamic : Bool
  error : Bytes
  reception : Reception

/-- A message a plugin sends for a request. -/
def Config.send (config : Config) (opCode : ServiceActionOpCode) (data : Bytes)
    (origin : RequestId) : Message :=
  ⟨.arriving config.reception opCode origin.gID data, origin⟩

/-- How far `sendAndWait` has come for a request. -/
inductive Phase where
  | idle
  | inserted
  | armed
  | waiting
  | returned
  | closed
  deriving Repr, DecidableEq

/-- A request of the local ROS client: `sendAndWait` and its handle. -/
structure Call where
  phase : Phase
  handlingGoal : Bool
  goalResponse : Option Message
  deriving Repr, DecidableEq

/-- The callback of the request sent to the local service. -/
inductive Callback where
  | unset
  | pending
  | answered
  | spent
  deriving Repr, DecidableEq

/-- `remove_pending_request` drops a callback unless an executor runs it
already. -/
def Callback.afterCancel (callbackRuns : Bool) : Callback → Callback
  | pending => if callbackRuns then pending else spent
  | callback => callback

inductive Progress where
  | absent
  | executing
  | waiting
  | finished
  deriving Repr, DecidableEq

/-- `executeHandle` and its handle on the client's node. -/
structure Execution where
  progress : Progress
  data : Option Bytes
  callback : Callback
  done : Bool
  /-- `sendAndDone` notified between the predicate and the wait. -/
  missed : Bool
  waitQueue : List Message
  deriving Repr, DecidableEq

/-- The predicate of the wait is looked at: by a thread that has not blocked yet,
or by one that the notification of a cancel has woken up. -/
def Execution.isAwake (execution : Execution) : Bool :=
  !execution.missed || !execution.waitQueue.isEmpty

structure State where
  calls : RequestId → Call
  serverHandles : KeyMap Bytes RequestId
  serverToRemove : List RequestId
  toClient : List Message
  toServer : List Message
  executions : RequestId → Execution
  clientHandles : KeyMap Bytes RequestId
  clientToRemove : List RequestId
  /-- The responses `sendAndWait` has returned. -/
  answers : List (RequestId × Message)
  /-- The executions canceled, each with the message that did it. -/
  cancels : List (RequestId × Message)

/-- Why the client answers a request with the error response. -/
inductive Refusal where
  | undecompressable
  | unexpectedSize
  | notAvailable
  | invalidData
  deriving Repr, DecidableEq

inductive Label where
  | insertHandle (request : RequestId)
  | startHandling (request : RequestId)
  | sendRequest (request : RequestId) (data : Bytes)
  | receiveResponse (request : RequestId)
  | timeout (request : RequestId)
  | serverDone (request : RequestId)
  | serverHandle
  | serverRemove
  | clientHandle
  | refuse (request : RequestId) (refusal : Refusal)
  | asyncSendRequest (request : RequestId)
  | sendResponse (request : RequestId) (data : Bytes)
  /-- `sendAndDone` sets `done` without the mutex of the wait and notifies. -/
  | markDone (request : RequestId) (missed : Bool)
  | finish (request : RequestId)
  /-- A spurious wakeup of a wait that is over. -/
  | wake (request : RequestId)
  | cancel (request : RequestId) (callbackRuns : Bool)
  | clientRemove
  deriving Repr, DecidableEq

namespace State

def start : State where
  calls := fun _ => ⟨.idle, false, none⟩
  serverHandles := KeyMap.empty
  serverToRemove := []
  toClient := []
  toServer := []
  executions := fun _ => ⟨.absent, none, .unset, false, false, []⟩
  clientHandles := KeyMap.empty
  clientToRemove := []
  answers := []
  cancels := []

def setCall (s : State) (request : RequestId) (call : Call) : State :=
  { s with calls := Function.update s.calls request call }

def setExecution (s : State) (request : RequestId) (execution : Execution) : State :=
  { s with executions := Function.update s.executions request execution }

end State

/-- Whether data passes a size check. -/
def sizeFits (expectedSize : Nat) (dynamicSize : Bool) (data : Bytes) : Bool :=
  dynamicSize || data.length == expectedSize

/-- `ServiceServer::handle` of the next message of the link. -/
def serverHandle (s : State) : State :=
  match s.toServer with
  | [] => s
  | message :: rest =>
      let popped := { s with toServer := rest }
      if message.opCode ≠ .serviceToServer then popped
      else match s.serverHandles (ServiceActionHandle.gIDString message.gID) with
      | none => popped
      | some owner =>
          if (s.calls owner).handlingGoal then
            popped.setCall owner { s.calls owner with goalResponse := some message }
          else popped

/-- `ServiceClient::handle` of the next message of the link. -/
def clientHandle (config : Config) (s : State) : State :=
  match s.toClient with
  | [] => s
  | message :: rest =>
      let popped := { s with toClient := rest }
      let known := s.clientHandles (ServiceActionHandle.gIDString message.gID)
      if message.opCode = .serviceToClient then
        match known with
        | some _ =>
            { popped with
              toServer := s.toServer ++
                [⟨.arriving config.reception .serviceToServer message.gID config.error,
                  message.origin⟩] }
        | none =>
            { popped.setExecution message.origin
                ⟨.executing, message.data, .unset, false, false, []⟩ with
              clientHandles :=
                s.clientHandles.insert message.origin.gIDString message.origin }
      else if message.opCode = .serviceToClientCancel then
        match known with
        | none => popped
        | some owner =>
            popped.setExecution owner { s.executions owner with
              waitQueue := (s.executions owner).waitQueue ++ [message] }
      else popped

/-- The end of `sendAndWait` for a call that waits: a response that cannot be
decompressed or has the wrong size is dropped together with the handle. -/
def receiveResponse (config : Config) (s : State) (request : RequestId) : State :=
  match (s.calls request).goalResponse with
  | none => s
  | some message =>
      if message.data.any (sizeFits config.responseSize config.responseDynamic) then
        { s.setCall request { s.calls request with
            phase := .returned, handlingGoal := false } with
          answers := s.answers ++ [(request, message)] }
      else
        { s.setCall request { s.calls request with
            phase := .closed, handlingGoal := false } with
          serverToRemove := s.serverToRemove ++ [request] }

/-- The end of `executeHandle`: the handle is queued for removal. -/
def endExecution (s : State) (request : RequestId) (execution : Execution) : State :=
  { s.setExecution request { execution with progress := .finished } with
    clientToRemove := s.clientToRemove ++ [request] }

/-- The reason for which `executeHandle` refuses what was received; whether the
local service is there and takes the data is not up to the program. -/
def Refusal.applies (config : Config) (data : Option Bytes) : Refusal → Bool
  | .undecompressable => data.isNone
  | .unexpectedSize =>
      data.any fun data => !sizeFits config.requestSize config.requestDynamic data
  | .notAvailable | .invalidData =>
      data.any (sizeFits config.requestSize config.requestDynamic)

def enabled (config : Config) (s : State) : Label → Bool
  | .insertHandle request => (s.calls request).phase == .idle
  | .startHandling request => (s.calls request).phase == .inserted
  | .sendRequest request _ => (s.calls request).phase == .armed
  | .receiveResponse request =>
      (s.calls request).phase == .waiting && (s.calls request).goalResponse.isSome
  | .timeout request =>
      (s.calls request).phase == .waiting && (s.calls request).goalResponse.isNone
  | .serverDone request => (s.calls request).phase == .returned
  | .serverHandle => !s.toServer.isEmpty
  | .serverRemove => !s.serverToRemove.isEmpty
  | .clientHandle => !s.toClient.isEmpty
  | .refuse request refusal =>
      (s.executions request).progress == .executing &&
        refusal.applies config (s.executions request).data
  | .asyncSendRequest request =>
      (s.executions request).progress == .executing &&
        (s.executions request).data.any (sizeFits config.requestSize config.requestDynamic)
  | .sendResponse request _ => (s.executions request).callback == .pending
  | .markDone request missed =>
      (s.executions request).callback == .answered &&
        (!missed || (s.executions request).progress == .waiting &&
          (s.executions request).waitQueue.isEmpty)
  | .finish request =>
      (s.executions request).progress == .waiting && (s.executions request).done &&
        (s.executions request).isAwake
  | .wake request =>
      (s.executions request).progress == .waiting && (s.executions request).done
  | .cancel request _ =>
      (s.executions request).progress == .waiting && !(s.executions request).done &&
        !(s.executions request).waitQueue.isEmpty
  | .clientRemove =>
      s.clientToRemove.head?.any fun request =>
        (s.executions request).progress == .finished

def next (config : Config) (s : State) : Label → State
  | .insertHandle request =>
      { s.setCall request { s.calls request with phase := .inserted } with
        serverHandles := s.serverHandles.insert request.gIDString request }
  | .startHandling request =>
      s.setCall request ⟨.armed, true, none⟩
  | .sendRequest request data =>
      { s.setCall request { s.calls request with phase := .waiting } with
        toClient := s.toClient ++ [config.send .serviceToClient data request] }
  | .receiveResponse request => receiveResponse config s request
  | .timeout request =>
      { s.setCall request { s.calls request with
          phase := .closed, handlingGoal := false } with
        toClient := s.toClient ++ [config.send .serviceToClientCancel [] request]
        serverToRemove := s.serverToRemove ++ [request] }
  | .serverDone request =>
      { s.setCall request { s.calls request with
          phase := .closed, handlingGoal := false } with
        serverToRemove := s.serverToRemove ++ [request] }
  | .serverHandle => serverHandle s
  | .serverRemove =>
      match s.serverToRemove with
      | [] => s
      | request :: rest =>
          { s with
            serverToRemove := rest
            serverHandles := s.serverHandles.erase request.gIDString }
  | .clientHandle => clientHandle config s
  | .refuse request _ =>
      { endExecution s request (s.executions request) with
        toServer := s.toServer ++ [config.send .serviceToServer config.error request] }
  | .asyncSendRequest request =>
      s.setExecution request { s.executions request with
        progress := .waiting, callback := .pending }
  | .sendResponse request data =>
      { s.setExecution request { s.executions request with callback := .answered } with
        toServer := s.toServer ++ [config.send .serviceToServer data request] }
  | .markDone request missed =>
      s.setExecution request { s.executions request with
        callback := .spent, done := true, missed := missed }
  | .finish request | .wake request => endExecution s request (s.executions request)
  | .cancel request callbackRuns =>
      let canceled := endExecution s request { s.executions request with
        callback := (s.executions request).callback.afterCancel callbackRuns, done := true }
      match (s.executions request).waitQueue with
      | [] => canceled
      | message :: _ => { canceled with cancels := s.cancels ++ [(request, message)] }
  | .clientRemove =>
      match s.clientToRemove with
      | [] => s
      | request :: rest =>
          { s with
            clientToRemove := rest
            clientHandles := s.clientHandles.erase request.gIDString }

/-- The service server and client of one channel. -/
def pair (config : Config) : Machine State Label where
  start := .start
  enabled := enabled config
  next := next config

end Service

end Ros2Connect
