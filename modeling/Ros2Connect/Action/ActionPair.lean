import Ros2Connect.Lib.Transition
import Ros2Connect.ServiceAction.Handle

/-!
An `ActionServer` on one node, the `ActionClient` of the same channel on the
other and the two FIFO links between them, as a transition system. A step is
what happens under one lock or between two sends. A goal id names the goal's
handle on either node; the maps are keyed by its bytes, as in the source.
`calls`, `emitted` and `verdicts` log what the plugins did and are read by no
step.
-/

namespace Ros2Connect

open Lib

/-- `rclcpp_action::GoalUUID`. -/
structure GoalUUID where
  bytes : Bytes
  size : bytes.length = 16
  deriving DecidableEq

namespace GoalUUID

@[ext] theorem ext {g other : GoalUUID} (h : g.bytes = other.bytes) : g = other := by
  cases g
  cases other
  simpa using h

def gIDString (g : GoalUUID) : Bytes := ServiceActionHandle.gIDString g.bytes

theorem gIDString_inj {g other : GoalUUID} : g.gIDString = other.gIDString ↔ g = other :=
  ServiceActionHandle.gIDString_inj.trans ⟨ext, congrArg bytes⟩

end GoalUUID

namespace Action

/-- What the plugins of a channel fix: the goal size they accept, and what
arrives of the data they send. -/
structure Config where
  expectedSize : Nat
  dynamicSize : Bool
  reception : Reception

/-- What the client's plugin emits for a goal. -/
inductive Emission where
  | feedback
  | resultSucceeded
  | resultCanceled
  | resultAborted
  deriving Repr, DecidableEq

/-- The calls `executeAccepted` makes on a goal handle. -/
inductive PluginCall where
  | feedback
  | succeed
  | cancel
  | abort
  deriving Repr, DecidableEq

namespace Emission

def opCode : Emission → ServiceActionOpCode
  | feedback => .actionToServerFeedback
  | resultSucceeded => .actionToServerResultSucceeded
  | resultCanceled => .actionToServerResultCanceled
  | resultAborted => .actionToServerResultAborted

/-- The call of the matching kind. -/
def call : Emission → PluginCall
  | feedback => .feedback
  | resultSucceeded => .succeed
  | resultCanceled => .cancel
  | resultAborted => .abort

def isResult (emission : Emission) : Bool := emission != feedback

end Emission

/-- The call the op-code of a message of the wait queue leads to. -/
def PluginCall.ofOpCode? : ServiceActionOpCode → Option PluginCall
  | .actionToServerFeedback => some feedback
  | .actionToServerResultSucceeded => some succeed
  | .actionToServerResultCanceled => some cancel
  | .actionToServerResultAborted | .actionToServerResultUnknown => some abort
  | _ => none

/-- How far `sendGoalAndWait` has come; `returned true` is
`ACCEPT_AND_EXECUTE`. -/
inductive Phase where
  | idle
  | inserted
  | armed
  | waiting
  | returned (accept : Bool)
  deriving Repr, DecidableEq

inductive ThreadState where
  | absent
  | running
  | finished
  deriving Repr, DecidableEq

/-- A goal on the server's node: the calls rclcpp makes for it and its handle.
`executeAccepted` sets the handle's `done` right before it returns, so the
thread's end stands for it. The three counters are the calls of
`sendCancelAndWait` that have found the handle, armed it, and wait. -/
structure Goal where
  phase : Phase
  handlingGoal : Bool
  goalResponse : Option Transfer
  accepted : Option Bool
  handlingWait : Bool
  thread : ThreadState
  waitQueue : List Transfer
  handlingCancel : Bool
  cancelResponse : Option Transfer
  cancelsFound : Nat
  cancelsArmed : Nat
  cancelsWaiting : Nat
  deriving Repr, DecidableEq

/-- A callback of the client's plugin that has sent its message and has yet to
set the flags of the handle. -/
inductive Settling where
  | goalAccepted
  | goalRejected
  | cancelAccepted
  | cancelRejected
  | result
  deriving Repr, DecidableEq

/-- `executeHandle` and its handle on the client's node; `goalPending` and
`cancelsPending` are the responses the local action has yet to call back. -/
structure Execution where
  thread : ThreadState
  waitQueue : List Transfer
  handlingGoal : Bool
  handlingCancel : Bool
  done : Bool
  goalSent : Bool
  goalPending : Bool
  cancelsPending : Nat
  settling : List Settling
  deriving Repr, DecidableEq

/-- What the client's node decided about a goal. -/
inductive Verdict where
  | accepted
  | rejected
  | refused
  deriving Repr, DecidableEq

structure State where
  goals : GoalUUID → Goal
  serverHandles : KeyMap Bytes GoalUUID
  serverToRemove : List GoalUUID
  toClient : List Transfer
  toServer : List Transfer
  executions : GoalUUID → Execution
  clientHandles : KeyMap Bytes GoalUUID
  clientToRemove : List GoalUUID
  calls : GoalUUID → List (PluginCall × Bytes)
  emitted : GoalUUID → List (Emission × Bytes)
  verdicts : GoalUUID → List Verdict

inductive Label where
  | insertHandle (g : GoalUUID)
  | startHandling (g : GoalUUID)
  | sendGoal (g : GoalUUID) (data : Bytes)
  | receiveGoalResponse (g : GoalUUID)
  | goalTimeout (g : GoalUUID)
  | handleAccepted (g : GoalUUID)
  | executeAccepted (g : GoalUUID)
  | findCancel (g : GoalUUID)
  | startCancel (g : GoalUUID)
  | sendCancel (g : GoalUUID)
  | receiveCancelResponse (g : GoalUUID)
  | cancelTimeout (g : GoalUUID)
  | serverHandle
  | serverRemove
  | clientHandle
  | executeHandle (g : GoalUUID) (available : Bool)
  | goalAccepted (g : GoalUUID)
  | goalRejected (g : GoalUUID)
  | cancelAccepted (g : GoalUUID)
  | cancelRejected (g : GoalUUID)
  | emit (g : GoalUUID) (emission : Emission) (data : Bytes)
  | settle (g : GoalUUID) (settling : Settling)
  | clientRemove
  deriving DecidableEq

namespace State

def start : State where
  goals := fun _ => ⟨.idle, false, none, none, false, .absent, [], false, none, 0, 0, 0⟩
  serverHandles := KeyMap.empty
  serverToRemove := []
  toClient := []
  toServer := []
  executions := fun _ => ⟨.absent, [], false, false, false, false, false, 0, []⟩
  clientHandles := KeyMap.empty
  clientToRemove := []
  calls := fun _ => []
  emitted := fun _ => []
  verdicts := fun _ => []

def setGoal (s : State) (g : GoalUUID) (goal : Goal) : State :=
  { s with goals := Function.update s.goals g goal }

def setExecution (s : State) (g : GoalUUID) (execution : Execution) : State :=
  { s with executions := Function.update s.executions g execution }

def sendToClient (s : State) (config : Config) (opCode : ServiceActionOpCode)
    (g : GoalUUID) (data : Bytes) : State :=
  { s with toClient := s.toClient ++ [.arriving config.reception opCode g.bytes data] }

def sendToServer (s : State) (config : Config) (opCode : ServiceActionOpCode)
    (g : GoalUUID) (data : Bytes) : State :=
  { s with toServer := s.toServer ++ [.arriving config.reception opCode g.bytes data] }

/-- `removeHandle` on the server's node. -/
def serverQueueRemoval (s : State) (g : GoalUUID) : State :=
  { s with serverToRemove := s.serverToRemove ++ [g] }

def logVerdict (s : State) (g : GoalUUID) (verdict : Verdict) : State :=
  { s with verdicts := Function.update s.verdicts g (s.verdicts g ++ [verdict]) }

end State

/-- `ActionServer::handle` of the next message of the link. -/
def serverHandle (s : State) : State :=
  match s.toServer with
  | [] => s
  | message :: rest =>
      let popped := { s with toServer := rest }
      match s.serverHandles (ServiceActionHandle.gIDString message.gID) with
      | none => popped
      | some g =>
          if message.opCode = .actionToServerGoalReject ∨
              message.opCode = .actionToServerGoalAccept then
            if (s.goals g).handlingGoal then
              popped.setGoal g { s.goals g with goalResponse := some message }
            else popped
          else if message.opCode = .actionToServerCancelAccept ∨
              message.opCode = .actionToServerCancelReject then
            if (s.goals g).handlingCancel then
              popped.setGoal g { s.goals g with cancelResponse := some message }
            else popped
          else
            popped.setGoal g { s.goals g with
              waitQueue := (s.goals g).waitQueue ++ [message] }

/-- The end of `sendGoalAndWait` for a goal that has a response. -/
def receiveGoalResponse (s : State) (g : GoalUUID) : State :=
  match (s.goals g).goalResponse with
  | none => s
  | some message =>
      if message.opCode = .actionToServerGoalAccept then
        s.setGoal g { s.goals g with phase := .returned true, handlingGoal := false }
      else
        (s.setGoal g { s.goals g with
          phase := .returned false, handlingGoal := false }).serverQueueRemoval g

def handleAccepted (config : Config) (s : State) (g : GoalUUID) : State :=
  let failed := s.setGoal g { s.goals g with accepted := some false }
  match s.serverHandles g.gIDString with
  | none => failed.sendToClient config .actionToClientCancel g []
  | some owner =>
      if (s.goals owner).thread = .absent then
        let called := s.setGoal g { s.goals g with accepted := some true }
        called.setGoal owner { called.goals owner with
          handlingWait := true, thread := .running }
      else
        (failed.sendToClient config .actionToClientCancel owner []).serverQueueRemoval owner

/-- The end of `executeAccepted`. -/
def endAccepted (s : State) (g : GoalUUID) (goal : Goal) : State :=
  (s.setGoal g { goal with handlingWait := false, thread := .finished }).serverQueueRemoval g

/-- A call on the goal handle of a goal; any but feedback ends the thread. -/
def callPlugin (s : State) (g : GoalUUID) (goal : Goal) (call : PluginCall)
    (data : Bytes) : State :=
  let called := { s with calls := Function.update s.calls g (s.calls g ++ [(call, data)]) }
  if call = .feedback then called.setGoal g goal else endAccepted called g goal

/-- One turn of the loop of `executeAccepted`. A result that cannot be
decompressed aborts the goal. -/
def executeAccepted (s : State) (g : GoalUUID) : State :=
  match (s.goals g).waitQueue with
  | [] => s
  | message :: rest =>
      let goal := { s.goals g with waitQueue := rest }
      match PluginCall.ofOpCode? message.opCode, message.data with
      | none, _ => s.setGoal g goal
      | some .feedback, none => s.setGoal g goal
      | some _, none => callPlugin s g goal .abort []
      | some call, some data => callPlugin s g goal call data

/-- The end of `sendCancelAndWait` for a call that waits. -/
def endCancel (s : State) (g : GoalUUID) (accept : Bool) : State :=
  let ended := s.setGoal g { s.goals g with
    handlingCancel := false, cancelsWaiting := (s.goals g).cancelsWaiting - 1 }
  if accept ∧ (s.goals g).handlingWait = false then ended.serverQueueRemoval g else ended

/-- `ActionClient::handle` of the next message of the link. The handle that is
created is the one of the goal the message names. -/
def clientHandle (config : Config) (s : State) : State :=
  match s.toClient with
  | [] => s
  | message :: rest =>
      let popped := { s with toClient := rest }
      let reject := { popped with
        toServer := s.toServer ++
          [.arriving config.reception .actionToServerGoalReject message.gID []] }
      let known := s.clientHandles (ServiceActionHandle.gIDString message.gID)
      if message.opCode = .actionToClientGoal then
        match known with
        | some _ => reject
        | none =>
            if size : message.gID.length = 16 then
              { popped.setExecution ⟨message.gID, size⟩
                  ⟨.running, [message], false, false, false, false, false, 0, []⟩ with
                clientHandles := s.clientHandles.insert
                  (ServiceActionHandle.gIDString message.gID) ⟨message.gID, size⟩ }
            else popped
      else if message.opCode = .actionToClientCancel then
        match known with
        | none => reject
        | some g =>
            popped.setExecution g { s.executions g with
              waitQueue := (s.executions g).waitQueue ++ [message] }
      else popped

/-- `executeGoal`: the goal is refused, or passed on to the local action. -/
def executeGoal (config : Config) (s : State) (g : GoalUUID) (execution : Execution)
    (message : Transfer) (available : Bool) : State :=
  if message.data.any (fun data => config.dynamicSize || data.length == config.expectedSize) &&
      available then
    s.setExecution g { execution with
      handlingGoal := true, goalSent := true, goalPending := true }
  else
    ((s.setExecution g { execution with handlingGoal := false, done := true }).sendToServer
      config .actionToServerGoalReject g []).logVerdict g .refused

/-- One turn of the loop of `executeHandle`; `available` is what `waitForAction`
returns. A cancel waits until the goal is accepted or rejected. -/
def executeHandle (config : Config) (s : State) (g : GoalUUID) (available : Bool) : State :=
  let execution := s.executions g
  if execution.done then
    { s.setExecution g { execution with thread := .finished } with
      clientToRemove := s.clientToRemove ++ [g] }
  else match execution.waitQueue with
    | [] => s
    | message :: rest =>
        let popped := { execution with waitQueue := rest }
        if message.opCode = .actionToClientGoal then
          if execution.handlingGoal || execution.handlingCancel then s.setExecution g popped
          else executeGoal config s g popped message available
        else if message.opCode = .actionToClientCancel then
          if execution.handlingGoal then
            s.setExecution g { popped with waitQueue := rest ++ [message] }
          else if execution.handlingCancel then s.setExecution g popped
          else
            s.setExecution g { popped with
              handlingCancel := true, cancelsPending := execution.cancelsPending + 1 }
        else s.setExecution g popped

/-- The flags a callback sets once its message is sent. -/
def Settling.flags : Settling → Execution → Execution
  | goalAccepted, execution => { execution with handlingGoal := false }
  | goalRejected, execution => { execution with done := true, handlingGoal := false }
  | cancelAccepted, execution => { execution with done := true, handlingCancel := false }
  | cancelRejected, execution => { execution with handlingCancel := false }
  | result, execution => { execution with done := true }

@[simp] theorem Settling.flags_waitQueue (settling : Settling)
    (execution : Execution) : (settling.flags execution).waitQueue = execution.waitQueue := by
  cases settling <;> rfl

@[simp] theorem Settling.flags_goalSent (settling : Settling)
    (execution : Execution) : (settling.flags execution).goalSent = execution.goalSent := by
  cases settling <;> rfl

@[simp] theorem Settling.flags_goalPending (settling : Settling)
    (execution : Execution) :
    (settling.flags execution).goalPending = execution.goalPending := by
  cases settling <;> rfl

/-- A callback of the client's plugin: it sends and then sets flags. -/
def callback (config : Config) (s : State) (g : GoalUUID) (execution : Execution)
    (opCode : ServiceActionOpCode) (data : Bytes) (settling : List Settling) : State :=
  (s.setExecution g { execution with
    settling := execution.settling ++ settling }).sendToServer config opCode g data

def enabled (s : State) : Label → Bool
  | .insertHandle g => (s.goals g).phase == .idle
  | .startHandling g => (s.goals g).phase == .inserted
  | .sendGoal g _ => (s.goals g).phase == .armed
  | .receiveGoalResponse g =>
      (s.goals g).phase == .waiting && (s.goals g).goalResponse.isSome
  | .goalTimeout g => (s.goals g).phase == .waiting && (s.goals g).goalResponse.isNone
  | .handleAccepted g =>
      (s.goals g).phase == .returned true && (s.goals g).accepted.isNone
  | .executeAccepted g =>
      (s.goals g).thread == .running && !(s.goals g).waitQueue.isEmpty
  | .findCancel _ => true
  | .startCancel g => (s.goals g).cancelsFound != 0
  | .sendCancel g => (s.goals g).cancelsArmed != 0
  | .receiveCancelResponse g =>
      (s.goals g).cancelsWaiting != 0 && (s.goals g).cancelResponse.isSome
  | .cancelTimeout g =>
      (s.goals g).cancelsWaiting != 0 && (s.goals g).cancelResponse.isNone
  | .serverHandle => !s.toServer.isEmpty
  | .serverRemove =>
      s.serverToRemove.head?.any fun g => (s.goals g).thread != .running
  | .clientHandle => !s.toClient.isEmpty
  | .executeHandle g _ =>
      (s.executions g).thread == .running &&
        (!(s.executions g).waitQueue.isEmpty || (s.executions g).done)
  | .goalAccepted g => (s.executions g).goalPending
  | .goalRejected g => (s.executions g).goalPending
  | .cancelAccepted g => (s.executions g).cancelsPending != 0
  | .cancelRejected g => (s.executions g).cancelsPending != 0
  | .emit g _ _ => (s.executions g).goalSent
  | .settle g settling => (s.executions g).settling.contains settling
  | .clientRemove =>
      s.clientToRemove.head?.any fun g => (s.executions g).thread == .finished

def next (config : Config) (s : State) : Label → State
  | .insertHandle g =>
      { s.setGoal g { s.goals g with phase := .inserted } with
        serverHandles := s.serverHandles.insert g.gIDString g }
  | .startHandling g =>
      s.setGoal g { s.goals g with
        phase := .armed, goalResponse := none, handlingGoal := true }
  | .sendGoal g data =>
      (s.setGoal g { s.goals g with phase := .waiting }).sendToClient config
        .actionToClientGoal g data
  | .receiveGoalResponse g => receiveGoalResponse s g
  | .goalTimeout g =>
      ((s.setGoal g { s.goals g with
        phase := .returned false, handlingGoal := false }).sendToClient config
          .actionToClientCancel g []).serverQueueRemoval g
  | .handleAccepted g => handleAccepted config s g
  | .executeAccepted g => executeAccepted s g
  | .findCancel g =>
      match s.serverHandles g.gIDString with
      | none => s
      | some owner =>
          s.setGoal owner { s.goals owner with
            cancelsFound := (s.goals owner).cancelsFound + 1 }
  | .startCancel g =>
      s.setGoal g { s.goals g with
        cancelResponse := none
        handlingCancel := true
        cancelsFound := (s.goals g).cancelsFound - 1
        cancelsArmed := (s.goals g).cancelsArmed + 1 }
  | .sendCancel g =>
      (s.setGoal g { s.goals g with
        cancelsArmed := (s.goals g).cancelsArmed - 1
        cancelsWaiting := (s.goals g).cancelsWaiting + 1 }).sendToClient config
          .actionToClientCancel g []
  | .receiveCancelResponse g =>
      endCancel s g ((s.goals g).cancelResponse.any fun message =>
        message.opCode == .actionToServerCancelAccept)
  | .cancelTimeout g => endCancel s g false
  | .serverHandle => serverHandle s
  | .serverRemove =>
      match s.serverToRemove with
      | [] => s
      | g :: rest =>
          { s with
            serverToRemove := rest
            serverHandles := s.serverHandles.erase g.gIDString }
  | .clientHandle => clientHandle config s
  | .executeHandle g available => executeHandle config s g available
  | .goalAccepted g =>
      (callback config s g { s.executions g with goalPending := false }
        .actionToServerGoalAccept [] [.goalAccepted]).logVerdict g .accepted
  | .goalRejected g =>
      (callback config s g { s.executions g with goalPending := false }
        .actionToServerGoalAccept [] [.goalRejected]).logVerdict g .rejected
  | .cancelAccepted g =>
      callback config s g { s.executions g with
        cancelsPending := (s.executions g).cancelsPending - 1 }
        .actionToServerCancelAccept [] [.cancelAccepted]
  | .cancelRejected g =>
      callback config s g { s.executions g with
        cancelsPending := (s.executions g).cancelsPending - 1 }
        .actionToServerCancelReject [] [.cancelRejected]
  | .emit g emission data =>
      let sent := callback config s g (s.executions g) emission.opCode data
        (if emission.isResult then [.result] else [])
      { sent with emitted := Function.update s.emitted g (s.emitted g ++ [(emission, data)]) }
  | .settle g settling =>
      s.setExecution g (settling.flags { s.executions g with
        settling := (s.executions g).settling.erase settling })
  | .clientRemove =>
      match s.clientToRemove with
      | [] => s
      | g :: rest =>
          { s with
            clientToRemove := rest
            clientHandles := s.clientHandles.erase g.gIDString }

/-- The action server and client of one channel. -/
def pair (config : Config) : Machine State Label where
  start := .start
  enabled := enabled
  next := next config

end Action

end Ros2Connect
