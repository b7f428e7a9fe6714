import Ros2Connect.Action.ActionPair

/-!
An `ActionClient` that is not stopping, with any messages from the other node. A
step is `handle` of a message, which may arrive at any time, a part of
`executeHandle` for one handle, one store of a callback of the plugin, or a part
of the removal thread. Handles are numbered as they are created, since gids may
come again. A message is numbered as it is received; the numbers, `received` and
the logs of a handle are read by no step.
-/

namespace Ros2Connect

open Lib

namespace ActionClient

/-- The goal size the plugin accepts. -/
structure Config where
  expectedSize : Nat
  dynamicSize : Bool

structure Message extends Transfer where
  number : Nat
  deriving Repr, DecidableEq

/-- The stores of a callback. -/
inductive Flag where
  | setDone
  | clearHandlingGoal
  | clearHandlingCancel
  deriving Repr, DecidableEq

/-- The callbacks the plugin may call whenever it likes. -/
inductive Callback where
  | goalAccepted
  | goalRejected
  | resultSucceeded (data : Bytes)
  | resultCanceled (data : Bytes)
  | resultAborted (data : Bytes)
  | feedback (data : Bytes)
  deriving Repr, DecidableEq

namespace Callback

def opCode : Callback → ServiceActionOpCode
  | goalAccepted | goalRejected => .actionToServerGoalAccept
  | resultSucceeded _ => .actionToServerResultSucceeded
  | resultCanceled _ => .actionToServerResultCanceled
  | resultAborted _ => .actionToServerResultAborted
  | feedback _ => .actionToServerFeedback

def data : Callback → Bytes
  | goalAccepted | goalRejected => []
  | resultSucceeded data | resultCanceled data | resultAborted data | feedback data => data

/-- What is stored after the message was sent. -/
def flags : Callback → List Flag
  | goalAccepted => [.clearHandlingGoal]
  | goalRejected => [.setDone, .clearHandlingGoal]
  | resultSucceeded _ | resultCanceled _ | resultAborted _ => [.setDone]
  | feedback _ => []

end Callback

/-- The two callbacks one of which `asyncCancelGoal` leads to. -/
inductive CancelCallback where
  | cancelAccepted
  | cancelRejected
  deriving Repr, DecidableEq

namespace CancelCallback

def opCode : CancelCallback → ServiceActionOpCode
  | cancelAccepted => .actionToServerCancelAccept
  | cancelRejected => .actionToServerCancelReject

def flags : CancelCallback → List Flag
  | cancelAccepted => [.setDone, .clearHandlingCancel]
  | cancelRejected => [.clearHandlingCancel]

end CancelCallback

/-- A message sent with the gid of a handle; `answers` is the cancel whose
handling led to it. -/
structure Sent where
  opCode : ServiceActionOpCode
  data : Bytes
  answers : Option Nat
  deriving Repr, DecidableEq

/-- Where the thread of a handle is. -/
inductive Turn where
  | waiting
  | processing (message : Message)
  | executingGoal (message : Message)
  | returned
  deriving Repr, DecidableEq

structure Handle where
  gID : Bytes
  turn : Turn
  waitQueue : List Message
  handlingGoal : Bool
  handlingCancel : Bool
  done : Bool
  /-- The cancel `asyncCancelGoal` was called for and no callback yet. -/
  cancelling : Option Nat
  /-- The stores that callbacks in progress have yet to make. -/
  settling : List (List Flag)
  sent : List Sent
  /-- The cancels put into the queue. -/
  queued : List Nat
  /-- The cancels dropped while another one was handled. -/
  dropped : List Nat
  deriving Repr, DecidableEq

def Flag.set : Flag → Handle → Handle
  | setDone, handle => { handle with done := true }
  | clearHandlingGoal, handle => { handle with handlingGoal := false }
  | clearHandlingCancel, handle => { handle with handlingCancel := false }

namespace Handle

/-- A handle with the goal it was created for. -/
def create (message : Message) : Handle where
  gID := message.gID
  turn := .waiting
  waitQueue := [message]
  handlingGoal := false
  handlingCancel := false
  done := false
  cancelling := none
  settling := []
  sent := []
  queued := []
  dropped := []

/-- `handle` stores a cancel. -/
def push (handle : Handle) (message : Message) : Handle :=
  { handle with
    waitQueue := handle.waitQueue ++ [message]
    queued := handle.queued ++ [message.number] }

def send (handle : Handle) (opCode : ServiceActionOpCode) (data : Bytes) (answers : Option Nat) :
    Handle :=
  { handle with sent := handle.sent ++ [⟨opCode, data, answers⟩] }

/-- `executeHandle` has been woken: it ends, or takes the next message. -/
def wake (handle : Handle) : Handle :=
  if handle.done then { handle with turn := .returned }
  else match handle.waitQueue with
    | [] => handle
    | message :: rest => { handle with turn := .processing message, waitQueue := rest }

def executeCancel (handle : Handle) (message : Message) : Handle :=
  { handle with
    turn := .waiting
    handlingCancel := true
    cancelling := some message.number }

/-- The `switch` of `executeHandle`. -/
def process (handle : Handle) : Handle :=
  match handle.turn with
  | .processing message =>
      if message.opCode = .actionToClientGoal then
        if handle.handlingGoal || handle.handlingCancel then { handle with turn := .waiting }
        else { handle with turn := .executingGoal message, handlingGoal := true }
      else if message.opCode = .actionToClientCancel then
        if handle.handlingGoal then
          { handle with turn := .waiting, waitQueue := handle.waitQueue ++ [message] }
        else if handle.handlingCancel then
          { handle with turn := .waiting, dropped := handle.dropped ++ [message.number] }
        else handle.executeCancel message
      else { handle with turn := .waiting }
  | .waiting | .executingGoal _ | .returned => handle

/-- `executeGoal`; `available` is what `waitForAction` returns. Data that cannot
be decompressed is absent. -/
def executeGoal (config : Config) (available : Bool) (handle : Handle) : Handle :=
  match handle.turn with
  | .executingGoal message =>
      if message.data.any (fun data => config.dynamicSize || data.length == config.expectedSize) &&
          available then
        { handle with turn := .waiting }
      else
        { handle.send .actionToServerGoalReject [] none with
          turn := .waiting, handlingGoal := false, done := true }
  | .waiting | .processing _ | .returned => handle

def callback (handle : Handle) (callback : Callback) : Handle :=
  { handle.send callback.opCode callback.data none with
    settling := callback.flags :: handle.settling }

def cancelCallback (handle : Handle) (callback : CancelCallback) : Handle :=
  { handle.send callback.opCode [] handle.cancelling with
    cancelling := none
    settling := callback.flags :: handle.settling }

/-- A callback in progress makes its next store. -/
def setFlag (handle : Handle) (flag : Flag) (rest : List Flag) : Handle :=
  flag.set { handle with settling := rest :: handle.settling.erase (flag :: rest) }

end Handle

structure State where
  objects : Nat → Handle
  created : Nat
  handles : KeyMap Bytes Nat
  toRemove : List Nat
  /-- The handle the removal thread has taken. -/
  removing : Option Nat
  /-- What was received, with the handle it created or was queued for. -/
  received : List (Transfer × Option Nat)
  /-- What `handle` itself has sent: op-code and gid. -/
  replies : List (ServiceActionOpCode × Bytes)

inductive Label where
  | handle (transfer : Transfer)
  | wake (handle : Nat)
  | process (handle : Nat)
  | executeGoal (handle : Nat) (available : Bool)
  | callback (handle : Nat) (callback : Callback)
  | cancelCallback (handle : Nat) (callback : CancelCallback)
  | setFlag (handle : Nat) (flag : Flag) (rest : List Flag)
  | takeRemove
  | eraseHandle
  deriving Repr, DecidableEq

namespace State

def start : State where
  objects := fun _ => Handle.create ⟨⟨.actionToClientGoal, [], none⟩, 0⟩
  created := 0
  handles := KeyMap.empty
  toRemove := []
  removing := none
  received := []
  replies := []

def setObject (s : State) (handle : Nat) (object : Handle) : State :=
  { s with objects := Function.update s.objects handle object }

/-- A message that leads to no handle. -/
def log (s : State) (transfer : Transfer) : State :=
  { s with received := s.received ++ [(transfer, none)] }

def reject (s : State) (transfer : Transfer) : State :=
  { s.log transfer with
    replies := s.replies ++ [(.actionToServerGoalReject, transfer.gID)] }

def createHandle (s : State) (transfer : Transfer) : State :=
  { s.setObject s.created (Handle.create ⟨transfer, s.received.length⟩) with
    created := s.created + 1
    handles := s.handles.insert (ServiceActionHandle.gIDString transfer.gID) s.created
    received := s.received ++ [(transfer, some s.created)] }

def queueCancel (s : State) (transfer : Transfer) (handle : Nat) : State :=
  { s.setObject handle ((s.objects handle).push ⟨transfer, s.received.length⟩) with
    received := s.received ++ [(transfer, some handle)] }

def handle (s : State) (transfer : Transfer) : State :=
  let found := s.handles (ServiceActionHandle.gIDString transfer.gID)
  if transfer.opCode = .actionToClientGoal then
    match found with
    | some _ => s.reject transfer
    | none => s.createHandle transfer
  else if transfer.opCode = .actionToClientCancel then
    match found with
    | none => s.reject transfer
    | some handle => s.queueCancel transfer handle
  else s.log transfer

/-- A thread that ends queues its handle for removal. -/
def wake (s : State) (handle : Nat) : State :=
  { s.setObject handle (s.objects handle).wake with
    toRemove := if (s.objects handle).done then s.toRemove ++ [handle] else s.toRemove }

/-- `executeRemove` takes the next handle. -/
def takeRemove (s : State) : State :=
  match s.toRemove with
  | [] => s
  | handle :: rest => { s with toRemove := rest, removing := some handle }

/-- `executeRemove` has joined the thread. -/
def eraseHandle (s : State) : State :=
  match s.removing with
  | none => s
  | some handle =>
      { s with
        removing := none
        handles := s.handles.erase (ServiceActionHandle.gIDString (s.objects handle).gID) }

end State

/-- The plugin calls back for a handle that was created, and once for every
`asyncCancelGoal`. -/
def enabled (s : State) : Label → Bool
  | .handle _ => true
  | .wake handle => decide (handle < s.created) && (s.objects handle).turn == .waiting &&
      (!(s.objects handle).waitQueue.isEmpty || (s.objects handle).done)
  | .process handle | .executeGoal handle _ | .callback handle _ => decide (handle < s.created)
  | .cancelCallback handle _ =>
      decide (handle < s.created) && (s.objects handle).cancelling.isSome
  | .setFlag handle flag rest =>
      decide (handle < s.created) && decide ((flag :: rest) ∈ (s.objects handle).settling)
  | .takeRemove => s.removing.isNone && !s.toRemove.isEmpty
  | .eraseHandle => s.removing.any fun handle => (s.objects handle).turn == .returned

def next (config : Config) (s : State) : Label → State
  | .handle transfer => s.handle transfer
  | .wake handle => s.wake handle
  | .process handle => s.setObject handle (s.objects handle).process
  | .executeGoal handle available =>
      s.setObject handle ((s.objects handle).executeGoal config available)
  | .callback handle callback => s.setObject handle ((s.objects handle).callback callback)
  | .cancelCallback handle callback =>
      s.setObject handle ((s.objects handle).cancelCallback callback)
  | .setFlag handle flag rest => s.setObject handle ((s.objects handle).setFlag flag rest)
  | .takeRemove => s.takeRemove
  | .eraseHandle => s.eraseHandle

def client (config : Config) : Machine State Label where
  start := .start
  enabled := enabled
  next := next config

/-- A handle and the execution of its goal in the pair of an action server and
client. -/
structure Matches (execution : Action.Execution) (handle : Handle) : Prop where
  waitQueue : handle.waitQueue.map Message.toTransfer = execution.waitQueue
  handlingGoal : handle.handlingGoal = execution.handlingGoal
  handlingCancel : handle.handlingCancel = execution.handlingCancel
  done : handle.done = execution.done

/-- A turn of `executeHandle` there is the parts of a turn here without a step in
between. -/
theorem executeHandle_parts {pair : Action.State} {g : GoalUUID} {handle : Handle}
    (config : Action.Config) (available : Bool) (hmatches : Matches (pair.executions g) handle)
    (hturn : handle.turn = .waiting) :
    Matches ((Action.executeHandle config pair g available).executions g)
      (handle.wake.process.executeGoal ⟨config.expectedSize, config.dynamicSize⟩ available) := by
  obtain ⟨hqueue, hgoal, hcancel, hdone⟩ := hmatches
  unfold Action.executeHandle Handle.wake
  simp only [← hgoal, ← hcancel, ← hdone, ← hqueue]
  cases hfinished : handle.done with
  | true =>
      simp only [if_true, Handle.process, Handle.executeGoal, Action.State.setExecution,
        Function.update_self]
      exact ⟨rfl, rfl, rfl, rfl⟩
  | false =>
      cases hmessages : handle.waitQueue with
      | nil =>
          simp only [Bool.false_eq_true, if_false, List.map_nil, Handle.process, hturn,
            Handle.executeGoal]
          exact ⟨hqueue, hgoal, hcancel, hdone⟩
      | cons message rest =>
          simp only [Bool.false_eq_true, if_false, List.map_cons, Handle.process]
          by_cases hgoalCode : message.opCode = .actionToClientGoal
          · simp only [hgoalCode, if_true]
            cases hbusy : handle.handlingGoal || handle.handlingCancel with
            | true =>
                simp only [if_true, Handle.executeGoal, Action.State.setExecution,
                  Function.update_self]
                exact ⟨rfl, rfl, rfl, rfl⟩
            | false =>
                simp only [Bool.false_eq_true, if_false, Handle.executeGoal, Action.executeGoal]
                split
                · simp only [Action.State.setExecution, Function.update_self]
                  exact ⟨rfl, rfl, rfl, rfl⟩
                · simp only [Action.State.setExecution, Action.State.sendToServer,
                    Action.State.logVerdict, Function.update_self]
                  exact ⟨rfl, rfl, rfl, rfl⟩
          · simp only [hgoalCode, if_false]
            by_cases hcancelCode : message.opCode = .actionToClientCancel
            · simp only [hcancelCode, if_true]
              cases hfirst : handle.handlingGoal <;> cases hsecond : handle.handlingCancel <;>
                simp only [Bool.false_eq_true, if_true, if_false, Handle.executeGoal,
                  Handle.executeCancel, Action.State.setExecution, Function.update_self]
              all_goals exact ⟨by simp, by simp, by simp, by simp⟩
            · simp only [hcancelCode, if_false, Handle.executeGoal, Action.State.setExecution,
                Function.update_self]
              exact ⟨rfl, rfl, rfl, rfl⟩

end ActionClient

end Ros2Connect
