import Ros2Connect.Connection.OwnMessage
import Ros2Connect.Connection.PeerData
import Ros2Connect.Lib.Simulation

/-!
A `WebsocketClientConnection`. What it shares with a server connection, the
members of `WebsocketConnectionBase` and its sending queue, is the state of
`PeerData`; the timers and the user of a server stay as they are. The client
authorizes itself once the handshake is done, and a message with the op-code
AUTHENTICATION is only logged.
-/

namespace Ros2Connect

open Lib

variable {Plugin : Type}

/-- A call of `send` by what the managers of a connection have created. -/
inductive Emission where
  | notifyAboutSubscriber (channel : UInt8) (value : Bool)
  | subscriberSends (channel : UInt8) (serializedMessage : Bytes)
  | sendClock (serializedMessage : Bytes)
  | pluginSends (role : Role) (channel : UInt8) (opCode : ServiceActionOpCode)
      (data gID : Bytes) (compression : Compression)
  deriving DecidableEq

namespace Emission

/-- The message of a call, if there is a caller. A shared subscriber does not
compress. -/
def own (managers : ServerConnection.Managers Plugin) : Emission → Option OwnMessage
  | notifyAboutSubscriber channel value =>
      if (managers.publisherManager.publishers channel).isSome then
        some (.subscription channel value)
      else none
  | subscriberSends channel serializedMessage =>
      (managers.subscriberManager.subscribers channel).map fun topic =>
        .topic channel serializedMessage
          (if topic.useOwnThread then topic.compression else ⟨.none, 0⟩)
  | sendClock serializedMessage =>
      if managers.subscriberManager.timerRunning then
        some (.topic OpCode.clock.toByte serializedMessage ⟨.none, 0⟩)
      else none
  | pluginSends role channel opCode data gID compression =>
      if (managers.serviceActionManager.plugins role channel).isSome ∧ opCode ∈ role.emits then
        some (.serviceAction channel opCode data gID compression)
      else none

/-- A serialized message has at least its encapsulation header, and a gid fits
its size byte. -/
def Filled : Emission → Prop
  | notifyAboutSubscriber _ _ => True
  | subscriberSends _ serializedMessage | sendClock serializedMessage => serializedMessage ≠ []
  | pluginSends _ _ _ _ gID _ => 1 ≤ gID.length ∧ gID.length ≤ 255

instance : DecidablePred Filled
  | notifyAboutSubscriber _ _ => isTrue trivial
  | subscriberSends _ serializedMessage | sendClock serializedMessage =>
      inferInstanceAs (Decidable (serializedMessage ≠ []))
  | pluginSends _ _ _ _ gID _ =>
      inferInstanceAs (Decidable (1 ≤ gID.length ∧ gID.length ≤ 255))

/-- The vector of a call. -/
def combinedVector (codecs : Codecs) (managers : ServerConnection.Managers Plugin)
    (emission : Emission) : Option Bytes :=
  (emission.own managers).bind fun own => (own.combinedVector codecs).toOption

theorem exists_own {codecs : Codecs} {managers : ServerConnection.Managers Plugin}
    {emission : Emission} {combinedVector : Bytes}
    (h : emission.combinedVector codecs managers = some combinedVector) :
    ∃ own : OwnMessage, emission.own managers = some own ∧
      own.combinedVector codecs = .ok combinedVector := by
  obtain ⟨own, hown, hvector⟩ := Option.bind_eq_some_iff.mp h
  refine ⟨own, hown, ?_⟩
  cases hresult : own.combinedVector codecs with
  | error fault => simp [hresult, Except.toOption] at hvector
  | ok vector =>
      rw [hresult] at hvector
      exact congrArg Except.ok (Option.some.inj hvector)

/-- What is sent of a filled call is filled. -/
theorem Filled.own {managers : ServerConnection.Managers Plugin} {emission : Emission}
    (h : emission.Filled) {own : OwnMessage} (hown : emission.own managers = some own) :
    own.Filled := by
  cases emission with
  | notifyAboutSubscriber channel value =>
      simp only [Emission.own] at hown
      split at hown
      · cases hown
        trivial
      · cases hown
  | subscriberSends channel serializedMessage =>
      simp only [Emission.own, Option.map_eq_some_iff] at hown
      obtain ⟨topic, -, rfl⟩ := hown
      exact h
  | sendClock serializedMessage =>
      simp only [Emission.own] at hown
      split at hown
      · cases hown
        exact h
      · cases hown
  | pluginSends role channel opCode data gID compression =>
      simp only [Emission.own] at hown
      split at hown
      · cases hown
        exact h
      · cases hown

end Emission

/-- A turn of a manager's thread. -/
def ServerConnection.Label.isTurn : ServerConnection.Label → Bool
  | .publisherTake | .publisherRun | .threadedTake _ | .threadedRun _ | .subscriberTake
  | .subscriberRun | .serviceActionTake | .serviceActionRun => true
  | .connect _ | .receive _ _ _ | .validAuthenticationCheck | .authenticationEnd
  | .stopConnection => false

namespace ClientConnection

open ServerConnection (Spawned)

structure Config (Plugin : Type) extends ServerConnection.Config Plugin where
  userKey : Bytes

structure State (Plugin : Type) extends PeerData.State Plugin where
  /-- The values logged as the answers of the server. -/
  authenticated : List Bytes

inductive Label where
  /-- The handler of a handshake without an error. -/
  | handshake (spawned : Spawned)
  | receive (frame : Bytes)
  | turn (label : ServerConnection.Label)
  | emit (emission : Emission)
  | runPosted
  | complete (position : Nat) (error : Bool)
  /-- The stream is no longer open. -/
  | streamClosed
  | stopConnection
  | close (reason : Bytes)
  deriving DecidableEq

namespace State

def start : State Plugin where
  toState := .start
  authenticated := []

/-- `onConnected` sends the user key. -/
def onConnected (config : Config Plugin) (s : State Plugin) : State Plugin :=
  let connected : PeerData.State Plugin :=
    { s.toState with connection := { s.connection with connected := true } }
  { s with
    toState := connected.send true
      (VectorMessage.forOpCodeAuthentication config.userKey).combinedVector }

def onAuthorized (config : Config Plugin) (spawned : Spawned) (s : State Plugin) :
    State Plugin :=
  { s with connection := s.connection.onAuthorized config.toConfig .connected spawned }

/-- The stream is open, the connection is told so, authorized and read from. -/
def handshake (config : Config Plugin) (spawned : Spawned) (s : State Plugin) :
    State Plugin :=
  let opened := { s with sendingQueue := { s.sendingQueue with isOpen := true } }
  (opened.onConnected config).onAuthorized config spawned

def processMessage (message : RclMessage) (s : State Plugin) : State Plugin :=
  if MessageBase.isOpCode message .authentication then
    { s with authenticated := s.authenticated ++ [message.toString] }
  else { s with connection := s.connection.processData message }

/-- The read handler. -/
def receive (frame : Bytes) (s : State Plugin) : State Plugin :=
  match RclMessage.fromFlatBuffer frame with
  | .error fault =>
      { s with connection := s.connection.enterHandler.terminate (.outOfBounds fault) }
  | .ok message => { s with connection := s.connection.enterHandler }.processMessage message

def emit (config : Config Plugin) (emission : Emission) (s : State Plugin) : State Plugin :=
  match emission.combinedVector config.codecs s.connection.toManagers with
  | none => s
  | some combinedVector => { s with toState := s.toState.send false combinedVector }

end State

def enabled (config : Config Plugin) (s : State Plugin) : Label → Bool
  | .handshake _ => s.connection.terminated.isNone && !s.connection.connected &&
      s.connection.phase == .running
  | .receive _ => s.connection.terminated.isNone && s.connection.connected &&
      s.connection.phase != .stopped
  | .turn label => label.isTurn && ServerConnection.enabled s.connection label
  | .emit emission => s.connection.terminated.isNone &&
      (emission.combinedVector config.codecs s.connection.toManagers).isSome
  | .runPosted => s.connection.terminated.isNone && s.connection.phase != .stopped &&
      !s.sendingQueue.posted.isEmpty
  | .complete position _ => s.connection.terminated.isNone && s.connection.phase != .stopped &&
      decide (position < s.sendingQueue.inFlight.length)
  | .streamClosed => s.connection.terminated.isNone
  | .stopConnection => ServerConnection.enabled s.connection .stopConnection
  | .close _ => s.connection.terminated.isNone && s.connection.phase != .running && !s.closed

def next (config : Config Plugin) (s : State Plugin) : Label → State Plugin
  | .handshake spawned => s.handshake config spawned
  | .receive frame => s.receive frame
  | .turn label =>
      { s with connection := ServerConnection.next config.toConfig s.connection label }
  | .emit emission => s.emit config emission
  | .runPosted =>
      { s with
        connection := s.connection.enterHandler
        sendingQueue := s.sendingQueue.runPosted }
  | .complete position error =>
      { s with
        connection := s.connection.enterHandler
        sendingQueue := s.sendingQueue.complete position error }
  | .streamClosed => { s with sendingQueue := { s.sendingQueue with isOpen := false } }
  | .stopConnection => { s with connection := s.connection.stopConnectionInternal }
  | .close reason => { s with toState := s.toState.close reason }

def connection (config : Config Plugin) : Machine (State Plugin) Label where
  start := .start
  enabled := enabled config
  next := next config

/-- What the managers send in a step is of a kind. -/
def Emits (P : OwnMessage → Prop) (s : State Plugin) : Label → Prop
  | .emit emission => ∀ own, emission.own s.connection.toManagers = some own → P own
  | _ => True

/-- What the managers send in a step is not empty. -/
def Label.Filled : Label → Prop
  | .emit emission => emission.Filled
  | _ => True

instance : DecidablePred Label.Filled
  | .emit emission => inferInstanceAs (Decidable emission.Filled)
  | .handshake _ | .receive _ | .turn _ | .runPosted | .complete _ _ | .streamClosed
  | .stopConnection | .close _ => isTrue trivial

theorem Label.Filled.emits {label : Label} (h : label.Filled) (s : State Plugin) :
    Emits OwnMessage.Filled s label := by
  cases label with
  | emit emission => exact fun own hown => Emission.Filled.own h hown
  | handshake | receive | turn | runPosted | complete | streamClosed | stopConnection
  | close => trivial

end ClientConnection

end Ros2Connect
