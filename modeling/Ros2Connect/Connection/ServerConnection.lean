import Ros2Connect.Lib.Transition
import Ros2Connect.Publisher.PublisherManager
import Ros2Connect.ServiceAction.Manager
import Ros2Connect.Subscriber.SubscriberManager

/-!
A `WebsocketServerConnection` and its three managers as a transition system. A
step is a handler of the connection's strand, a turn of a thread between two
locks, or `stopConnectionInternal`. The authentication plugin is a parameter of
the step that calls it. A message is tagged with whether it was received before
`onAuthorized` was executed; the tags, `authorizations` and the logs of the
managers are read by no step.
-/

namespace Ros2Connect

open Lib

namespace ServerConnection

structure Config (Plugin : Type) extends GlobalConfig where
  authenticationOmit : Bool
  /-- An authentication plugin could be loaded. -/
  authenticationPlugin : Bool
  serviceServer : List (UInt8 × Plugin)
  serviceClient : List (UInt8 × Plugin)
  actionServer : List (UInt8 × Plugin)
  actionClient : List (UInt8 × Plugin)
  codecs : Codecs

/-- `ServiceActionManager::init`. -/
def Config.serviceActionManager {Plugin : Type} (config : Config Plugin) :
    ServiceActionManager Plugin :=
  .init config.serviceServer config.serviceClient config.actionServer config.actionClient

/-- A call of `getAuthenticationFromUserKey`: what it returns, and what it sets
by `setUser` and `setEnd`. An end is the text of its time, or none for a special
value. -/
structure KeyCheck where
  returned : Bool
  user : Option Bytes
  endTime : Option (Option Bytes)
  deriving DecidableEq

/-- Which managers' threads could be spawned. -/
structure Spawned where
  publisher : Bool
  subscriber : Bool
  serviceAction : Bool
  deriving DecidableEq

/-- What led to `onAuthorized`. -/
inductive Cause where
  | connected
  | userKey (userKey : Bytes) (returned : Bool)
  deriving Repr, DecidableEq

/-- The `io_context` runs, is stopped with a handler still in progress, or has
been joined. -/
inductive Phase where
  | running
  | stopping
  | stopped
  deriving Repr, DecidableEq

/-- The managers of the base class, their threads and their queues. -/
structure Managers (Plugin : Type) where
  publisherThread : ThreadObject
  subscriberThread : ThreadObject
  serviceActionThread : ThreadObject
  publisherManager : PublisherManager Bool
  subscriberManager : SubscriberManager Bool
  serviceActionManager : ServiceActionManager Plugin
  toHandle : List (Tagged Bool)
  handling : Option (Tagged Bool)
  handled : List (ServiceActionManager.Handled Plugin × Bool)

/-- No manager has a `std::thread`. -/
structure Managers.Threadless {Plugin : Type} (managers : Managers Plugin) : Prop where
  publisherThread : managers.publisherThread = .null
  subscriberThread : managers.subscriberThread = .null
  serviceActionThread : managers.serviceActionThread = .null

structure State (Plugin : Type) extends Managers Plugin where
  connected : Bool
  phase : Phase
  user : Bytes
  endTime : Option Bytes
  checkTimer : Bool
  endTimer : Bool
  stopRequested : Bool
  sent : List Bytes
  authorizations : List Cause
  terminated : Option Termination

inductive Label where
  | connect (spawned : Spawned)
  | receive (frame : Bytes) (check : KeyCheck) (spawned : Spawned)
  | validAuthenticationCheck
  | authenticationEnd
  | stopConnection
  | publisherTake
  | publisherRun
  | threadedTake (channel : UInt8)
  | threadedRun (channel : UInt8)
  | subscriberTake
  | subscriberRun
  | serviceActionTake
  | serviceActionRun
  deriving DecidableEq

variable {Plugin : Type}

namespace State

def start : State Plugin where
  connected := false
  phase := .running
  user := []
  endTime := none
  checkTimer := false
  endTimer := false
  stopRequested := false
  sent := []
  authorizations := []
  publisherThread := .null
  subscriberThread := .null
  serviceActionThread := .null
  publisherManager := .start
  subscriberManager := .start
  serviceActionManager := .init [] [] [] []
  toHandle := []
  handling := none
  handled := []
  terminated := none

def send (s : State Plugin) (message : VectorMessage) : State Plugin :=
  { s with sent := s.sent ++ [message.combinedVector] }

def terminate (s : State Plugin) (termination : Termination) : State Plugin :=
  { s with terminated := some termination }

/-- `init` and `startThread` of the publisher manager. -/
def authorizePublisher (config : Config Plugin) (spawned : Bool) (s : State Plugin) :
    Except Termination (State Plugin) := do
  let publisherThread ← startThread s.publisherThread spawned
  return { s with
    publisherManager := s.publisherManager.init config.publisher
    publisherThread := publisherThread }

/-- `init` and `startThread` of the subscriber manager. -/
def authorizeSubscriber (config : Config Plugin) (spawned : Bool) (s : State Plugin) :
    Except Termination (State Plugin) := do
  let subscriberThread ← startThread s.subscriberThread spawned
  return { s with
    subscriberManager := s.subscriberManager.init config.subscriber
    subscriberThread := subscriberThread }

/-- `init` and `startThread` of the service and action manager. -/
def authorizeServiceAction (config : Config Plugin) (spawned : Bool) (s : State Plugin) :
    Except Termination (State Plugin) := do
  let serviceActionThread ← startThread s.serviceActionThread spawned
  return { s with
    serviceActionManager := config.serviceActionManager
    serviceActionThread := serviceActionThread }

/-- The managers `onAuthorized` starts one after the other. -/
def authorize (config : Config Plugin) (spawned : Spawned) (s : State Plugin) :
    Except Termination (State Plugin) := do
  let s ← s.authorizePublisher config spawned.publisher
  let s ← s.authorizeSubscriber config spawned.subscriber
  s.authorizeServiceAction config spawned.serviceAction

def onAuthorized (config : Config Plugin) (cause : Cause) (spawned : Spawned)
    (s : State Plugin) : State Plugin :=
  let s := { s with authorizations := s.authorizations ++ [cause] }
  match s.authorize config spawned with
  | .error termination => s.terminate termination
  | .ok s => s

def onConnected (config : Config Plugin) (spawned : Spawned) (s : State Plugin) :
    State Plugin :=
  let s := { s with connected := true }
  if config.authenticationOmit then s.onAuthorized config .connected spawned
  else { s with checkTimer := true }

/-- The plugin's answer is stored in the plugin. -/
def store (check : KeyCheck) (s : State Plugin) : State Plugin :=
  { s with user := check.user.getD s.user, endTime := check.endTime.getD s.endTime }

/-- The client is told that it is authorized, and until when. -/
def respond (s : State Plugin) : State Plugin :=
  match s.endTime with
  | some time =>
      { s with endTimer := true }.send (VectorMessage.forOpCodeAuthentication time)
  | none => s.send (VectorMessage.forOpCodeAuthentication [])

def validateUserKeyForAuthentication (config : Config Plugin) (userKey : Bytes)
    (check : KeyCheck) (spawned : Spawned) (s : State Plugin) : State Plugin :=
  if config.authenticationOmit then s.send (VectorMessage.forOpCodeAuthentication [])
  else if config.authenticationPlugin = false then { s with stopRequested := true }
  else
    let s := s.store check
    -- `isValid` reads the user, whichever key it was set for
    if s.user = [] then { s with stopRequested := true }
    else
      let s := s.onAuthorized config (.userKey userKey check.returned) spawned
      if s.terminated = none then s.respond else s

/-- `processMessage` of the base. -/
def processData (message : RclMessage) (s : State Plugin) : State Plugin :=
  let received := ⟨message, s.authorizations.isEmpty⟩
  match destination message with
  | .logger => s
  | .subscriberManager => { s with subscriberManager := s.subscriberManager.queue received }
  | .serviceActionManager => { s with toHandle := s.toHandle ++ [received] }
  | .publisherManager => { s with publisherManager := s.publisherManager.publish received }

def processMessage (config : Config Plugin) (message : RclMessage) (check : KeyCheck)
    (spawned : Spawned) (s : State Plugin) : State Plugin :=
  if MessageBase.isOpCode message .authentication then
    s.validateUserKeyForAuthentication config message.toString check spawned
  else s.processData message

/-- The handler that was in progress when the `io_context` was stopped is the
last. -/
def enterHandler (s : State Plugin) : State Plugin :=
  if s.phase = .stopping then { s with phase := .stopped } else s

/-- The read handler. -/
def receive (config : Config Plugin) (frame : Bytes) (check : KeyCheck)
    (spawned : Spawned) (s : State Plugin) : State Plugin :=
  match RclMessage.fromFlatBuffer frame with
  | .error fault => s.enterHandler.terminate (.outOfBounds fault)
  | .ok message => s.enterHandler.processMessage config message check spawned

def validAuthenticationCheckCallback (config : Config Plugin) (s : State Plugin) :
    State Plugin :=
  let s := { s with checkTimer := false }
  if config.authenticationPlugin = false then s.terminate .nullPointer
  else if s.user = [] then { s with stopRequested := true }
  else s

/-- `stopConnectionInternal`, which stops and joins the managers' threads. -/
def stopConnectionInternal (s : State Plugin) : State Plugin :=
  { s with
    phase := .stopping
    publisherThread := .null
    subscriberThread := .null
    serviceActionThread := .null
    publisherManager := s.publisherManager.onStopThread
    subscriberManager := s.subscriberManager.onStopThread
    serviceActionManager := .init [] [] [] []
    handling := none }

def threadedRun (config : Config Plugin) (channel : UInt8) (s : State Plugin) :
    State Plugin :=
  match s.publisherManager.runThreaded config.codecs channel with
  | .error _ => s.terminate .uncaughtException
  | .ok publisherManager => { s with publisherManager := publisherManager }

def subscriberRun (config : Config Plugin) (s : State Plugin) : State Plugin :=
  match s.subscriberManager.run config.toGlobalConfig with
  | .error fault => s.terminate (.outOfBounds fault)
  | .ok subscriberManager => { s with subscriberManager := subscriberManager }

def serviceActionTake (s : State Plugin) : State Plugin :=
  match s.toHandle with
  | [] => s
  | received :: rest => { s with toHandle := rest, handling := some received }

def serviceActionRun (s : State Plugin) : State Plugin :=
  match s.handling with
  | none => s
  | some received =>
      match s.serviceActionManager.run received.message with
      | .error fault => s.terminate (.outOfBounds fault)
      | .ok none => { s with handling := none }
      | .ok (some handled) =>
          { s with handling := none, handled := s.handled ++ [(handled, received.tag)] }

end State

/-- A manager's loop is left by `stopConnectionInternal`, before a message is
taken or handled. -/
def enabled (s : State Plugin) : Label → Bool
  | .connect _ => s.terminated.isNone && !s.connected && s.phase == .running
  | .receive _ _ _ => s.terminated.isNone && s.connected && s.phase != .stopped
  | .validAuthenticationCheck => s.terminated.isNone && s.checkTimer && s.phase == .running
  | .authenticationEnd => s.terminated.isNone && s.endTimer && s.phase == .running
  | .stopConnection => s.terminated.isNone && s.phase == .running
  | .publisherTake => s.terminated.isNone && s.publisherThread == .joinable &&
      s.publisherManager.message.isNone && !s.publisherManager.toPublish.isEmpty
  | .publisherRun => s.terminated.isNone && s.publisherThread == .joinable &&
      s.publisherManager.message.isSome
  | .threadedTake channel => s.terminated.isNone &&
      (s.publisherManager.threadedMessage channel).isNone &&
      !(s.publisherManager.threadedToPublish channel).isEmpty
  | .threadedRun channel => s.terminated.isNone &&
      (s.publisherManager.threadedMessage channel).isSome
  | .subscriberTake => s.terminated.isNone && s.subscriberThread == .joinable &&
      s.subscriberManager.message.isNone && !s.subscriberManager.toSubscribe.isEmpty
  | .subscriberRun => s.terminated.isNone && s.subscriberThread == .joinable &&
      s.subscriberManager.message.isSome
  | .serviceActionTake => s.terminated.isNone && s.serviceActionThread == .joinable &&
      s.handling.isNone && !s.toHandle.isEmpty
  | .serviceActionRun => s.terminated.isNone && s.serviceActionThread == .joinable &&
      s.handling.isSome

def next (config : Config Plugin) (s : State Plugin) : Label → State Plugin
  | .connect spawned => s.onConnected config spawned
  | .receive frame check spawned => s.receive config frame check spawned
  | .validAuthenticationCheck => s.validAuthenticationCheckCallback config
  | .authenticationEnd => { s with endTimer := false, stopRequested := true }
  | .stopConnection => s.stopConnectionInternal
  | .publisherTake => { s with publisherManager := s.publisherManager.take }
  | .publisherRun => { s with publisherManager := s.publisherManager.run }
  | .threadedTake channel =>
      { s with publisherManager := s.publisherManager.takeThreaded channel }
  | .threadedRun channel => s.threadedRun config channel
  | .subscriberTake => { s with subscriberManager := s.subscriberManager.take }
  | .subscriberRun => s.subscriberRun config
  | .serviceActionTake => s.serviceActionTake
  | .serviceActionRun => s.serviceActionRun

def connection (config : Config Plugin) : Machine (State Plugin) Label where
  start := .start
  enabled := enabled
  next := next config

namespace State

/-- The managers have been initialised and started. -/
def authorized (config : Config Plugin) (spawned : Spawned) (s : State Plugin) :
    State Plugin :=
  { s with
    publisherManager := s.publisherManager.init config.publisher
    publisherThread := if spawned.publisher then .joinable else .null
    subscriberManager := s.subscriberManager.init config.subscriber
    subscriberThread := if spawned.subscriber then .joinable else .null
    serviceActionManager := config.serviceActionManager
    serviceActionThread := if spawned.serviceAction then .joinable else .null }

def logAuthorization (s : State Plugin) (cause : Cause) : State Plugin :=
  { s with authorizations := s.authorizations ++ [cause] }

/-- The managers are started, unless the thread of one still exists. -/
theorem onAuthorized_cases (config : Config Plugin) (cause : Cause) (spawned : Spawned)
    (s : State Plugin) :
    (s.Threadless ∧ s.onAuthorized config cause spawned =
      (s.logAuthorization cause).authorized config spawned) ∨
    (¬ s.Threadless ∧ s.onAuthorized config cause spawned =
      (s.logAuthorization cause).terminate .unjoinedThread) := by
  cases hpublisher : s.publisherThread with
  | joinable =>
      refine Or.inr ⟨fun h => by simpa [hpublisher] using h.publisherThread, ?_⟩
      simp [onAuthorized, authorize, authorizePublisher, startThread, hpublisher,
        logAuthorization, bind, Except.bind]
  | null =>
      cases hsubscriber : s.subscriberThread with
      | joinable =>
          refine Or.inr ⟨fun h => by simpa [hsubscriber] using h.subscriberThread, ?_⟩
          simp [onAuthorized, authorize, authorizePublisher, authorizeSubscriber, startThread,
            hpublisher, hsubscriber, logAuthorization, bind, Except.bind, pure, Except.pure]
      | null =>
          cases hserviceAction : s.serviceActionThread with
          | joinable =>
              refine Or.inr ⟨fun h => by simpa [hserviceAction] using h.serviceActionThread, ?_⟩
              simp [onAuthorized, authorize, authorizePublisher, authorizeSubscriber,
                authorizeServiceAction, startThread, hpublisher, hsubscriber, hserviceAction,
                logAuthorization, bind, Except.bind, pure, Except.pure]
          | null =>
              refine Or.inl ⟨⟨hpublisher, hsubscriber, hserviceAction⟩, ?_⟩
              simp [onAuthorized, authorize, authorizePublisher, authorizeSubscriber,
                authorizeServiceAction, startThread, hpublisher, hsubscriber, hserviceAction,
                logAuthorization, authorized, bind, Except.bind, pure, Except.pure]

end State

/-- An AUTHENTICATION message. -/
def holdsUserKey (frame : Bytes) : Bool :=
  match RclMessage.fromFlatBuffer frame with
  | .ok message => MessageBase.isOpCode message .authentication
  | .error _ => false

/-- A frame the plugin is asked about. -/
def Validates (config : Config Plugin) (frame : Bytes) : Prop :=
  config.authenticationOmit = false ∧ config.authenticationPlugin = true ∧
    holdsUserKey frame = true

instance (config : Config Plugin) (frame : Bytes) : Decidable (Validates config frame) :=
  inferInstanceAs (Decidable (_ ∧ _))

/-- What the read handler does with a frame, from the state it is entered
in. -/
inductive Receives (config : Config Plugin) (frame : Bytes) (check : KeyCheck)
    (spawned : Spawned) (s : State Plugin) : State Plugin → Prop where
  | fault (fault : Fault) : RclMessage.fromFlatBuffer frame = .error fault →
      Receives config frame check spawned s (s.terminate (.outOfBounds fault))
  | omitted : config.authenticationOmit = true →
      Receives config frame check spawned s
        (s.send (VectorMessage.forOpCodeAuthentication []))
  | unavailable : config.authenticationPlugin = false →
      Receives config frame check spawned s { s with stopRequested := true }
  | invalid : Validates config frame → (s.store check).user = [] →
      Receives config frame check spawned s { s.store check with stopRequested := true }
  | valid (userKey : Bytes) : Validates config frame → (s.store check).user ≠ [] →
      ((s.store check).onAuthorized config (.userKey userKey check.returned) spawned).terminated =
        none →
      Receives config frame check spawned s
        ((s.store check).onAuthorized config (.userKey userKey check.returned) spawned).respond
  | terminated (userKey : Bytes) : Validates config frame → (s.store check).user ≠ [] →
      ((s.store check).onAuthorized config (.userKey userKey check.returned) spawned).terminated ≠
        none →
      Receives config frame check spawned s
        ((s.store check).onAuthorized config (.userKey userKey check.returned) spawned)
  | data (message : RclMessage) : RclMessage.fromFlatBuffer frame = .ok message →
      MessageBase.isOpCode message .authentication = false →
      Receives config frame check spawned s (s.processData message)

theorem receive_receives (config : Config Plugin) (frame : Bytes) (check : KeyCheck)
    (spawned : Spawned) (s : State Plugin) :
    Receives config frame check spawned s.enterHandler
      (s.receive config frame check spawned) := by
  unfold State.receive
  cases hmessage : RclMessage.fromFlatBuffer frame with
  | error fault => exact .fault fault hmessage
  | ok message =>
      cases hopCode : MessageBase.isOpCode message .authentication with
      | false =>
          simp only [State.processMessage, hopCode]
          exact .data message hmessage hopCode
      | true =>
          simp only [State.processMessage, hopCode, if_true,
            State.validateUserKeyForAuthentication]
          cases homit : config.authenticationOmit with
          | true => exact .omitted homit
          | false =>
              cases hplugin : config.authenticationPlugin with
              | false => exact .unavailable hplugin
              | true =>
                  have hvalidates : Validates config frame :=
                    ⟨homit, hplugin, by simpa [holdsUserKey, hmessage] using hopCode⟩
                  simp only [Bool.false_eq_true, Bool.true_eq_false, if_false]
                  split
                  next huser => exact .invalid hvalidates huser
                  next huser =>
                    split
                    next hlive => exact .valid _ hvalidates huser hlive
                    next hdead => exact .terminated _ hvalidates huser hdead

end ServerConnection

end Ros2Connect
