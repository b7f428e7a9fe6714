import Ros2Connect.Lib.Transition
import Ros2Connect.Publisher.Delivery

/-!
The topics one node subscribes and the other publishes, with everything a
message passes in between: the callback of the subscription, the queue of a
threaded subscriber, the connection, the queue of the publisher manager and
those of the threaded publishers. Both connections are authorized and their
threads run. `handed`, `queued` and `overlapped` log what the callbacks did and
are read by no step.
-/

namespace Ros2Connect

open Lib

namespace Pipeline

/-- The configurations of the subscribing and the publishing node. -/
structure Config where
  subscribing : GlobalConfig
  publishing : GlobalConfig
  codecs : Codecs

structure State where
  /-- The payloads of the callbacks in progress. -/
  calls : UInt8 → List Bytes
  toSend : UInt8 → List VectorMessage
  /-- The message the thread of a threaded subscriber has taken. -/
  sending : UInt8 → Option VectorMessage
  transport : Transport
  manager : PublisherManager Unit
  terminated : Option Termination
  /-- The payloads handed to the callback, in the order of the calls. -/
  handed : UInt8 → List Bytes
  /-- The payloads in the order in which the callbacks queued them. -/
  queued : UInt8 → List Bytes
  /-- Two callbacks of the channel were in progress at once. -/
  overlapped : UInt8 → Bool

/-- `callback` is the call of a subscription's callback and `finish` its
critical section; `sendOther` is anything else the subscribing node sends. -/
inductive Label where
  | callback (channel : UInt8) (data : Bytes)
  | finish (channel : UInt8) (data : Bytes)
  | take (channel : UInt8)
  | send (channel : UInt8)
  | sendOther (runningInStrand : Bool) (combinedVector : Bytes)
  | runPosted
  | transmit
  | complete
  | receive
  | managerTake
  | managerRun
  | threadedTake (channel : UInt8)
  | threadedRun (channel : UInt8)
  deriving DecidableEq

def Config.subscriber (config : Config) (channel : UInt8) : Option Topic :=
  topicFor config.subscribing.subscriber channel

def Config.publisher (config : Config) (channel : UInt8) : Option Topic :=
  topicFor config.publishing.publisher channel

namespace State

def start (config : Config) : State where
  calls := fun _ => []
  toSend := fun _ => []
  sending := fun _ => none
  transport := .start
  manager := PublisherManager.start.init config.publishing.publisher
  terminated := none
  handed := fun _ => []
  queued := fun _ => []
  overlapped := fun _ => false

def callback (s : State) (channel : UInt8) (data : Bytes) : State :=
  { s with
    calls := Function.update s.calls channel (s.calls channel ++ [data])
    handed := Function.update s.handed channel (s.handed channel ++ [data])
    overlapped := Function.update s.overlapped channel
      (s.overlapped channel || !(s.calls channel).isEmpty) }

/-- A callback leaves. -/
def leave (s : State) (channel : UInt8) (data : Bytes) : State :=
  { s with
    calls := Function.update s.calls channel ((s.calls channel).erase data)
    queued := Function.update s.queued channel (s.queued channel ++ [data]) }

/-- `ThreadedSubscriber::callback`: the message is queued. -/
def pushToSend (s : State) (channel : UInt8) (message : VectorMessage) : State :=
  { s with toSend := Function.update s.toSend channel (s.toSend channel ++ [message]) }

def post (s : State) (combinedVector : Bytes) : State :=
  { s with transport := s.transport.send false combinedVector }

/-- The end of a callback: a threaded subscriber queues the message, a shared
one sends it. -/
def finish (config : Config) (s : State) (channel : UInt8) (data : Bytes) : State :=
  let message := VectorMessage.fromSerializedMessage channel data
  match config.subscriber channel with
  | none => s
  | some topic =>
      if topic.useOwnThread then (s.leave channel data).pushToSend channel message
      else (s.leave channel data).post (MessageBase.getCombinedVector message)

/-- `ThreadedSubscriber::run` takes the next message. -/
def take (s : State) (channel : UInt8) : State :=
  match s.toSend channel with
  | [] => s
  | message :: rest =>
      { s with
        toSend := Function.update s.toSend channel rest
        sending := Function.update s.sending channel (some message) }

/-- The vector `ThreadedSubscriber::run` sends. -/
def combinedVector (config : Config) (topic : Topic) (message : VectorMessage) : Bytes :=
  if topic.compression.compressor ≠ .none then
    MessageBase.getCompressedCombinedVector config.codecs message topic.compression
  else MessageBase.getCombinedVector message

def send (config : Config) (s : State) (channel : UInt8) : State :=
  match s.sending channel, config.subscriber channel with
  | some message, some topic =>
      { s with sending := Function.update s.sending channel none }.post
        (combinedVector config topic message)
  | _, _ => s

/-- The read handler of the publishing node. Messages for other managers are
left out. -/
def receive (s : State) : State :=
  match s.transport.wire with
  | [] => s
  | combinedVector :: _ =>
      let received := { s with transport := s.transport.receive }
      match RclMessage.fromFlatBuffer combinedVector with
      | .error fault => { received with terminated := some (.outOfBounds fault) }
      | .ok message =>
          if MessageBase.isOpCode message .authentication then received
          else
            match destination message with
            | .publisherManager => { received with manager := s.manager.publish ⟨message, ()⟩ }
            | .logger | .subscriberManager | .serviceActionManager => received

def threadedRun (config : Config) (s : State) (channel : UInt8) : State :=
  match s.manager.runThreaded config.codecs channel with
  | .error _ => { s with terminated := some .uncaughtException }
  | .ok manager => { s with manager := manager }

end State

/-- A channel for topics: one that is subscribed, or that no op-code reserves. -/
def isTopic (config : Config) (channel : UInt8) : Bool :=
  (config.subscriber channel).isSome || !decide (Reserved channel)

/-- A frame of the other managers and of the clock: it is on an op-code. -/
def isOther (config : Config) (combinedVector : Bytes) : Bool :=
  match RclMessage.fromFlatBuffer combinedVector with
  | .ok message => !isTopic config message.channel
  | .error _ => false

/-- The callback group of the shared subscribers is mutually exclusive, that of
the threaded ones reentrant. -/
def callable (config : Config) (s : State) (channel : UInt8) : Bool :=
  match config.subscriber channel with
  | none => false
  | some topic => topic.useOwnThread ||
      config.subscribing.subscriber.all fun other =>
        other.useOwnThread || (s.calls other.channel).isEmpty

def enabled (config : Config) (s : State) : Label → Bool
  | .callback channel _ => callable config s channel
  | .finish channel data => (s.calls channel).contains data
  | .take channel => (s.sending channel).isNone && !(s.toSend channel).isEmpty
  | .send channel => (s.sending channel).isSome
  | .sendOther _ combinedVector => isOther config combinedVector
  | .runPosted => !s.transport.posted.isEmpty
  | .transmit => s.transport.write == .started
  | .complete => s.transport.write == .transmitted
  | .receive => s.terminated.isNone && !s.transport.wire.isEmpty
  | .managerTake => s.terminated.isNone && s.manager.message.isNone &&
      !s.manager.toPublish.isEmpty
  | .managerRun => s.terminated.isNone && s.manager.message.isSome
  | .threadedTake channel => s.terminated.isNone &&
      (s.manager.threadedMessage channel).isNone &&
      !(s.manager.threadedToPublish channel).isEmpty
  | .threadedRun channel => s.terminated.isNone &&
      (s.manager.threadedMessage channel).isSome

def next (config : Config) (s : State) : Label → State
  | .callback channel data => s.callback channel data
  | .finish channel data => s.finish config channel data
  | .take channel => s.take channel
  | .send channel => s.send config channel
  | .sendOther runningInStrand combinedVector =>
      { s with transport := s.transport.send runningInStrand combinedVector }
  | .runPosted => { s with transport := s.transport.runPosted }
  | .transmit => { s with transport := s.transport.transmit }
  | .complete => { s with transport := s.transport.complete false }
  | .receive => s.receive
  | .managerTake => { s with manager := s.manager.take }
  | .managerRun => { s with manager := s.manager.run }
  | .threadedTake channel => { s with manager := s.manager.takeThreaded channel }
  | .threadedRun channel => s.threadedRun config channel

def pipeline (config : Config) : Machine State Label where
  start := .start config
  enabled := enabled config
  next := next config

end Pipeline

end Ros2Connect
