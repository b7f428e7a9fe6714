import Ros2Connect.Parameters.Entries

/-!
`initializeParameters`: the loops over the parameter lists, the predefined
entries and the checks that follow. A failure carries the message logged and the
reason given to `rclcpp::shutdown`. What ROS and the plugins answer when an
entry is created as a test is not up to the program.
-/

namespace Ros2Connect

open Lib

namespace Parameters

structure Failure where
  fatal : String
  reason : String
  deriving Repr, DecidableEq

/-- The texts of one loop. -/
structure Texts where
  kind : String
  notWellFormatted : String
  cannotBeCreated : String

section Loop

variable {ε : Type} (texts : Texts) (channel : ε → UInt8)
  (read : List UInt8 → String → Except String ε) (create : ε → Except String Unit)

/-- One turn of a loop: the definition is read and the entry created once. -/
def readEntry (known : List UInt8) (text : String) : Except Failure ε :=
  match read known text with
  | .error what =>
      .error ⟨texts.kind ++ " '" ++ text ++ "' is not well formatted. " ++ what,
        texts.notWellFormatted⟩
  | .ok entry =>
      match create entry with
      | .error what =>
          .error ⟨texts.kind ++ " '" ++ text ++ "' cannot be created. " ++ what,
            texts.cannotBeCreated⟩
      | .ok () => .ok entry

/-- A loop over a parameter list; `known` are the channels or ids before. -/
def readEntries (known : List UInt8) : List String → Except Failure (List ε)
  | [] => .ok []
  | text :: rest => do
      let entry ← readEntry texts read create known text
      let entries ← readEntries (known ++ [channel entry]) rest
      return entry :: entries

end Loop

end Parameters

/-- What ROS, pluginlib and Boost.JSON answer. -/
structure Environment where
  parse : JsonParse
  createGenericSubscription : TopicDefinition → Except String Unit
  createGenericPublisher : TopicDefinition → Except String Unit
  testServiceServer : ServiceActionDefinition → Except String Unit
  testServiceClient : ServiceActionDefinition → Except String Unit
  testActionServer : ServiceActionDefinition → Except String Unit
  testActionClient : ServiceActionDefinition → Except String Unit
  createAuthentication : String → Except String Unit

/-- The parameters `initializeParameters` checks, as `get_parameter` delivers
them. -/
structure Parameters where
  qos : List String
  compression : List String
  subscriber : List String
  publisher : List String
  serviceServer : List String
  serviceClient : List String
  actionServer : List String
  actionClient : List String
  subscribeClock : Bool
  publishClock : Bool
  subscribeTf : Bool
  publishTf : Bool
  fragmentationSize : UInt64
  authenticationTimeout : UInt16
  authenticationPlugin : String
  authenticationOmit : Bool
  deriving Repr, DecidableEq

/-- What `initializeParameters` stores. -/
structure Accepted extends Parameters.Profiles where
  subscriber : List TopicDefinition
  publisher : List TopicDefinition
  serviceServer : List ServiceActionDefinition
  serviceClient : List ServiceActionDefinition
  actionServer : List ServiceActionDefinition
  actionClient : List ServiceActionDefinition

namespace Parameters

/-- `CLOCK_AND_TF_QOS`. -/
def clockAndTfQos : Pointer QosProfile :=
  ⟨none, ⟨.keepLast, 100, .reliable, .volatile, .unspecified, .unspecified, .systemDefault,
    .unspecified, false⟩⟩

/-- `TF_STATIC_QOS`. -/
def tfStaticQos : Pointer QosProfile :=
  ⟨none, ⟨.keepLast, 100, .reliable, .transientLocal, .unspecified, .unspecified,
    .systemDefault, .unspecified, false⟩⟩

def clockTopic : TopicDefinition :=
  ⟨OpCode.clock.toByte, "/clock", "rosgraph_msgs/msg/Clock", true, true, clockAndTfQos,
    defaultCompressionProfile⟩

def tfTopic : TopicDefinition :=
  ⟨OpCode.tf.toByte, "/tf", "tf2_msgs/msg/TFMessage", true, true, clockAndTfQos,
    defaultCompressionProfile⟩

def tfStaticTopic : TopicDefinition :=
  ⟨OpCode.tfStatic.toByte, "/tf_static", "tf2_msgs/msg/TFMessage", true, true, tfStaticQos,
    defaultCompressionProfile⟩

/-- The predefined publishers. -/
def predefinedPublisher (parameters : Parameters) : List TopicDefinition :=
  (if parameters.publishClock then [clockTopic] else []) ++
    if parameters.publishTf then [tfTopic, tfStaticTopic] else []

/-- The predefined subscribers. -/
def predefinedSubscriber (parameters : Parameters) : List TopicDefinition :=
  if parameters.subscribeTf then [tfTopic, tfStaticTopic] else []

/-- A check that logs the reason it gives. -/
def check (condition : Prop) [Decidable condition] (reason : String) : Except Failure Unit :=
  if condition then .ok () else .error ⟨reason, reason⟩

/-- No test is made of a profile. -/
def uncreated {ε : Type} : ε → Except String Unit := fun _ => .ok ()

def readQos (env : Environment) (parameters : Parameters) :
    Except Failure (List (UInt8 × QosProfile)) :=
  readEntries ⟨"QoS Definition", "QoS Definitions are not well formatted", ""⟩ Prod.fst
    (qosDefinition env.parse) uncreated [] parameters.qos

def readCompression (env : Environment) (parameters : Parameters) :
    Except Failure (List (UInt8 × Compression)) :=
  readEntries ⟨"Compression Profile", "Compression Profiles are not well formatted", ""⟩ Prod.fst
    (compressionProfile env.parse) uncreated [] parameters.compression

/-- The profile maps after their loops. -/
def profilesOf (qos : List (UInt8 × QosProfile)) (compression : List (UInt8 × Compression)) :
    Profiles where
  qos := fun id => qos.lookup id
  compression := fun id => compression.lookup id

def readSubscriber (env : Environment) (parameters : Parameters) (profiles : Profiles) :
    Except Failure (List TopicDefinition) :=
  readEntries ⟨"Subscriber", "Subscribers are not well formatted", "Subscribers cannot be created"⟩
    TopicDefinition.channel (subscriberEntry env.parse profiles) env.createGenericSubscription []
    parameters.subscriber

def readPublisher (env : Environment) (parameters : Parameters) (profiles : Profiles)
    (subscriber : List TopicDefinition) : Except Failure (List TopicDefinition) :=
  readEntries ⟨"Publisher", "Publishers are not well formatted", "Publishers cannot be created"⟩
    TopicDefinition.channel
    (publisherEntry env.parse profiles (subscriber.map TopicDefinition.channel))
    env.createGenericPublisher [] parameters.publisher

def readServiceServer (env : Environment) (parameters : Parameters) (profiles : Profiles) :
    Except Failure (List ServiceActionDefinition) :=
  readEntries
    ⟨"Service Server", "Service Server is not well formatted", "Service Servers cannot be created"⟩
    ServiceActionDefinition.channel (serviceServerEntry env.parse profiles) env.testServiceServer []
    parameters.serviceServer

def readServiceClient (env : Environment) (parameters : Parameters) (profiles : Profiles)
    (server : List ServiceActionDefinition) : Except Failure (List ServiceActionDefinition) :=
  readEntries
    ⟨"Service Client", "Service Client is not well formatted", "Service Clients cannot be created"⟩
    ServiceActionDefinition.channel
    (serviceClientEntry env.parse profiles (server.map ServiceActionDefinition.channel))
    env.testServiceClient [] parameters.serviceClient

def readActionServer (env : Environment) (parameters : Parameters) (profiles : Profiles) :
    Except Failure (List ServiceActionDefinition) :=
  readEntries
    ⟨"Action Server", "Action Server is not well formatted", "Action Servers cannot be created"⟩
    ServiceActionDefinition.channel (actionServerEntry env.parse profiles) env.testActionServer []
    parameters.actionServer

def readActionClient (env : Environment) (parameters : Parameters) (profiles : Profiles)
    (server : List ServiceActionDefinition) : Except Failure (List ServiceActionDefinition) :=
  readEntries
    ⟨"Action Client", "Action Client is not well formatted", "Action Clients cannot be created"⟩
    ServiceActionDefinition.channel
    (actionClientEntry env.parse profiles (server.map ServiceActionDefinition.channel))
    env.testActionClient [] parameters.actionClient

/-- The checks of the authentication parameters. -/
def checkAuthentication (env : Environment) (parameters : Parameters) : Except Failure Unit := do
  check (¬ parameters.authenticationTimeout ≤ 0)
    "Value for authentication/timeout cannot be lower than 1"
  if parameters.authenticationPlugin ≠ "" then
    match env.createAuthentication parameters.authenticationPlugin with
    | .error what =>
        throw ⟨"Authentication plugin cannot be loaded. Error was: " ++ what,
          "Authentication plugin cannot be loaded"⟩
    | .ok () => pure ()
  check (parameters.authenticationOmit = true ∨ parameters.authenticationPlugin ≠ "")
    "Authentication check should not be omitted but no authentication plugin is provided"

end Parameters

open Parameters

def initializeParameters (env : Environment) (parameters : Parameters) (authentication : Bool) :
    Except Failure Accepted := do
  let qos ← readQos env parameters
  let compression ← readCompression env parameters
  let profiles := profilesOf qos compression
  let subscriber ← readSubscriber env parameters profiles
  let publisher ← readPublisher env parameters profiles subscriber
  let serviceServer ← readServiceServer env parameters profiles
  let serviceClient ← readServiceClient env parameters profiles serviceServer
  let actionServer ← readActionServer env parameters profiles
  let actionClient ← readActionClient env parameters profiles actionServer
  check (¬ (parameters.publishTf = true ∧ parameters.subscribeTf = true))
    "Cannot publish and subscribe to tf2 topics at the same time"
  check (¬ (parameters.publishClock = true ∧ parameters.subscribeClock = true))
    "Cannot publish and subscribe to clock topic at the same time"
  check (¬ parameters.fragmentationSize < 8)
    "Value for websocket_write_buffer_bytes cannot be lower than 8"
  if authentication then checkAuthentication env parameters
  return {
    toProfiles := profiles
    subscriber := subscriber ++ predefinedSubscriber parameters
    publisher := publisher ++ predefinedPublisher parameters
    serviceServer, serviceClient, actionServer, actionClient }

end Ros2Connect
