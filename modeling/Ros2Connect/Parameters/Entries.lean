import Ros2Connect.Lib.KeyMap
import Ros2Connect.Parameters.EnumParser

/-!
The definitions in the parameter lists of `initializeParameters`: a JSON text is
read field by field, in the order of the source, and fails with the text of the
exception thrown.
-/

namespace Ros2Connect

open Lib

/-- `boost::json::value`. What a double or an array holds is never read. -/
inductive JsonValue where
  | null
  | bool (value : Bool)
  | int64 (value : Int64)
  | uint64 (value : UInt64)
  | double
  | string (value : String)
  | array
  | object (members : List (String × JsonValue))

abbrev JsonObject := List (String × JsonValue)

/-- `boost::json::parse`: a value, or the text of an exception. -/
abbrev JsonParse := String → Except String JsonValue

/-- A pointer to an entry of a profile map, with the key it sits under, or to
one of the constants of `types.hpp`. -/
structure Pointer (ν : Type) where
  key : Option UInt8
  target : ν
  deriving Repr, DecidableEq

/-- `Topic_t` with its names and profiles. -/
structure TopicDefinition where
  channel : UInt8
  topic : String
  type : String
  useOwnThread : Bool
  permanent : Bool
  qos : Pointer QosProfile
  compression : Pointer Compression
  deriving Repr, DecidableEq

/-- `Service_Action_t`. -/
structure ServiceActionDefinition where
  channel : UInt8
  type : String
  useOwnThread : Bool
  allowSimultaneous : Bool
  serviceQos : Pointer QosProfile
  feedbackQos : Pointer QosProfile
  statusQos : Pointer QosProfile
  resultTimeout : Int32
  maxExecTime : UInt32
  compression : Pointer Compression
  deriving DecidableEq

/-- `DEFAULT_COMPRESSION_PROFILE`. -/
def defaultCompressionProfile : Pointer Compression := ⟨none, ⟨.none, 0⟩⟩

namespace Parameters

/-- Fails with the text of an exception unless the condition holds. -/
def require (condition : Prop) [Decidable condition] (what : String) : Except String Unit :=
  if condition then .ok () else .error what

theorem require_eq_ok {condition : Prop} {_ : Decidable condition} {what : String} {u : Unit}
    (h : require condition what = .ok u) : condition := by
  unfold require at h
  split at h
  · assumption
  · cases h

section Fields

variable (kind : String) (json : JsonObject) (field : String)

def asInt64 : Except String Int :=
  match json.lookup field with
  | some (.int64 value) => .ok value.toInt
  | _ => .error (kind ++ " does not hold \"" ++ field ++ "\" as int")

def asString : Except String String :=
  match json.lookup field with
  | some (.string value) => .ok value
  | _ => .error (kind ++ " does not hold \"" ++ field ++ "\" as string")

def asBool : Except String Bool :=
  match json.lookup field with
  | some (.bool value) => .ok value
  | _ => .error (kind ++ " does not hold \"" ++ field ++ "\" as bool")

/-- A field that may be missing. -/
def ifContains {α : Type} (parse : String → Except String α) (default : α) : Except String α :=
  match json.lookup field with
  | none => .ok default
  | some (.string value) => parse value
  | some _ => .error (kind ++ " does not hold \"" ++ field ++ "\" as string")

/-- The profile with the id a field holds; `find` takes the id as `uint8_t`. -/
def findProfile {ν : Type} (profiles : KeyMap UInt8 ν) : Except String (Pointer ν) :=
  match json.lookup field with
  | some (.int64 value) =>
      match profiles (castUInt8 value.toInt) with
      | some target => .ok ⟨some (castUInt8 value.toInt), target⟩
      | none => .error (kind ++ " holds unknown \"" ++ field ++ "\" id")
  | _ => .error (kind ++ " holds unknown \"" ++ field ++ "\" id")

end Fields

/-- The object a text holds. -/
def asObject (parse : JsonParse) (kind text : String) : Except String JsonObject := do
  match ← parse text with
  | .object members => return members
  | _ => .error (kind ++ " is not a JSON object")

/-- The loop over the ids or channels known so far. -/
instance decidableUnknown (known : List UInt8) (id : Int) :
    Decidable (∀ val ∈ known, (val.toNat : Int) ≠ id) :=
  List.decidableBAll _ known

/-- The id of a profile, which no other definition holds. -/
def profileId (kind same : String) (json : JsonObject) (known : List UInt8) :
    Except String UInt8 := do
  let id ← asInt64 kind json "id"
  require (0 ≤ id ∧ id ≤ 255) (kind ++ " does not hold \"id\" as uint8_t")
  require (∀ val ∈ known, (val.toNat : Int) ≠ id)
    ("There are at least two " ++ same ++ " which hold the same \"id\"")
  return castUInt8 id

/-- A QoS definition: the id and the profile. -/
def qosDefinition (parse : JsonParse) (known : List UInt8) (text : String) :
    Except String (UInt8 × QosProfile) := do
  let kind := "QoS Definition"
  let json ← asObject parse kind text
  let _ ← asInt64 kind json "id"
  let history ← asString kind json "history"
  let depth ← asInt64 kind json "depth"
  let reliability ← asString kind json "reliability"
  let durability ← asString kind json "durability"
  let history ← EnumParser.historyPolicy history
  let depth := castUInt64 depth
  let reliability ← EnumParser.reliabilityPolicy reliability
  let durability ← EnumParser.durabilityPolicy durability
  require (¬ depth < 1) (kind ++ " holds \"depth\" smaller than 1")
  let deadline ← ifContains kind json "deadline" EnumParser.deadlinePolicy .unspecified
  let lifespan ← ifContains kind json "lifespan" EnumParser.lifespanPolicy .unspecified
  let liveliness ← ifContains kind json "liveliness" EnumParser.livelinessPolicy .systemDefault
  let livelinessLeaseDuration ← ifContains kind json "liveliness_lease_duration"
    EnumParser.livelinessLeaseDurationPolicy .unspecified
  let id ← profileId kind "QoS definitions" json known
  return (id, ⟨history, depth, reliability, durability, deadline, lifespan, liveliness,
    livelinessLeaseDuration, false⟩)

/-- The rates a compressor takes. -/
def rateRange : Compressor → Int × Int
  | .none => (0, 2 ^ 32 - 1)
  | .lz4Default => (1, 65537)
  | .lz4Hc => (1, 12)
  | .zlib => (1, 9)

/-- A compression profile: the id and the profile. -/
def compressionProfile (parse : JsonParse) (known : List UInt8) (text : String) :
    Except String (UInt8 × Compression) := do
  let kind := "Compression Profile"
  let json ← asObject parse kind text
  let _ ← asInt64 kind json "id"
  let compressor ← asString kind json "compressor"
  let rate ← asInt64 kind json "rate"
  let compressor ← EnumParser.compressor compressor
  require ((rateRange compressor).1 ≤ rate ∧ rate ≤ (rateRange compressor).2)
    (kind ++ " does hold \"rate\" out of range")
  let id ← profileId kind "Compression Profiles" json known
  return (id, ⟨compressor, UInt32.ofNat rate.toNat⟩)

/-- The accepted profiles. -/
structure Profiles where
  qos : KeyMap UInt8 QosProfile
  compression : KeyMap UInt8 Compression

/-- A topic that has a parameter of its own is not defined by hand. -/
def requireOwnTopic (kind parameter topic : String) : Except String Unit := do
  let cannot (topic parameter : String) :=
    kind ++ " for topic \"" ++ topic ++ "\" cannot be created manually. Use parameter \"" ++
      parameter ++ "\""
  require (topic ≠ "/tf") (cannot "/tf" ("tf/" ++ parameter))
  require (topic ≠ "/tf_static") (cannot "/tf_static" ("tf/" ++ parameter))
  require (topic ≠ "/clock") (cannot "/clock" ("clock/" ++ parameter))

/-- The channel of an entry, which no entry before holds: `same` and `both` are
the texts for two entries of the list and for one of the other list, whose
channels are `others`. -/
def channel (kind same both : String) (json : JsonObject) (reserved : Int → Prop)
    [DecidablePred reserved] (known others : List UInt8) : Except String UInt8 := do
  let channel ← asInt64 kind json "channel"
  require (0 ≤ channel ∧ channel ≤ 255) (kind ++ " does not hold \"channel\" as uint8_t")
  require (¬ reserved channel) (kind ++ " does hold a reserved \"channel\"")
  require (∀ val ∈ known, (val.toNat : Int) ≠ channel)
    ("There are at least two " ++ same ++ " which hold the same \"channel\"")
  require (∀ val ∈ others, (val.toNat : Int) ≠ channel)
    ("There is a " ++ both ++ " which hold both the same \"channel\"")
  return castUInt8 channel

/-- `OP_CODE_MIN` to `OP_CODE_MAX`. -/
def IsOpCode (channel : Int) : Prop := 249 ≤ channel ∧ channel ≤ 255

instance : DecidablePred IsOpCode :=
  fun channel => inferInstanceAs (Decidable (249 ≤ channel ∧ channel ≤ 255))

/-- Compression is left to entries with a thread of their own. -/
def requireOwnThread (kind : String) (compression : Pointer Compression) (useOwnThread : Bool) :
    Except String Unit :=
  require (compression.target.compressor = .none ∨ useOwnThread = true)
    (kind ++ " uses compression but not own thread")

def subscriberEntry (parse : JsonParse) (profiles : Profiles) (known : List UInt8)
    (text : String) : Except String TopicDefinition := do
  let kind := "Subscriber"
  let json ← asObject parse kind text
  let _ ← asInt64 kind json "channel"
  let topic ← asString kind json "topic"
  let type ← asString kind json "type"
  let useOwnThread ← asBool kind json "useOwnThread"
  let permanent ← asBool kind json "permanent"
  let _ ← asInt64 kind json "qos"
  let _ ← asInt64 kind json "compression"
  requireOwnTopic kind "subscribe" topic
  let qos ← findProfile kind json "qos" profiles.qos
  let compression ← findProfile kind json "compression" profiles.compression
  requireOwnThread kind compression useOwnThread
  let channel ← channel kind "subscribers" "" json IsOpCode known []
  return ⟨channel, topic, type, useOwnThread, permanent, qos, compression⟩

def publisherEntry (parse : JsonParse) (profiles : Profiles) (subscriber known : List UInt8)
    (text : String) : Except String TopicDefinition := do
  let kind := "Publisher"
  let json ← asObject parse kind text
  let _ ← asInt64 kind json "channel"
  let topic ← asString kind json "topic"
  let type ← asString kind json "type"
  let useOwnThread ← asBool kind json "useOwnThread"
  let _ ← asInt64 kind json "qos"
  requireOwnTopic kind "publish" topic
  let qos ← findProfile kind json "qos" profiles.qos
  let channel ← channel kind "publisher" "publisher and subscriber" json IsOpCode known subscriber
  return ⟨channel, topic, type, useOwnThread, true, qos, defaultCompressionProfile⟩

/-- Calls of an entry are processed at the same time in a thread of their own
only. -/
def requireSimultaneous (kind : String) (allowSimultaneous useOwnThread : Bool) :
    Except String Unit :=
  require (allowSimultaneous = false ∨ useOwnThread = true)
    (kind ++ " defines simultaneous execution but not usage of own thread")

/-- The value of a field that is checked by its range. -/
def requireRange (kind field type : String) (value low high : Int) : Except String Unit :=
  require (low ≤ value ∧ value ≤ high)
    (kind ++ " does not hold \"" ++ field ++ "\" as " ++ type)

def serviceServerEntry (parse : JsonParse) (profiles : Profiles) (known : List UInt8)
    (text : String) : Except String ServiceActionDefinition := do
  let kind := "Service Server"
  let json ← asObject parse kind text
  let _ ← asInt64 kind json "channel"
  let type ← asString kind json "type"
  let maxExecTime ← asInt64 kind json "maxExecTime"
  let useOwnThread ← asBool kind json "useOwnThread"
  let allowSimultaneous ← asBool kind json "allowSimultaneous"
  requireSimultaneous kind allowSimultaneous useOwnThread
  let qos ← findProfile kind json "service-qos" profiles.qos
  let compression ← findProfile kind json "compression" profiles.compression
  requireOwnThread kind compression useOwnThread
  requireRange kind "maxExecTime" "uint32_t" maxExecTime 0 (2 ^ 32 - 1)
  let channel ← channel kind "service server" "" json (fun _ => False) known []
  return ⟨channel, type, useOwnThread, allowSimultaneous, qos, qos, qos, 0,
    UInt32.ofNat maxExecTime.toNat, compression⟩

def serviceClientEntry (parse : JsonParse) (profiles : Profiles) (server known : List UInt8)
    (text : String) : Except String ServiceActionDefinition := do
  let kind := "Service Client"
  let json ← asObject parse kind text
  let _ ← asInt64 kind json "channel"
  let type ← asString kind json "type"
  let useOwnThread ← asBool kind json "useOwnThread"
  let allowSimultaneous ← asBool kind json "allowSimultaneous"
  requireSimultaneous kind allowSimultaneous useOwnThread
  let qos ← findProfile kind json "service-qos" profiles.qos
  let compression ← findProfile kind json "compression" profiles.compression
  requireOwnThread kind compression useOwnThread
  let channel ← channel kind "service clients" "service client and server" json
    (fun _ => False) known server
  return ⟨channel, type, useOwnThread, allowSimultaneous, qos, qos, qos, 0, 0, compression⟩

def actionServerEntry (parse : JsonParse) (profiles : Profiles) (known : List UInt8)
    (text : String) : Except String ServiceActionDefinition := do
  let kind := "Action Server"
  let json ← asObject parse kind text
  let _ ← asInt64 kind json "channel"
  let type ← asString kind json "type"
  let resultTimeout ← asInt64 kind json "resultTimeout"
  let useOwnThread ← asBool kind json "useOwnThread"
  let allowSimultaneous ← asBool kind json "allowSimultaneous"
  requireSimultaneous kind allowSimultaneous useOwnThread
  let serviceQos ← findProfile kind json "service-qos" profiles.qos
  let feedbackQos ← findProfile kind json "feedback-qos" profiles.qos
  let statusQos ← findProfile kind json "status-qos" profiles.qos
  let compression ← findProfile kind json "compression" profiles.compression
  requireOwnThread kind compression useOwnThread
  requireRange kind "resultTimeout" "int32_t" resultTimeout (-2 ^ 31) (2 ^ 31 - 1)
  let channel ← channel kind "action server" "" json (fun _ => False) known []
  return ⟨channel, type, useOwnThread, allowSimultaneous, serviceQos, feedbackQos, statusQos,
    Int32.ofInt resultTimeout, 0, compression⟩

def actionClientEntry (parse : JsonParse) (profiles : Profiles) (server known : List UInt8)
    (text : String) : Except String ServiceActionDefinition := do
  let kind := "Action Client"
  let json ← asObject parse kind text
  let _ ← asInt64 kind json "channel"
  let type ← asString kind json "type"
  let useOwnThread ← asBool kind json "useOwnThread"
  let allowSimultaneous ← asBool kind json "allowSimultaneous"
  requireSimultaneous kind allowSimultaneous useOwnThread
  let serviceQos ← findProfile kind json "service-qos" profiles.qos
  let feedbackQos ← findProfile kind json "feedback-qos" profiles.qos
  let statusQos ← findProfile kind json "status-qos" profiles.qos
  let compression ← findProfile kind json "compression" profiles.compression
  requireOwnThread kind compression useOwnThread
  let channel ← channel kind "action clients" "action client and server" json
    (fun _ => False) known server
  return ⟨channel, type, useOwnThread, allowSimultaneous, serviceQos, feedbackQos, statusQos,
    0, 0, compression⟩

end Parameters

end Ros2Connect
