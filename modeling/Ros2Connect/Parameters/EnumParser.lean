import Ros2Connect.Types

/-!
`EnumParser` and the profile types of rmw it fills. A parser fails with the text
its exception carries.
-/

namespace Ros2Connect

inductive HistoryPolicy where
  | systemDefault
  | keepLast
  | keepAll
  deriving Repr, DecidableEq

inductive ReliabilityPolicy where
  | systemDefault
  | reliable
  | bestEffort
  deriving Repr, DecidableEq

inductive DurabilityPolicy where
  | systemDefault
  | transientLocal
  | volatile
  deriving Repr, DecidableEq

inductive LivelinessPolicy where
  | systemDefault
  | automatic
  | manualByTopic
  | bestAvailable
  deriving Repr, DecidableEq

/-- `rmw_time_t`. -/
structure RmwTime where
  sec : UInt64
  nsec : UInt64
  deriving Repr, DecidableEq

namespace RmwTime

/-- `RMW_DURATION_UNSPECIFIED`, the default of a deadline, a lifespan and a
lease duration. -/
def unspecified : RmwTime := ⟨0, 0⟩

/-- `RMW_QOS_DEADLINE_BEST_AVAILABLE` and its namesake for the lease. -/
def bestAvailable : RmwTime := ⟨9223372036, 854775806⟩

end RmwTime

/-- `rmw_qos_profile_t`. -/
structure QosProfile where
  history : HistoryPolicy
  depth : UInt64
  reliability : ReliabilityPolicy
  durability : DurabilityPolicy
  deadline : RmwTime
  lifespan : RmwTime
  liveliness : LivelinessPolicy
  livelinessLeaseDuration : RmwTime
  avoidRosNamespaceConventions : Bool
  deriving Repr, DecidableEq

/-- `static_cast<uint8_t>` of a 64-bit integer. -/
def castUInt8 (value : Int) : UInt8 := UInt8.ofNat (value % 2 ^ 8).toNat

/-- The conversion of a 64-bit integer to an unsigned field. -/
def castUInt64 (value : Int) : UInt64 := UInt64.ofNat (value % 2 ^ 64).toNat

theorem castUInt8_toNat (value : Int) : ((castUInt8 value).toNat : Int) = value % 2 ^ 8 := by
  have hlow : 0 ≤ value % 2 ^ 8 := Int.emod_nonneg _ (by decide)
  have hhigh : value % 2 ^ 8 < 2 ^ 8 := Int.emod_lt_of_pos _ (by decide)
  rw [castUInt8, UInt8.toNat_ofNat']
  omega

/-- The cast keeps the values of its type, and only those. -/
theorem castUInt8_toNat_eq (value : Int) :
    ((castUInt8 value).toNat : Int) = value ↔ 0 ≤ value ∧ value ≤ 255 := by
  rw [castUInt8_toNat]
  omega

namespace EnumParser

def compressor (compressor : String) : Except String Compressor :=
  if compressor = "NONE" then .ok .none
  else if compressor = "LZ4_DEFAULT" then .ok .lz4Default
  else if compressor = "LZ4_HC" then .ok .lz4Hc
  else if compressor = "ZLIB" then .ok .zlib
  else .error ("Not a compressor: \"" ++ compressor ++ "\"")

def historyPolicy (policy : String) : Except String HistoryPolicy :=
  if policy = "RMW_QOS_POLICY_HISTORY_SYSTEM_DEFAULT" then .ok .systemDefault
  else if policy = "RMW_QOS_POLICY_HISTORY_KEEP_LAST" then .ok .keepLast
  else if policy = "RMW_QOS_POLICY_HISTORY_KEEP_ALL" then .ok .keepAll
  else .error ("Not a history policy: \"" ++ policy ++ "\"")

def reliabilityPolicy (policy : String) : Except String ReliabilityPolicy :=
  if policy = "RMW_QOS_POLICY_RELIABILITY_SYSTEM_DEFAULT" then .ok .systemDefault
  else if policy = "RMW_QOS_POLICY_RELIABILITY_RELIABLE" then .ok .reliable
  else if policy = "RMW_QOS_POLICY_RELIABILITY_BEST_EFFORT" then .ok .bestEffort
  else .error ("Not a reliability policy: \"" ++ policy ++ "\"")

def durabilityPolicy (policy : String) : Except String DurabilityPolicy :=
  if policy = "RMW_QOS_POLICY_DURABILITY_SYSTEM_DEFAULT" then .ok .systemDefault
  else if policy = "RMW_QOS_POLICY_DURABILITY_TRANSIENT_LOCAL" then .ok .transientLocal
  else if policy = "RMW_QOS_POLICY_DURABILITY_VOLATILE" then .ok .volatile
  else .error ("Not a durability policy: \"" ++ policy ++ "\"")

def livelinessPolicy (policy : String) : Except String LivelinessPolicy :=
  if policy = "RMW_QOS_POLICY_LIVELINESS_SYSTEM_DEFAULT" then .ok .systemDefault
  else if policy = "RMW_QOS_POLICY_LIVELINESS_AUTOMATIC" then .ok .automatic
  else if policy = "RMW_QOS_POLICY_LIVELINESS_MANUAL_BY_TOPIC" then .ok .manualByTopic
  else if policy = "RMW_QOS_POLICY_LIVELINESS_BEST_AVAILABLE" then .ok .bestAvailable
  else .error ("Not a liveliness policy: \"" ++ policy ++ "\"")

/-- The class `\s` of the regular expression. -/
def isSpace (c : Char) : Bool :=
  c == ' ' || c == '\t' || c == '\n' || c == '\x0b' || c == '\x0c' || c == '\r'

/-- What follows `(?:[uU]*[lL]*)?\s*`. -/
def skipSuffix (text : List Char) : List Char :=
  ((text.dropWhile fun c => c == 'u' || c == 'U').dropWhile fun c =>
    c == 'l' || c == 'L').dropWhile isSpace

def number (digits : List Char) : Nat :=
  digits.foldl (fun value c => 10 * value + (c.toNat - '0'.toNat)) 0

/-- `RMW_TIME_REGEX` with its two groups. No two of its neighbouring parts
begin alike, so the longest match of each part is the match. -/
def matchRmwTime (value : List Char) : Option (Int × Nat) :=
  match value with
  | '\x7b' :: rest =>
      let signed := rest.dropWhile isSpace
      let negative := signed.head? == some '-'
      let (sec, rest) := (if negative then signed.tail else signed).span Char.isDigit
      match sec, skipSuffix rest with
      | _ :: _, ',' :: rest =>
          let (nsec, rest) := (rest.dropWhile isSpace).span Char.isDigit
          match nsec, skipSuffix rest with
          | _ :: _, ['\x7d'] =>
              some (if negative then -(number sec : Int) else number sec, number nsec)
          | _, _ => none
      | _, _ => none
  | _ => none

/-- `std::stoll` and `std::stoull` throw when the number is out of range. -/
def parseRmwTime (value policy : String) : Except String RmwTime :=
  match matchRmwTime value.toList with
  | none => .error ("Not a " ++ policy ++ " policy: \"" ++ value ++ "\"")
  | some (sec, nsec) =>
      if sec < -2 ^ 63 ∨ 2 ^ 63 ≤ sec then .error "stoll"
      else if 2 ^ 64 ≤ nsec then .error "stoull"
      else .ok ⟨castUInt64 sec, UInt64.ofNat nsec⟩

def deadlinePolicy (policy : String) : Except String RmwTime :=
  if policy = "RMW_QOS_DEADLINE_DEFAULT" then .ok .unspecified
  else if policy = "RMW_QOS_DEADLINE_BEST_AVAILABLE" then .ok .bestAvailable
  else parseRmwTime policy "deadline"

def lifespanPolicy (policy : String) : Except String RmwTime :=
  if policy = "RMW_QOS_LIFESPAN_DEFAULT" then .ok .unspecified
  else parseRmwTime policy "lifespan"

def livelinessLeaseDurationPolicy (policy : String) : Except String RmwTime :=
  if policy = "RMW_QOS_LIVELINESS_LEASE_DURATION_DEFAULT" then .ok .unspecified
  else if policy = "RMW_QOS_LIVELINESS_LEASE_DURATION_BEST_AVAILABLE" then .ok .bestAvailable
  else parseRmwTime policy "livelinessLeaseDuration"

end EnumParser

end Ros2Connect
