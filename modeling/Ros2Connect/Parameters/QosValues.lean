import Ros2Connect.Parameters.ProfileIds
import Ros2Connect.Parameters.RmwTime

/-!
The numbers of the stored QoS profiles beside the integers their definitions
are written with. The depth is checked after its conversion to an unsigned
integer, the seconds of a duration are converted without a check.
-/

namespace Ros2Connect

open Lib

theorem castUInt64_toNat (value : Int) : ((castUInt64 value).toNat : Int) = value % 2 ^ 64 := by
  have hlow : 0 ≤ value % 2 ^ 64 := Int.emod_nonneg _ (by decide)
  have hhigh : value % 2 ^ 64 < 2 ^ 64 := Int.emod_lt_of_pos _ (by decide)
  rw [castUInt64, UInt64.toNat_ofNat']
  omega

/-- The conversion keeps the values of the field, and only those. -/
theorem castUInt64_toNat_eq (value : Int) :
    ((castUInt64 value).toNat : Int) = value ↔ 0 ≤ value ∧ value < 2 ^ 64 := by
  rw [castUInt64_toNat]
  omega

namespace EnumParser

theorem Spells.head_eq {text : List Char} {sec : Int} {nsec : Nat} (h : Spells text sec nsec) :
    text.head? = some '\x7b' := by
  cases h
  rfl

/-- A parser of a duration reads the form into its two numbers as they are
converted; what is too large it refuses. -/
def ReadsTime (policy : String → Except String RmwTime) : Prop :=
  ∀ text time sec nsec, policy text = .ok time → Spells text.toList sec nsec →
    sec < 2 ^ 63 ∧ nsec < 2 ^ 64 ∧ time = ⟨castUInt64 sec, UInt64.ofNat nsec⟩

theorem parseRmwTime_readsTime (policy : String) :
    ReadsTime fun value => parseRmwTime value policy := by
  intro text time sec nsec h hspells
  simp only [parseRmwTime, matchRmwTime_complete hspells] at h
  split at h
  · cases h
  next hsec =>
    split at h
    · cases h
    next hnsec =>
      cases h
      exact ⟨by omega, by omega, rfl⟩

/-- The names of the defaults are not of the form. -/
theorem ReadsTime.ite {name : String} {default : RmwTime} {policy : String → Except String RmwTime}
    (hname : name.toList.head? ≠ some '\x7b') (h : ReadsTime policy) :
    ReadsTime fun text => if text = name then .ok default else policy text := by
  intro text time sec nsec htime hspells
  have hother : text ≠ name := by
    rintro rfl
    exact hname hspells.head_eq
  simp only [hother, if_false] at htime
  exact h text time sec nsec htime hspells

theorem deadlinePolicy_readsTime : ReadsTime deadlinePolicy :=
  .ite (by decide) (.ite (by decide) (parseRmwTime_readsTime "deadline"))

theorem lifespanPolicy_readsTime : ReadsTime lifespanPolicy :=
  .ite (by decide) (parseRmwTime_readsTime "lifespan")

theorem livelinessLeaseDurationPolicy_readsTime : ReadsTime livelinessLeaseDurationPolicy :=
  .ite (by decide) (.ite (by decide) (parseRmwTime_readsTime "livelinessLeaseDuration"))

end EnumParser

open EnumParser

namespace Parameters

/-- The string a text holds in a field. -/
def writtenString (parse : JsonParse) (text field : String) : Option String :=
  match parse text with
  | .ok (.object members) =>
      match members.lookup field with
      | some (.string value) => some value
      | _ => none
  | _ => none

/-- The two integers a field holds in the form of a duration. -/
def WritesTime (parse : JsonParse) (text field : String) (sec : Int) (nsec : Nat) : Prop :=
  ∃ value, writtenString parse text field = some value ∧ Spells value.toList sec nsec

/-- A duration written in the form is stored as it is written. -/
def TimeAsWritten (parse : JsonParse) (text field : String) (time : RmwTime) : Prop :=
  ∀ sec nsec, WritesTime parse text field sec nsec →
    (time.sec.toNat : Int) = sec ∧ time.nsec.toNat = nsec

/-- The numbers of a profile are the integers its definition is written with. -/
structure StoredAsWritten (parse : JsonParse) (text : String) (profile : QosProfile) : Prop where
  depth : ∃ depth, writtenId parse text "depth" = some depth ∧ 1 ≤ depth ∧
    (profile.depth.toNat : Int) = depth
  deadline : TimeAsWritten parse text "deadline" profile.deadline
  lifespan : TimeAsWritten parse text "lifespan" profile.lifespan
  livelinessLeaseDuration : TimeAsWritten parse text "liveliness_lease_duration"
    profile.livelinessLeaseDuration

/-- No negative integer is written for the depth or for seconds. -/
structure NonNegative (parse : JsonParse) (text : String) : Prop where
  depth : ∀ depth, writtenId parse text "depth" = some depth → 0 ≤ depth
  sec : ∀ field ∈ ["deadline", "lifespan", "liveliness_lease_duration"], ∀ sec nsec,
    WritesTime parse text field sec nsec → 0 ≤ sec

/-- What a QoS definition was read to. -/
structure QosRead (parse : JsonParse) (known : List UInt8) (text : String) (key : UInt8)
    (profile : QosProfile) : Prop where
  json : ∃ json, asObject parse "QoS Definition" text = .ok json ∧
    (∃ depth, asInt64 "QoS Definition" json "depth" = .ok depth ∧
      ¬ castUInt64 depth < 1 ∧ profile.depth = castUInt64 depth) ∧
    ifContains "QoS Definition" json "deadline" deadlinePolicy .unspecified =
      .ok profile.deadline ∧
    ifContains "QoS Definition" json "lifespan" lifespanPolicy .unspecified =
      .ok profile.lifespan ∧
    ifContains "QoS Definition" json "liveliness_lease_duration" livelinessLeaseDurationPolicy
      .unspecified = .ok profile.livelinessLeaseDuration ∧
    profileId "QoS Definition" "QoS definitions" json known = .ok key

section Definition

variable {parse : JsonParse} {known : List UInt8} {kind text field : String} {key : UInt8}
  {profile : QosProfile}

theorem qosDefinition_eq_ok (h : qosDefinition parse known text = .ok (key, profile)) :
    QosRead parse known text key profile := by
  simp only [qosDefinition, bind_eq_ok, pure_eq_ok] at h
  obtain ⟨json, hjson, _, -, _, -, depth, hdepth, _, -, _, -, _, -, _, -, _, -, _, hrequire,
    deadline, hdeadline, lifespan, hlifespan, _, -, lease, hlease, found, hid, hpair⟩ := h
  cases hpair
  exact ⟨json, hjson, ⟨depth, hdepth, require_eq_ok hrequire, rfl⟩, hdeadline, hlifespan, hlease,
    hid⟩

theorem writtenId_lt {value : Int} (h : writtenId parse text field = some value) :
    value < 2 ^ 63 := by
  unfold writtenId at h
  split at h
  · split at h
    next found _ =>
      cases h
      exact found.toInt_lt
    next => cases h
  · cases h

theorem ifContains_eq_ok {json : JsonObject} {policy : String → Except String RmwTime}
    {default time : RmwTime} {value : String} (hjson : asObject parse kind text = .ok json)
    (h : ifContains kind json field policy default = .ok time)
    (hvalue : writtenString parse text field = some value) : policy value = .ok time := by
  simp only [writtenString, asObject_eq_ok hjson] at hvalue
  split at hvalue
  next found hfound =>
    cases hvalue
    simpa only [ifContains, hfound] using h
  next => cases hvalue

/-- A duration is stored as it is written exactly if its seconds are not
negative. -/
theorem timeAsWritten_iff {json : JsonObject} {policy : String → Except String RmwTime}
    {default time : RmwTime} (hpolicy : ReadsTime policy)
    (hjson : asObject parse kind text = .ok json)
    (h : ifContains kind json field policy default = .ok time) :
    TimeAsWritten parse text field time ↔
      ∀ sec nsec, WritesTime parse text field sec nsec → 0 ≤ sec := by
  constructor
  · intro hwritten sec nsec hwrites
    have hsec := (hwritten sec nsec hwrites).1
    omega
  · rintro hnonneg sec nsec ⟨value, hvalue, hspells⟩
    have hsec := hnonneg sec nsec ⟨value, hvalue, hspells⟩
    obtain ⟨hhigh, hnsec, rfl⟩ :=
      hpolicy value time sec nsec (ifContains_eq_ok hjson h hvalue) hspells
    exact ⟨(castUInt64_toNat_eq sec).mpr ⟨hsec, by omega⟩, UInt64.toNat_ofNat_of_lt' hnsec⟩

/-- The check of the converted depth refuses zero only. -/
theorem QosRead.depth_iff (h : QosRead parse known text key profile) :
    (∃ depth, writtenId parse text "depth" = some depth ∧ 1 ≤ depth ∧
        (profile.depth.toNat : Int) = depth) ↔
      ∀ depth, writtenId parse text "depth" = some depth → 0 ≤ depth := by
  obtain ⟨json, hjson, ⟨depth, hdepth, hcheck, hstored⟩, -⟩ := h.json
  have hwritten := writtenId_of_asInt64 hjson hdepth
  constructor
  · rintro ⟨other, hother, hpositive, -⟩ found hfound
    cases hother.symm.trans hfound
    omega
  · intro hnonneg
    have hlow := hnonneg depth hwritten
    have hhigh := writtenId_lt hwritten
    have hkept := (castUInt64_toNat_eq depth).mpr ⟨hlow, by omega⟩
    have hpositive : 1 ≤ (castUInt64 depth).toNat := by
      rw [UInt64.lt_iff_toNat_lt] at hcheck
      exact Nat.le_of_not_lt hcheck
    exact ⟨depth, hwritten, by omega, by rw [hstored, hkept]⟩

theorem QosRead.storedAsWritten_iff (h : QosRead parse known text key profile) :
    StoredAsWritten parse text profile ↔ NonNegative parse text := by
  obtain ⟨json, hjson, -, hdeadline, hlifespan, hlease, -⟩ := h.json
  have hdeadlineIff := timeAsWritten_iff deadlinePolicy_readsTime hjson hdeadline
  have hlifespanIff := timeAsWritten_iff lifespanPolicy_readsTime hjson hlifespan
  have hleaseIff := timeAsWritten_iff livelinessLeaseDurationPolicy_readsTime hjson hlease
  constructor
  · intro hstored
    refine ⟨h.depth_iff.mp hstored.depth, ?_⟩
    simp only [List.forall_mem_cons, List.not_mem_nil, false_imp_iff, implies_true, and_true]
    exact ⟨hdeadlineIff.mp hstored.deadline, hlifespanIff.mp hstored.lifespan,
      hleaseIff.mp hstored.livelinessLeaseDuration⟩
  · intro hnonneg
    exact ⟨h.depth_iff.mpr hnonneg.depth, hdeadlineIff.mpr (hnonneg.sec _ (by simp)),
      hlifespanIff.mpr (hnonneg.sec _ (by simp)), hleaseIff.mpr (hnonneg.sec _ (by simp))⟩

theorem QosRead.key_notMem (h : QosRead parse known text key profile) : key ∉ known := by
  obtain ⟨json, -, -, -, -, -, hid⟩ := h.json
  simp only [profileId, bind_eq_ok, pure_eq_ok] at hid
  obtain ⟨id, -, _, hrange, _, hknown, rfl⟩ := hid
  intro hmem
  exact require_eq_ok hknown _ hmem ((castUInt8_toNat_eq id).mpr (require_eq_ok hrange))

end Definition

/-- A loop stores the profile of every definition under its id. -/
theorem Reads.lookup {ν : Type} {read : List UInt8 → String → Except String (UInt8 × ν)}
    {known : List UInt8} {list : List String} {pairs : List (UInt8 × ν)}
    (h : Reads Prod.fst read known list pairs)
    (hfresh : ∀ known text pair, read known text = .ok pair → pair.1 ∉ known) :
    ∀ text ∈ list, ∃ before key profile, read before text = .ok (key, profile) ∧
      pairs.lookup key = some profile := by
  induction h with
  | nil => exact fun _ h => nomatch h
  | @cons known text entry rest pairs hread hrest ih =>
      intro found hfound
      rcases List.mem_cons.mp hfound with rfl | hmem
      · exact ⟨known, entry.1, entry.2, hread, List.lookup_cons_self⟩
      · obtain ⟨before, key, profile, hkey, hlookup⟩ := ih found hmem
        refine ⟨before, key, profile, hkey, ?_⟩
        have hother : key ≠ entry.1 := by
          rintro rfl
          have hlater := (hrest.nodup hfresh).2 entry.1 (by simp)
          exact hlater (List.mem_map.mpr ⟨_, mem_of_lookup hlookup, rfl⟩)
        rw [List.lookup_cons, beq_eq_false_iff_ne.mpr hother]
        exact hlookup

/-- Every QoS definition is stored under the id it is written with. -/
theorem Initialized.stored {env : Environment} {parameters : Parameters} {accepted : Accepted}
    (h : Initialized env parameters accepted) : ∀ definition ∈ parameters.qos,
      ∃ (known : List UInt8) (key : UInt8) (profile : QosProfile),
        QosRead env.parse known definition key profile ∧
          writtenId env.parse definition "id" = some (key.toNat : Int) ∧
          accepted.qos key = some profile := by
  obtain ⟨qos, compression, hqos, -, hprofiles⟩ := h.profiles
  intro definition hdefinition
  obtain ⟨known, key, profile, hread, hlookup⟩ := (reads_of_readEntries hqos).lookup
    (fun _ _ _ hpair => (qosDefinition_eq_ok hpair).key_notMem) definition hdefinition
  obtain ⟨id, hid, hlow, hhigh, rfl⟩ := qosDefinition_keysById _ known definition key profile hread
  refine ⟨known, castUInt8 id, profile, qosDefinition_eq_ok hread, ?_, ?_⟩
  · rw [(castUInt8_toNat_eq id).mpr ⟨hlow, hhigh⟩, hid]
  · rw [congrArg Profiles.qos hprofiles]
    exact hlookup

end Parameters

open Parameters

/-- In an accepted configuration the numbers of the profile stored for a
definition are the ones written exactly if none of these is negative. -/
theorem initializeParameters_stores {env : Environment} {parameters : Parameters}
    {authentication : Bool} {accepted : Accepted}
    (h : initializeParameters env parameters authentication = .ok accepted) :
    ∀ definition ∈ parameters.qos, ∃ (key : UInt8) (profile : QosProfile),
      writtenId env.parse definition "id" = some (key.toNat : Int) ∧
        accepted.qos key = some profile ∧
        (StoredAsWritten env.parse definition profile ↔ NonNegative env.parse definition) := by
  intro definition hdefinition
  obtain ⟨known, key, profile, hread, hid, hprofile⟩ :=
    (initializeParameters_eq_ok h).stored definition hdefinition
  exact ⟨key, profile, hid, hprofile, hread.storedAsWritten_iff⟩

namespace Sample

/-- A definition with a deadline, and the same with a negative depth. -/
def valuesText (negative : Bool) : String :=
  "\x7b\"id\": 3, \"history\": \"RMW_QOS_POLICY_HISTORY_KEEP_LAST\", \"depth\": " ++
    (if negative then "-1" else "10") ++
    ", \"reliability\": \"RMW_QOS_POLICY_RELIABILITY_RELIABLE\", " ++
    "\"durability\": \"RMW_QOS_POLICY_DURABILITY_VOLATILE\", " ++
    "\"deadline\": \"\x7b 5uL, 7 \x7d\"\x7d"

def valuesObject (depth : Int64) : JsonObject :=
  [("id", .int64 3), ("history", .string "RMW_QOS_POLICY_HISTORY_KEEP_LAST"),
    ("depth", .int64 depth), ("reliability", .string "RMW_QOS_POLICY_RELIABILITY_RELIABLE"),
    ("durability", .string "RMW_QOS_POLICY_DURABILITY_VOLATILE"),
    ("deadline", .string "\x7b 5uL, 7 \x7d")]

/-- The parser on these texts. -/
def valuesParse : JsonParse := fun text =>
  if text = valuesText false then .ok (.object (valuesObject 10))
  else if text = valuesText true then .ok (.object (valuesObject (-1)))
  else .error "syntax error"

def valuesEnv : Environment := { env with parse := valuesParse }

/-- A configuration with nothing but this definition. -/
def valuesParameters (negative : Bool) : Parameters :=
  { parameters false with
    qos := [valuesText negative]
    compression := []
    subscriber := []
    serviceServer := [] }

theorem valuesAccepted (negative : Bool) : ∃ accepted,
    initializeParameters valuesEnv (valuesParameters negative) true = .ok accepted := by
  have hrun : (initializeParameters valuesEnv (valuesParameters negative) true).isOk = true := by
    cases negative <;> decide +kernel
  cases hresult : initializeParameters valuesEnv (valuesParameters negative) true with
  | error failure =>
      rw [hresult] at hrun
      cases hrun
  | ok accepted => exact ⟨accepted, rfl⟩

theorem writtenId_depth (negative : Bool) :
    writtenId valuesParse (valuesText negative) "depth" = some (if negative then -1 else 10) := by
  cases negative <;> decide +kernel

theorem nonNegative_values : NonNegative valuesParse (valuesText false) := by
  refine ⟨fun depth hdepth => ?_, fun field hfield sec nsec hwrites => ?_⟩
  · cases (writtenId_depth false).symm.trans hdepth
    decide
  · obtain ⟨value, hvalue, hspells⟩ := hwrites
    simp only [List.mem_cons, List.not_mem_nil, or_false] at hfield
    rcases hfield with rfl | rfl | rfl
    · have hdeadline : writtenString valuesParse (valuesText false) "deadline" =
          some "\x7b 5uL, 7 \x7d" := by decide +kernel
      cases hdeadline.symm.trans hvalue
      have hmatch : matchRmwTime "\x7b 5uL, 7 \x7d".toList = some (5, 7) := by decide +kernel
      cases hmatch.symm.trans (matchRmwTime_complete hspells)
      decide
    · have hnone : writtenString valuesParse (valuesText false) "lifespan" = none := by
        decide +kernel
      cases hnone.symm.trans hvalue
    · have hnone : writtenString valuesParse (valuesText false) "liveliness_lease_duration" =
          none := by decide +kernel
      cases hnone.symm.trans hvalue

end Sample

/-- The depth 10 and the deadline of 5 seconds and 7 nanoseconds are stored. -/
theorem initializeParameters_stores_sample : ∃ (accepted : Accepted) (key : UInt8)
    (profile : QosProfile), accepted.qos key = some profile ∧
      StoredAsWritten Sample.valuesParse (Sample.valuesText false) profile := by
  obtain ⟨accepted, haccepted⟩ := Sample.valuesAccepted false
  obtain ⟨key, profile, -, hprofile, hiff⟩ :=
    initializeParameters_stores haccepted (Sample.valuesText false) (List.mem_singleton_self _)
  exact ⟨accepted, key, profile, hprofile, hiff.mpr Sample.nonNegative_values⟩

/-- A definition with the depth -1 is accepted. -/
theorem initializeParameters_converts : ¬ ∀ env parameters authentication accepted,
    initializeParameters env parameters authentication = .ok accepted →
      ∀ definition ∈ parameters.qos, ∀ (key : UInt8) (profile : QosProfile),
        writtenId env.parse definition "id" = some (key.toNat : Int) →
          accepted.qos key = some profile → StoredAsWritten env.parse definition profile := by
  intro hall
  obtain ⟨accepted, haccepted⟩ := Sample.valuesAccepted true
  have hmem : Sample.valuesText true ∈ (Sample.valuesParameters true).qos :=
    List.mem_singleton_self _
  obtain ⟨-, key, profile, -, hid, hprofile⟩ :=
    (initializeParameters_eq_ok haccepted).stored _ hmem
  obtain ⟨depth, hdepth, hpositive, -⟩ :=
    (hall _ _ _ _ haccepted _ hmem key profile hid hprofile).depth
  cases (Sample.writtenId_depth true).symm.trans hdepth
  exact absurd hpositive (by decide)

end Ros2Connect
