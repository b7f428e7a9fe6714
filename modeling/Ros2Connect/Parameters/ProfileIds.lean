import Ros2Connect.Parameters.Accepted

/-!
The profiles the entries of an accepted configuration point to. An id is checked
to be a `uint8_t` where a profile is defined and cast to one where it is
referred to.
-/

namespace Ros2Connect

open Lib

namespace Parameters

/-- The integer a text holds in a field. -/
def writtenId (parse : JsonParse) (text field : String) : Option Int :=
  match parse text with
  | .ok (.object members) =>
      match members.lookup field with
      | some (.int64 value) => some value.toInt
      | _ => none
  | _ => none

/-- A pointer of an entry, with the text of the entry and the field that names
the profile. -/
structure Reference (ν : Type) where
  text : String
  field : String
  pointer : Pointer ν

/-- The references of entries to the profiles of one kind. -/
def references {ε ν : Type} (texts : List String) (entries : List ε)
    (fields : List (String × (ε → Pointer ν))) : List (Reference ν) :=
  (texts.zip entries).flatMap fun pair =>
    fields.map fun field => ⟨pair.1, field.1, field.2 pair.2⟩

def serviceQosFields : List (String × (ServiceActionDefinition → Pointer QosProfile)) :=
  [("service-qos", ServiceActionDefinition.serviceQos)]

def actionQosFields : List (String × (ServiceActionDefinition → Pointer QosProfile)) :=
  [("service-qos", ServiceActionDefinition.serviceQos),
    ("feedback-qos", ServiceActionDefinition.feedbackQos),
    ("status-qos", ServiceActionDefinition.statusQos)]

def compressionFields : List (String × (ServiceActionDefinition → Pointer Compression)) :=
  [("compression", ServiceActionDefinition.compression)]

/-- The QoS references of the entries that were defined by parameters. -/
def qosReferences (parameters : Parameters) (accepted : Accepted) :
    List (Reference QosProfile) :=
  references parameters.subscriber accepted.subscriber [("qos", TopicDefinition.qos)] ++
    references parameters.publisher accepted.publisher [("qos", TopicDefinition.qos)] ++
    references parameters.serviceServer accepted.serviceServer serviceQosFields ++
    references parameters.serviceClient accepted.serviceClient serviceQosFields ++
    references parameters.actionServer accepted.actionServer actionQosFields ++
    references parameters.actionClient accepted.actionClient actionQosFields

def compressionReferences (parameters : Parameters) (accepted : Accepted) :
    List (Reference Compression) :=
  references parameters.subscriber accepted.subscriber
      [("compression", TopicDefinition.compression)] ++
    references parameters.serviceServer accepted.serviceServer compressionFields ++
    references parameters.serviceClient accepted.serviceClient compressionFields ++
    references parameters.actionServer accepted.actionServer compressionFields ++
    references parameters.actionClient accepted.actionClient compressionFields

/-- A definition carries the id the entry names, and the pointer is the one to
its profile. -/
def RefersExactly {ν : Type} (parse : JsonParse) (definitions : List String)
    (read : List UInt8 → String → Except String (UInt8 × ν)) (reference : Reference ν) : Prop :=
  ∃ id, writtenId parse reference.text reference.field = some id ∧
    ∃ definition ∈ definitions, writtenId parse definition "id" = some id ∧
      ∃ known key, read known definition = .ok (key, reference.pointer.target) ∧
        reference.pointer.key = some key

/-- The entry names an id of the range of the ids. -/
def NamesId {ν : Type} (parse : JsonParse) (reference : Reference ν) : Prop :=
  ∃ id, writtenId parse reference.text reference.field = some id ∧ 0 ≤ id ∧ id ≤ 255

theorem asObject_eq_ok {parse : JsonParse} {kind text : String} {json : JsonObject}
    (h : asObject parse kind text = .ok json) : parse text = .ok (.object json) := by
  simp only [asObject, bind_eq_ok] at h
  obtain ⟨value, hvalue, h⟩ := h
  split at h
  · rw [pure_eq_ok] at h
    rw [hvalue, h]
  · cases h

theorem writtenId_of_asInt64 {parse : JsonParse} {kind text field : String} {json : JsonObject}
    {value : Int} (hjson : asObject parse kind text = .ok json)
    (hvalue : asInt64 kind json field = .ok value) : writtenId parse text field = some value := by
  unfold asInt64 at hvalue
  split at hvalue
  next found hfound =>
    cases hvalue
    simp only [writtenId, asObject_eq_ok hjson, hfound]
  next => cases hvalue

/-- A profile is found under the cast of the id that is written. -/
theorem findProfile_eq_ok {ν : Type} {parse : JsonParse} {kind text field : String}
    {json : JsonObject} {profiles : KeyMap UInt8 ν} {pointer : Pointer ν}
    (hjson : asObject parse kind text = .ok json)
    (h : findProfile kind json field profiles = .ok pointer) :
    ∃ id, writtenId parse text field = some id ∧ pointer.key = some (castUInt8 id) ∧
      profiles (castUInt8 id) = some pointer.target := by
  unfold findProfile at h
  split at h
  next value hvalue =>
    refine ⟨value.toInt, by simp only [writtenId, asObject_eq_ok hjson, hvalue], ?_⟩
    split at h
    next target htarget =>
      cases h
      exact ⟨rfl, htarget⟩
    next => cases h
  next => cases h

theorem profileId_eq_ok {parse : JsonParse} {kind same text : String} {json : JsonObject}
    {known : List UInt8} {key : UInt8} (hjson : asObject parse kind text = .ok json)
    (h : profileId kind same json known = .ok key) :
    ∃ id, writtenId parse text "id" = some id ∧ 0 ≤ id ∧ id ≤ 255 ∧ key = castUInt8 id := by
  simp only [profileId, bind_eq_ok, pure_eq_ok] at h
  obtain ⟨id, hid, _, hrange, -, -, rfl⟩ := h
  obtain ⟨hlow, hhigh⟩ := require_eq_ok hrange
  exact ⟨id, writtenId_of_asInt64 hjson hid, hlow, hhigh, rfl⟩

/-- The readers of definitions: the id is in range and the key is the id. -/
def KeysById {ν : Type} (parse : JsonParse)
    (read : List UInt8 → String → Except String (UInt8 × ν)) : Prop :=
  ∀ known text key profile, read known text = .ok (key, profile) →
    ∃ id, writtenId parse text "id" = some id ∧ 0 ≤ id ∧ id ≤ 255 ∧ key = castUInt8 id

theorem qosDefinition_keysById (parse : JsonParse) : KeysById parse (qosDefinition parse) := by
  intro known text key profile h
  simp only [qosDefinition, bind_eq_ok, pure_eq_ok] at h
  obtain ⟨json, hjson, _, -, _, -, _, -, _, -, _, -, _, -, _, -, _, -, _, -, _, -, _, -, _, -, _, -,
    found, hid, hpair⟩ := h
  cases hpair
  exact profileId_eq_ok hjson hid

theorem compressionProfile_keysById (parse : JsonParse) :
    KeysById parse (compressionProfile parse) := by
  intro known text key profile h
  simp only [compressionProfile, bind_eq_ok, pure_eq_ok] at h
  obtain ⟨json, hjson, _, -, _, -, _, -, _, -, _, -, found, hid, hpair⟩ := h
  cases hpair
  exact profileId_eq_ok hjson hid

theorem castUInt8_inj {id other : Int} (hid : 0 ≤ id ∧ id ≤ 255) (hother : 0 ≤ other ∧ other ≤ 255)
    (h : castUInt8 id = castUInt8 other) : id = other := by
  rw [← (castUInt8_toNat_eq id).mpr hid, ← (castUInt8_toNat_eq other).mpr hother, h]

/-- What `findProfile` has found in the map the definitions were stored in. -/
structure Found {ν : Type} (parse : JsonParse) (pairs : List (UInt8 × ν))
    (reference : Reference ν) : Prop where
  written : ∃ id, writtenId parse reference.text reference.field = some id ∧
    reference.pointer.key = some (castUInt8 id) ∧
    pairs.lookup (castUInt8 id) = some reference.pointer.target

theorem mem_of_lookup {ν : Type} {pairs : List (UInt8 × ν)} {key : UInt8} {target : ν}
    (h : pairs.lookup key = some target) : (key, target) ∈ pairs := by
  obtain ⟨before, after, rfl, -⟩ := List.lookup_eq_some_iff.mp h
  simp

theorem Found.refersExactly_iff {ν : Type} {parse : JsonParse} {definitions : List String}
    {read : List UInt8 → String → Except String (UInt8 × ν)} {pairs : List (UInt8 × ν)}
    {reference : Reference ν} (h : Found parse pairs reference) (hkeys : KeysById parse read)
    (hreads : Reads Prod.fst read [] definitions pairs) :
    RefersExactly parse definitions read reference ↔ NamesId parse reference := by
  obtain ⟨id, hid, hkey, hlookup⟩ := h.written
  constructor
  · rintro ⟨other, hother, definition, -, hcarries, known, key, hread, -⟩
    obtain ⟨carried, hcarried, hlow, hhigh, -⟩ := hkeys known definition key _ hread
    cases hcarries.symm.trans hcarried
    exact ⟨other, hother, hlow, hhigh⟩
  · rintro ⟨other, hother, hlow, hhigh⟩
    cases hid.symm.trans hother
    obtain ⟨known, definition, hmem, hread⟩ := hreads.mem _ (mem_of_lookup hlookup)
    obtain ⟨carried, hcarried, hlowCarried, hhighCarried, hcast⟩ :=
      hkeys known definition _ _ hread
    obtain rfl := castUInt8_inj ⟨hlow, hhigh⟩ ⟨hlowCarried, hhighCarried⟩ hcast
    exact ⟨id, hid, definition, hmem, hcarried, known, castUInt8 id, hread, hkey⟩

/-- The references of the entries of a loop are found when those of each entry
are. -/
theorem found_references {ε ν : Type} {parse : JsonParse} {pairs : List (UInt8 × ν)}
    {channel : ε → UInt8} {read : List UInt8 → String → Except String ε} {texts : List String}
    {entries : List ε} {fields : List (String × (ε → Pointer ν))}
    (hreads : Reads channel read [] texts entries)
    (hfound : ∀ known text entry, read known text = .ok entry → ∀ field ∈ fields,
      Found parse pairs ⟨text, field.1, field.2 entry⟩) :
    ∀ reference ∈ references texts entries fields, Found parse pairs reference := by
  intro reference hreference
  obtain ⟨pair, hpair, hfield⟩ := List.mem_flatMap.mp hreference
  obtain ⟨field, hmem, rfl⟩ := List.mem_map.mp hfield
  obtain ⟨known, hread⟩ := hreads.zip pair hpair
  exact hfound known pair.1 pair.2 hread field hmem

/-- The predefined entries come after those that were defined. -/
theorem Reads.references_append {ε ν : Type} {channel : ε → UInt8}
    {read : List UInt8 → String → Except String ε} {known : List UInt8} {texts : List String}
    {entries : List ε} (h : Reads channel read known texts entries) (predefined : List ε)
    (fields : List (String × (ε → Pointer ν))) :
    references texts (entries ++ predefined) fields = references texts entries fields := by
  induction h with
  | nil => rfl
  | cons _ _ ih => exact congrArg _ ih

theorem Found.of_findProfile {ν : Type} {parse : JsonParse} {kind text field : String}
    {json : JsonObject} {pairs : List (UInt8 × ν)} {profiles : KeyMap UInt8 ν}
    {pointer : Pointer ν} (hprofiles : profiles = fun id => pairs.lookup id)
    (hjson : asObject parse kind text = .ok json)
    (h : findProfile kind json field profiles = .ok pointer) :
    Found parse pairs ⟨text, field, pointer⟩ := by
  obtain ⟨id, hid, hkey, htarget⟩ := findProfile_eq_ok hjson h
  rw [hprofiles] at htarget
  exact ⟨⟨id, hid, hkey, htarget⟩⟩

section Entries

variable {parse : JsonParse} {profiles : Profiles} {qos : List (UInt8 × QosProfile)}
  {compression : List (UInt8 × Compression)} {known others : List UInt8} {text : String}

theorem SubscriberRead.found {entry : TopicDefinition}
    (h : SubscriberRead parse (profilesOf qos compression) known text entry) :
    (∀ field ∈ [("qos", TopicDefinition.qos)], Found parse qos ⟨text, field.1, field.2 entry⟩) ∧
      ∀ field ∈ [("compression", TopicDefinition.compression)],
        Found parse compression ⟨text, field.1, field.2 entry⟩ := by
  obtain ⟨json, hjson, hqos, hcompression⟩ := h.json
  refine ⟨?_, ?_⟩ <;> intro field hfield <;> rw [List.mem_singleton.mp hfield]
  · exact .of_findProfile rfl hjson hqos
  · exact .of_findProfile rfl hjson hcompression

theorem PublisherRead.found {subscriber : List UInt8} {entry : TopicDefinition}
    (h : PublisherRead parse (profilesOf qos compression) subscriber known text entry) :
    ∀ field ∈ [("qos", TopicDefinition.qos)], Found parse qos ⟨text, field.1, field.2 entry⟩ := by
  obtain ⟨json, hjson, hqos⟩ := h.json
  intro field hfield
  rw [List.mem_singleton.mp hfield]
  exact .of_findProfile rfl hjson hqos

theorem ServiceActionRead.found {kind feedbackQos statusQos : String}
    {entry : ServiceActionDefinition}
    (h : ServiceActionRead parse (profilesOf qos compression) kind feedbackQos statusQos others
      known text entry) :
    Found parse qos ⟨text, "service-qos", entry.serviceQos⟩ ∧
      Found parse qos ⟨text, feedbackQos, entry.feedbackQos⟩ ∧
      Found parse qos ⟨text, statusQos, entry.statusQos⟩ ∧
      ∀ field ∈ compressionFields, Found parse compression ⟨text, field.1, field.2 entry⟩ := by
  obtain ⟨json, hjson, hservice, hfeedback, hstatus, hcompression⟩ := h.json
  refine ⟨.of_findProfile rfl hjson hservice, .of_findProfile rfl hjson hfeedback,
    .of_findProfile rfl hjson hstatus, fun field hfield => ?_⟩
  rw [List.mem_singleton.mp hfield]
  exact .of_findProfile rfl hjson hcompression

/-- A service names one QoS profile. -/
theorem ServiceActionRead.found_service {kind : String} {entry : ServiceActionDefinition}
    (h : ServiceActionRead parse (profilesOf qos compression) kind "service-qos" "service-qos"
      others known text entry) :
    ∀ field ∈ serviceQosFields, Found parse qos ⟨text, field.1, field.2 entry⟩ := by
  intro field hfield
  rw [List.mem_singleton.mp hfield]
  exact h.found.1

/-- An action names three. -/
theorem ServiceActionRead.found_action {kind : String} {entry : ServiceActionDefinition}
    (h : ServiceActionRead parse (profilesOf qos compression) kind "feedback-qos" "status-qos"
      others known text entry) :
    ∀ field ∈ actionQosFields, Found parse qos ⟨text, field.1, field.2 entry⟩ := by
  obtain ⟨hservice, hfeedback, hstatus, -⟩ := h.found
  intro field hfield
  simp only [actionQosFields, List.mem_cons, List.not_mem_nil, or_false] at hfield
  rcases hfield with rfl | rfl | rfl
  · exact hservice
  · exact hfeedback
  · exact hstatus

end Entries

section Initialized

variable {env : Environment} {parameters : Parameters} {accepted : Accepted}
  {qos : List (UInt8 × QosProfile)} {compression : List (UInt8 × Compression)}

theorem Initialized.found_qos (h : Initialized env parameters accepted)
    (hprofiles : accepted.toProfiles = profilesOf qos compression) :
    ∀ reference ∈ qosReferences parameters accepted, Found env.parse qos reference := by
  obtain ⟨subscriber, publisher, hsubscriber, hpublisher, hallSubscriber, hallPublisher⟩ := h.topics
  have hserviceServer := h.serviceServer
  have hserviceClient := h.serviceClient
  have hactionServer := h.actionServer
  have hactionClient := h.actionClient
  rw [hprofiles] at hsubscriber hpublisher
  rw [hprofiles] at hserviceServer hserviceClient hactionServer hactionClient
  have hsubscribers := reads_of_readEntries hsubscriber
  have hpublishers := reads_of_readEntries hpublisher
  unfold qosReferences
  rw [hallSubscriber, hallPublisher, hsubscribers.references_append, hpublishers.references_append]
  intro reference hreference
  simp only [List.mem_append] at hreference
  rcases hreference with ((((hmem | hmem) | hmem) | hmem) | hmem) | hmem
  · exact found_references hsubscribers
      (fun _ _ _ hread => (subscriberEntry_eq_ok hread).found.1) reference hmem
  · exact found_references hpublishers
      (fun _ _ _ hread => (publisherEntry_eq_ok hread).found) reference hmem
  · exact found_references (reads_of_readEntries hserviceServer)
      (fun _ _ _ hread => (serviceServerEntry_eq_ok hread).found_service) reference hmem
  · exact found_references (reads_of_readEntries hserviceClient)
      (fun _ _ _ hread => (serviceClientEntry_eq_ok hread).found_service) reference hmem
  · exact found_references (reads_of_readEntries hactionServer)
      (fun _ _ _ hread => (actionServerEntry_eq_ok hread).found_action) reference hmem
  · exact found_references (reads_of_readEntries hactionClient)
      (fun _ _ _ hread => (actionClientEntry_eq_ok hread).found_action) reference hmem

theorem Initialized.found_compression (h : Initialized env parameters accepted)
    (hprofiles : accepted.toProfiles = profilesOf qos compression) :
    ∀ reference ∈ compressionReferences parameters accepted,
      Found env.parse compression reference := by
  obtain ⟨subscriber, -, hsubscriber, -, hallSubscriber, -⟩ := h.topics
  have hserviceServer := h.serviceServer
  have hserviceClient := h.serviceClient
  have hactionServer := h.actionServer
  have hactionClient := h.actionClient
  rw [hprofiles] at hsubscriber hserviceServer hserviceClient hactionServer hactionClient
  have hsubscribers := reads_of_readEntries hsubscriber
  unfold compressionReferences
  rw [hallSubscriber, hsubscribers.references_append]
  intro reference hreference
  simp only [List.mem_append] at hreference
  rcases hreference with (((hmem | hmem) | hmem) | hmem) | hmem
  · exact found_references hsubscribers
      (fun _ _ _ hread => (subscriberEntry_eq_ok hread).found.2) reference hmem
  · exact found_references (reads_of_readEntries hserviceServer)
      (fun _ _ _ hread => (serviceServerEntry_eq_ok hread).found.2.2.2) reference hmem
  · exact found_references (reads_of_readEntries hserviceClient)
      (fun _ _ _ hread => (serviceClientEntry_eq_ok hread).found.2.2.2) reference hmem
  · exact found_references (reads_of_readEntries hactionServer)
      (fun _ _ _ hread => (actionServerEntry_eq_ok hread).found.2.2.2) reference hmem
  · exact found_references (reads_of_readEntries hactionClient)
      (fun _ _ _ hread => (actionClientEntry_eq_ok hread).found.2.2.2) reference hmem

end Initialized

end Parameters

open Parameters

/-- In an accepted configuration a pointer is the one to the profile with the id
its entry names exactly when this id is one of a `uint8_t`. -/
theorem initializeParameters_refers {env : Environment} {parameters : Parameters}
    {authentication : Bool} {accepted : Accepted}
    (h : initializeParameters env parameters authentication = .ok accepted) :
    (∀ reference ∈ qosReferences parameters accepted,
      RefersExactly env.parse parameters.qos (qosDefinition env.parse) reference ↔
        NamesId env.parse reference) ∧
    (∀ reference ∈ compressionReferences parameters accepted,
      RefersExactly env.parse parameters.compression (compressionProfile env.parse) reference ↔
        NamesId env.parse reference) := by
  have hinit := initializeParameters_eq_ok h
  obtain ⟨qos, compression, hqos, hcompression, hprofiles⟩ := hinit.profiles
  constructor
  · intro reference hreference
    exact (hinit.found_qos hprofiles reference hreference).refersExactly_iff
      (qosDefinition_keysById _) (reads_of_readEntries hqos)
  · intro reference hreference
    exact (hinit.found_compression hprofiles reference hreference).refersExactly_iff
      (compressionProfile_keysById _) (reads_of_readEntries hcompression)

namespace Sample

/-- The QoS reference of the subscriber. -/
theorem mem_qosReferences {wrapped : Bool} {accepted : Accepted}
    (h : summary accepted = ([1], [254, 252, 253], [some 0])) :
    ∃ pointer : Pointer QosProfile,
      ⟨subscriberText wrapped, "qos", pointer⟩ ∈ qosReferences (parameters wrapped) accepted := by
  simp only [summary, Prod.mk.injEq] at h
  cases hsubscriber : accepted.subscriber with
  | nil => simp [hsubscriber] at h
  | cons topic rest =>
      refine ⟨topic.qos, ?_⟩
      unfold qosReferences
      simp only [List.append_assoc]
      apply List.mem_append_left _
      rw [hsubscriber]
      exact List.mem_cons_self

theorem writtenId_qos (wrapped : Bool) :
    writtenId parse (subscriberText wrapped) "qos" = some (if wrapped then 256 else 0) := by
  cases wrapped <;> decide +kernel

end Sample

/-- The subscriber that names the id of the profile there is. -/
theorem initializeParameters_refers_sample : ∃ accepted reference,
    reference ∈ qosReferences (Sample.parameters false) accepted ∧
      RefersExactly Sample.parse [Sample.qosText] (qosDefinition Sample.parse) reference := by
  obtain ⟨accepted, haccepted, hsummary⟩ := Sample.accepts false
  obtain ⟨pointer, hmem⟩ := @Sample.mem_qosReferences false accepted hsummary
  refine ⟨accepted, _, hmem, ?_⟩
  exact ((initializeParameters_refers haccepted).1 _ hmem).mpr
    ⟨0, Sample.writtenId_qos false, by decide, by decide⟩

/-- A subscriber that names the QoS id 256 is accepted and gets the profile 0. -/
theorem initializeParameters_wraps : ¬ ∀ env parameters authentication accepted,
    initializeParameters env parameters authentication = .ok accepted →
      ∀ reference ∈ qosReferences parameters accepted,
        RefersExactly env.parse parameters.qos (qosDefinition env.parse) reference := by
  intro hall
  obtain ⟨accepted, haccepted, hsummary⟩ := Sample.accepts true
  obtain ⟨pointer, hmem⟩ := @Sample.mem_qosReferences true accepted hsummary
  obtain ⟨id, hid, definition, -, hcarries, known, key, hread, -⟩ :=
    hall _ _ _ _ haccepted _ hmem
  cases (Sample.writtenId_qos true).symm.trans hid
  obtain ⟨carried, hcarried, -, hhigh, -⟩ := qosDefinition_keysById _ known definition key _ hread
  cases hcarries.symm.trans hcarried
  exact absurd hhigh (by decide)

end Ros2Connect
