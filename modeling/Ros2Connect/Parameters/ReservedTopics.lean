import Ros2Connect.Parameters.Accepted

/-!
The topics that are left to the predefined entries. `initializeParameters`
compares the text of a definition, ROS the name it derives from the text and the
namespace the node was started in: a text without a leading slash is continued
from that namespace.
-/

namespace Ros2Connect

open Lib Parameters

/-- The namespace of a node, which is a fully qualified name. -/
structure NodeNamespace where
  name : String
  absolute : name.toList.head? = some '/'

def isAbsolute (name : String) : Bool := name.toList.head? == some '/'

/-- The fully qualified name of a topic. -/
def expandTopicName (nodeNamespace : NodeNamespace) (topic : String) : String :=
  if isAbsolute topic then topic
  else if nodeNamespace.name = "/" then "/" ++ topic
  else nodeNamespace.name ++ "/" ++ topic

/-- The topics of the predefined entries. -/
def reservedTopics : List String := ["/tf", "/tf_static", "/clock"]

/-- A reserved name is one token behind the root. -/
theorem exists_token {name : String} (h : name ∈ reservedTopics) :
    ∃ token, name.toList = '/' :: token ∧ '/' ∉ token := by
  simp only [reservedTopics, List.mem_cons, List.not_mem_nil, or_false] at h
  rcases h with rfl | rfl | rfl
  · exact ⟨['t', 'f'], rfl, by decide⟩
  · exact ⟨['t', 'f', '_', 's', 't', 'a', 't', 'i', 'c'], rfl, by decide⟩
  · exact ⟨['c', 'l', 'o', 'c', 'k'], rfl, by decide⟩

/-- Nothing two tokens below the root is reserved. -/
theorem not_reserved_below (nodeNamespace : NodeNamespace) (topic : String) :
    nodeNamespace.name ++ "/" ++ topic ∉ reservedTopics := by
  intro hreserved
  obtain ⟨token, htoken, hslash⟩ := exists_token hreserved
  have hslashes : "/".toList = ['/'] := rfl
  rw [String.toList_append, String.toList_append, hslashes] at htoken
  have habsolute := nodeNamespace.absolute
  cases hname : nodeNamespace.name.toList with
  | nil => simp [hname] at habsolute
  | cons first rest =>
      rw [hname] at htoken
      simp only [List.cons_append, List.cons.injEq] at htoken
      apply hslash
      rw [← htoken.2]
      simp

/-- In the root namespace a text is reserved that lacks only the slash. -/
theorem slash_reserved_iff (topic : String) :
    "/" ++ topic ∈ reservedTopics ↔ topic ∈ ["tf", "tf_static", "clock"] := by
  have hcancel (name : String) : "/" ++ topic = "/" ++ name ↔ topic = name := by
    simp [← String.toList_inj]
  have htf := hcancel "tf"
  have htfStatic := hcancel "tf_static"
  have hclock := hcancel "clock"
  simp only [reservedTopics, List.mem_cons, List.not_mem_nil, or_false]
  rw [← htf, ← htfStatic, ← hclock]
  rfl

/-- What the guard lets pass is reserved exactly in the root namespace, when it
names a reserved topic without the slash. -/
theorem expandTopicName_reserved_iff (nodeNamespace : NodeNamespace) {topic : String}
    (hguard : topic ∉ reservedTopics) :
    expandTopicName nodeNamespace topic ∈ reservedTopics ↔
      nodeNamespace.name = "/" ∧ topic ∈ ["tf", "tf_static", "clock"] := by
  unfold expandTopicName
  by_cases habsolute : isAbsolute topic = true
  · rw [if_pos habsolute]
    refine ⟨fun hreserved => absurd hreserved hguard, ?_⟩
    rintro ⟨-, hrelative⟩
    have hall : ∀ name ∈ ["tf", "tf_static", "clock"], isAbsolute name = false := by decide
    rw [hall topic hrelative] at habsolute
    cases habsolute
  · rw [if_neg habsolute]
    by_cases hroot : nodeNamespace.name = "/"
    · rw [if_pos hroot, slash_reserved_iff]
      exact ⟨fun hreserved => ⟨hroot, hreserved⟩, fun h => h.2⟩
    · rw [if_neg hroot]
      exact ⟨fun hreserved => absurd hreserved (not_reserved_below nodeNamespace topic),
        fun h => absurd h.1 hroot⟩

namespace Parameters

theorem requireOwnTopic_eq_ok {kind parameter topic : String} {u : Unit}
    (h : requireOwnTopic kind parameter topic = .ok u) : topic ∉ reservedTopics := by
  simp only [requireOwnTopic, bind_eq_ok] at h
  obtain ⟨_, htf, _, htfStatic, hclock⟩ := h
  simp only [reservedTopics, List.mem_cons, List.not_mem_nil, or_false, not_or]
  exact ⟨require_eq_ok htf, require_eq_ok htfStatic, require_eq_ok hclock⟩

variable {parse : JsonParse} {profiles : Profiles} {subscriber known : List UInt8}
  {text : String} {entry : TopicDefinition}

theorem subscriberEntry_topic (h : subscriberEntry parse profiles known text = .ok entry) :
    entry.topic ∉ reservedTopics := by
  simp only [subscriberEntry, bind_eq_ok, pure_eq_ok] at h
  obtain ⟨json, -, -, -, topic, -, type, -, useOwnThread, -, permanent, -, -, -, -, -, _, hguard,
    qos, -, compression, -, -, -, found, -, rfl⟩ := h
  exact requireOwnTopic_eq_ok hguard

theorem publisherEntry_topic
    (h : publisherEntry parse profiles subscriber known text = .ok entry) :
    entry.topic ∉ reservedTopics := by
  simp only [publisherEntry, bind_eq_ok, pure_eq_ok] at h
  obtain ⟨json, -, -, -, topic, -, type, -, useOwnThread, -, -, -, _, hguard, qos, -, found,
    -, rfl⟩ := h
  exact requireOwnTopic_eq_ok hguard

end Parameters

/-- The user-defined entries that were accepted pass by the reserved names,
unless the node runs in the root namespace and an entry leaves out the slash. -/
theorem initializeParameters_reserved_iff {env : Environment} {parameters : Parameters}
    {authentication : Bool} {accepted : Accepted}
    (h : initializeParameters env parameters authentication = .ok accepted) :
    ∃ subscriber publisher,
      accepted.subscriber = subscriber ++ predefinedSubscriber parameters ∧
      accepted.publisher = publisher ++ predefinedPublisher parameters ∧
      ∀ entry ∈ subscriber ++ publisher, ∀ nodeNamespace : NodeNamespace,
        expandTopicName nodeNamespace entry.topic ∉ reservedTopics ↔
          ¬ (nodeNamespace.name = "/" ∧ entry.topic ∈ ["tf", "tf_static", "clock"]) := by
  obtain ⟨subscriber, publisher, hsubscriber, hpublisher, hsubscribers, hpublishers⟩ :=
    (initializeParameters_eq_ok h).topics
  refine ⟨subscriber, publisher, hsubscribers, hpublishers, ?_⟩
  intro entry hentry nodeNamespace
  apply not_congr
  apply expandTopicName_reserved_iff
  rcases List.mem_append.mp hentry with hmem | hmem
  · obtain ⟨_, _, _, hread⟩ := (reads_of_readEntries hsubscriber).mem entry hmem
    exact subscriberEntry_topic hread
  · obtain ⟨_, _, _, hread⟩ := (reads_of_readEntries hpublisher).mem entry hmem
    exact publisherEntry_topic hread

namespace Sample

/-- The subscriber of the sample for another topic. -/
def topicText (topic : String) : String :=
  "\x7b\"channel\": 1, \"topic\": \"" ++ topic ++ "\", \"type\": \"tf2_msgs/msg/TFMessage\", " ++
    "\"useOwnThread\": false, \"permanent\": true, \"qos\": 0, \"compression\": 0\x7d"

def topicParse (topic : String) : JsonParse := fun text =>
  if text = topicText topic then
    .ok (.object [("channel", .int64 1), ("topic", .string topic),
      ("type", .string "tf2_msgs/msg/TFMessage"), ("useOwnThread", .bool false),
      ("permanent", .bool true), ("qos", .int64 0), ("compression", .int64 0)])
  else parse text

def topicEnv (topic : String) : Environment := { env with parse := topicParse topic }

def topicParameters (topic : String) : Parameters :=
  { parameters false with subscriber := [topicText topic], publishTf := false }

def topics (accepted : Accepted) : List String × List String :=
  (accepted.subscriber.map TopicDefinition.topic, accepted.publisher.map TopicDefinition.topic)

/-- The definition of the topic is accepted next to the predefined publisher. -/
theorem accepts_topic (topic : String)
    (hrun : (initializeParameters (topicEnv topic) (topicParameters topic) true).toOption.map
      topics = some ([topic], ["/clock"])) :
    ∃ accepted, initializeParameters (topicEnv topic) (topicParameters topic) true =
      .ok accepted ∧ topics accepted = ([topic], ["/clock"]) := by
  obtain ⟨accepted, haccepted, htopics⟩ := Option.map_eq_some_iff.mp hrun
  refine ⟨accepted, ?_, htopics⟩
  cases hresult : initializeParameters (topicEnv topic) (topicParameters topic) true with
  | error failure =>
      rw [hresult] at haccepted
      cases haccepted
  | ok found =>
      rw [hresult] at haccepted
      rw [Option.some.inj haccepted]

end Sample

def rootNamespace : NodeNamespace := ⟨"/", rfl⟩

/-- A subscriber for `pose`, in any namespace. -/
theorem initializeParameters_reserved_iff_pose :
    ∃ accepted, Sample.topics accepted = (["pose"], ["/clock"]) ∧
    ∃ subscriber publisher,
      accepted.subscriber = subscriber ++ predefinedSubscriber (Sample.topicParameters "pose") ∧
      accepted.publisher = publisher ++ predefinedPublisher (Sample.topicParameters "pose") ∧
      ∀ entry ∈ subscriber ++ publisher, ∀ nodeNamespace : NodeNamespace,
        expandTopicName nodeNamespace entry.topic ∉ reservedTopics ↔
          ¬ (nodeNamespace.name = "/" ∧ entry.topic ∈ ["tf", "tf_static", "clock"]) := by
  obtain ⟨accepted, haccepted, htopics⟩ := Sample.accepts_topic "pose" (by decide +kernel)
  exact ⟨accepted, htopics, initializeParameters_reserved_iff haccepted⟩

/-- A subscriber for `tf` is accepted and subscribes to `/tf`. -/
theorem initializeParameters_tf :
    ¬ ∀ (env : Environment) (parameters : Parameters) (authentication : Bool)
      (accepted : Accepted), initializeParameters env parameters authentication = .ok accepted →
      ∀ entry ∈ accepted.subscriber, entry ∉ predefinedSubscriber parameters →
        ∀ nodeNamespace, expandTopicName nodeNamespace entry.topic ∉ reservedTopics := by
  intro hall
  obtain ⟨accepted, haccepted, htopics⟩ := Sample.accepts_topic "tf" (by decide +kernel)
  have hsubscriber : accepted.subscriber.map TopicDefinition.topic = ["tf"] :=
    congrArg Prod.fst htopics
  obtain ⟨entry, hentry, htopic⟩ : ∃ entry ∈ accepted.subscriber, entry.topic = "tf" := by
    have hmem : "tf" ∈ accepted.subscriber.map TopicDefinition.topic := by
      rw [hsubscriber]
      exact List.mem_singleton_self _
    exact List.mem_map.mp hmem
  have hreserved := hall _ _ _ accepted haccepted entry hentry (by
    simp [predefinedSubscriber, Sample.topicParameters, Sample.parameters]) rootNamespace
  rw [htopic] at hreserved
  exact hreserved (by decide)

end Ros2Connect
