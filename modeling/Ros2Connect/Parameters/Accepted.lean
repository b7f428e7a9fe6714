import Ros2Connect.GlobalConfig
import Ros2Connect.Parameters.InitializeParameters
import Ros2Connect.Publisher.PublisherManager
import Ros2Connect.ServiceAction.Manager
import Ros2Connect.Subscriber.SubscriberManager

/-!
What the checks of `initializeParameters` guarantee of the lists it stores:
distinct channels, the ranges of the topic channels and threads of their own for
the entries that need one. The maps the managers fill from the lists then hold
every entry under its channel.
-/

namespace Ros2Connect

open Lib

namespace Parameters

section Loop

variable {ε : Type} {texts : Texts} {channel : ε → UInt8}
  {read : List UInt8 → String → Except String ε} {create : ε → Except String Unit}

/-- A loop that succeeds has read its texts one by one. -/
inductive Reads (channel : ε → UInt8) (read : List UInt8 → String → Except String ε) :
    List UInt8 → List String → List ε → Prop where
  | nil (known : List UInt8) : Reads channel read known [] []
  | cons {known : List UInt8} {text : String} {entry : ε} {rest : List String}
      {entries : List ε} : read known text = .ok entry →
      Reads channel read (known ++ [channel entry]) rest entries →
      Reads channel read known (text :: rest) (entry :: entries)

theorem readEntry_eq_ok {known : List UInt8} {text : String} {entry : ε}
    (h : readEntry texts read create known text = .ok entry) : read known text = .ok entry := by
  unfold readEntry at h
  split at h
  · cases h
  next found hread =>
    split at h
    · cases h
    · cases h
      exact hread

theorem reads_of_readEntries {known : List UInt8} {list : List String} {entries : List ε}
    (h : readEntries texts channel read create known list = .ok entries) :
    Reads channel read known list entries := by
  induction list generalizing known entries with
  | nil =>
      cases h
      exact .nil known
  | cons text rest ih =>
      simp only [readEntries, bind_eq_ok, pure_eq_ok] at h
      obtain ⟨entry, hentry, others, hothers, rfl⟩ := h
      exact .cons (readEntry_eq_ok hentry) (ih hothers)

/-- Every entry belongs to its text. -/
theorem Reads.zip {known : List UInt8} {list : List String} {entries : List ε}
    (h : Reads channel read known list entries) :
    ∀ pair ∈ list.zip entries, ∃ known, read known pair.1 = .ok pair.2 := by
  induction h with
  | nil => exact fun _ h => nomatch h
  | @cons known text entry rest entries hread _ ih =>
      intro pair hpair
      rw [List.zip_cons_cons, List.mem_cons] at hpair
      rcases hpair with rfl | hrest
      · exact ⟨known, hread⟩
      · exact ih pair hrest

theorem Reads.mem {known : List UInt8} {list : List String} {entries : List ε}
    (h : Reads channel read known list entries) :
    ∀ entry ∈ entries, ∃ known, ∃ text ∈ list, read known text = .ok entry := by
  induction h with
  | nil => exact fun _ h => nomatch h
  | @cons known text entry rest entries hread _ ih =>
      intro found hfound
      rcases List.mem_cons.mp hfound with rfl | hrest
      · exact ⟨known, text, List.mem_cons_self, hread⟩
      · obtain ⟨before, other, hother, hfound⟩ := ih found hrest
        exact ⟨before, other, List.mem_cons_of_mem _ hother, hfound⟩

/-- A loop that refuses known channels stores distinct ones. -/
theorem Reads.nodup {known : List UInt8} {list : List String} {entries : List ε}
    (h : Reads channel read known list entries)
    (hfresh : ∀ known text entry, read known text = .ok entry → channel entry ∉ known) :
    (entries.map channel).Nodup ∧ ∀ val ∈ known, val ∉ entries.map channel := by
  induction h with
  | nil => exact ⟨List.nodup_nil, fun _ _ h => nomatch h⟩
  | @cons known text entry rest entries hread _ ih =>
      obtain ⟨hnodup, hknown⟩ := ih
      have hentry := hfresh known text entry hread
      rw [List.map_cons]
      refine ⟨List.nodup_cons.mpr ⟨hknown _ (by simp), hnodup⟩, fun val hval hmem => ?_⟩
      rcases List.mem_cons.mp hmem with rfl | hrest
      · exact hentry hval
      · exact hknown val (List.mem_append_left _ hval) hrest

end Loop

theorem channel_eq_ok {kind same both : String} {json : JsonObject} {reserved : Int → Prop}
    [DecidablePred reserved] {known others : List UInt8} {found : UInt8}
    (h : channel kind same both json reserved known others = .ok found) :
    ¬ reserved found.toNat ∧ found ∉ known ∧ found ∉ others := by
  simp only [channel, bind_eq_ok, pure_eq_ok] at h
  obtain ⟨value, -, _, hrange, _, hreserved, _, hknown, _, hothers, rfl⟩ := h
  have hcast := (castUInt8_toNat_eq value).mpr (require_eq_ok hrange)
  refine ⟨?_, fun hmem => require_eq_ok hknown _ hmem hcast,
    fun hmem => require_eq_ok hothers _ hmem hcast⟩
  rw [hcast]
  exact require_eq_ok hreserved

/-- What reading the definition of a subscriber has found. -/
structure SubscriberRead (parse : JsonParse) (profiles : Profiles) (known : List UInt8)
    (text : String) (entry : TopicDefinition) : Prop where
  json : ∃ json, asObject parse "Subscriber" text = .ok json ∧
    findProfile "Subscriber" json "qos" profiles.qos = .ok entry.qos ∧
    findProfile "Subscriber" json "compression" profiles.compression = .ok entry.compression
  ownThread : entry.compression.target.compressor ≠ .none → entry.useOwnThread = true
  topicChannel : ¬ IsOpCode entry.channel.toNat
  fresh : entry.channel ∉ known

structure PublisherRead (parse : JsonParse) (profiles : Profiles) (subscriber known : List UInt8)
    (text : String) (entry : TopicDefinition) : Prop where
  json : ∃ json, asObject parse "Publisher" text = .ok json ∧
    findProfile "Publisher" json "qos" profiles.qos = .ok entry.qos
  compression : entry.compression = defaultCompressionProfile
  topicChannel : ¬ IsOpCode entry.channel.toNat
  fresh : entry.channel ∉ known
  freshSubscriber : entry.channel ∉ subscriber

/-- The same for a service or an action; a service has one QoS field only. -/
structure ServiceActionRead (parse : JsonParse) (profiles : Profiles)
    (kind feedbackQos statusQos : String) (others known : List UInt8) (text : String)
    (entry : ServiceActionDefinition) : Prop where
  json : ∃ json, asObject parse kind text = .ok json ∧
    findProfile kind json "service-qos" profiles.qos = .ok entry.serviceQos ∧
    findProfile kind json feedbackQos profiles.qos = .ok entry.feedbackQos ∧
    findProfile kind json statusQos profiles.qos = .ok entry.statusQos ∧
    findProfile kind json "compression" profiles.compression = .ok entry.compression
  ownThread : entry.compression.target.compressor ≠ .none → entry.useOwnThread = true
  simultaneous : entry.allowSimultaneous = true → entry.useOwnThread = true
  fresh : entry.channel ∉ known
  freshOther : entry.channel ∉ others

theorem requireOwnThread_eq_ok {kind : String} {compression : Pointer Compression}
    {useOwnThread : Bool} {u : Unit}
    (h : requireOwnThread kind compression useOwnThread = .ok u) :
    compression.target.compressor ≠ .none → useOwnThread = true :=
  (require_eq_ok h).resolve_left

theorem requireSimultaneous_eq_ok {kind : String} {allowSimultaneous useOwnThread : Bool}
    {u : Unit} (h : requireSimultaneous kind allowSimultaneous useOwnThread = .ok u) :
    allowSimultaneous = true → useOwnThread = true := by
  intro hallow
  rcases require_eq_ok h with hnot | hown
  · rw [hallow] at hnot
    cases hnot
  · exact hown

variable {parse : JsonParse} {profiles : Profiles} {known others : List UInt8} {text : String}

theorem subscriberEntry_eq_ok {entry : TopicDefinition}
    (h : subscriberEntry parse profiles known text = .ok entry) :
    SubscriberRead parse profiles known text entry := by
  simp only [subscriberEntry, bind_eq_ok, pure_eq_ok] at h
  obtain ⟨json, hjson, -, -, topic, -, type, -, useOwnThread, -, permanent, -, -, -, -, -, -, -,
    qos, hqos, compression, hcompression, _, hown, found, hchannel, rfl⟩ := h
  obtain ⟨hreserved, hknown, -⟩ := channel_eq_ok hchannel
  exact ⟨⟨json, hjson, hqos, hcompression⟩, requireOwnThread_eq_ok hown, hreserved, hknown⟩

theorem publisherEntry_eq_ok {subscriber : List UInt8} {entry : TopicDefinition}
    (h : publisherEntry parse profiles subscriber known text = .ok entry) :
    PublisherRead parse profiles subscriber known text entry := by
  simp only [publisherEntry, bind_eq_ok, pure_eq_ok] at h
  obtain ⟨json, hjson, -, -, topic, -, type, -, useOwnThread, -, -, -, -, -, qos, hqos, found,
    hchannel, rfl⟩ := h
  obtain ⟨hreserved, hknown, hsubscriber⟩ := channel_eq_ok hchannel
  exact ⟨⟨json, hjson, hqos⟩, rfl, hreserved, hknown, hsubscriber⟩

theorem serviceServerEntry_eq_ok {entry : ServiceActionDefinition}
    (h : serviceServerEntry parse profiles known text = .ok entry) :
    ServiceActionRead parse profiles "Service Server" "service-qos" "service-qos" [] known text
      entry := by
  simp only [serviceServerEntry, bind_eq_ok, pure_eq_ok] at h
  obtain ⟨json, hjson, -, -, type, -, maxExecTime, -, useOwnThread, -, allowSimultaneous, -, _,
    hsimultaneous, qos, hqos, compression, hcompression, _, hown, -, -, found, hchannel, rfl⟩ := h
  obtain ⟨-, hknown, hothers⟩ := channel_eq_ok hchannel
  exact ⟨⟨json, hjson, hqos, hqos, hqos, hcompression⟩, requireOwnThread_eq_ok hown,
    requireSimultaneous_eq_ok hsimultaneous, hknown, hothers⟩

theorem serviceClientEntry_eq_ok {entry : ServiceActionDefinition}
    (h : serviceClientEntry parse profiles others known text = .ok entry) :
    ServiceActionRead parse profiles "Service Client" "service-qos" "service-qos" others known text
      entry := by
  simp only [serviceClientEntry, bind_eq_ok, pure_eq_ok] at h
  obtain ⟨json, hjson, -, -, type, -, useOwnThread, -, allowSimultaneous, -, _, hsimultaneous, qos,
    hqos, compression, hcompression, _, hown, found, hchannel, rfl⟩ := h
  obtain ⟨-, hknown, hothers⟩ := channel_eq_ok hchannel
  exact ⟨⟨json, hjson, hqos, hqos, hqos, hcompression⟩, requireOwnThread_eq_ok hown,
    requireSimultaneous_eq_ok hsimultaneous, hknown, hothers⟩

theorem actionServerEntry_eq_ok {entry : ServiceActionDefinition}
    (h : actionServerEntry parse profiles known text = .ok entry) :
    ServiceActionRead parse profiles "Action Server" "feedback-qos" "status-qos" [] known text
      entry := by
  simp only [actionServerEntry, bind_eq_ok, pure_eq_ok] at h
  obtain ⟨json, hjson, -, -, type, -, resultTimeout, -, useOwnThread, -, allowSimultaneous, -, _,
    hsimultaneous, service, hservice, feedback, hfeedback, status, hstatus, compression,
    hcompression, _, hown, -, -, found, hchannel, rfl⟩ := h
  obtain ⟨-, hknown, hothers⟩ := channel_eq_ok hchannel
  exact ⟨⟨json, hjson, hservice, hfeedback, hstatus, hcompression⟩, requireOwnThread_eq_ok hown,
    requireSimultaneous_eq_ok hsimultaneous, hknown, hothers⟩

theorem actionClientEntry_eq_ok {entry : ServiceActionDefinition}
    (h : actionClientEntry parse profiles others known text = .ok entry) :
    ServiceActionRead parse profiles "Action Client" "feedback-qos" "status-qos" others known text
      entry := by
  simp only [actionClientEntry, bind_eq_ok, pure_eq_ok] at h
  obtain ⟨json, hjson, -, -, type, -, useOwnThread, -, allowSimultaneous, -, _, hsimultaneous,
    service, hservice, feedback, hfeedback, status, hstatus, compression, hcompression, _, hown,
    found, hchannel, rfl⟩ := h
  obtain ⟨-, hknown, hothers⟩ := channel_eq_ok hchannel
  exact ⟨⟨json, hjson, hservice, hfeedback, hstatus, hcompression⟩, requireOwnThread_eq_ok hown,
    requireSimultaneous_eq_ok hsimultaneous, hknown, hothers⟩

/-- The loops of a successful run and what becomes of their entries. -/
structure Initialized (env : Environment) (parameters : Parameters) (accepted : Accepted) :
    Prop where
  profiles : ∃ qos compression, readQos env parameters = .ok qos ∧
    readCompression env parameters = .ok compression ∧
    accepted.toProfiles = profilesOf qos compression
  topics : ∃ subscriber publisher,
    readSubscriber env parameters accepted.toProfiles = .ok subscriber ∧
    readPublisher env parameters accepted.toProfiles subscriber = .ok publisher ∧
    accepted.subscriber = subscriber ++ predefinedSubscriber parameters ∧
    accepted.publisher = publisher ++ predefinedPublisher parameters
  serviceServer : readServiceServer env parameters accepted.toProfiles = .ok accepted.serviceServer
  serviceClient : readServiceClient env parameters accepted.toProfiles accepted.serviceServer =
    .ok accepted.serviceClient
  actionServer : readActionServer env parameters accepted.toProfiles = .ok accepted.actionServer
  actionClient : readActionClient env parameters accepted.toProfiles accepted.actionServer =
    .ok accepted.actionClient
  tf : ¬ (parameters.publishTf = true ∧ parameters.subscribeTf = true)
  clock : ¬ (parameters.publishClock = true ∧ parameters.subscribeClock = true)

theorem check_eq_ok {condition : Prop} [Decidable condition] {reason : String} {u : Unit}
    (h : check condition reason = .ok u) : condition := by
  unfold check at h
  split at h
  · assumption
  · cases h

theorem initializeParameters_eq_ok {env : Environment} {parameters : Parameters}
    {authentication : Bool} {accepted : Accepted}
    (h : initializeParameters env parameters authentication = .ok accepted) :
    Initialized env parameters accepted := by
  simp only [initializeParameters, bind_eq_ok] at h
  obtain ⟨qos, hqos, compression, hcompression, subscriber, hsubscriber, publisher, hpublisher,
    serviceServer, hserviceServer, serviceClient, hserviceClient, actionServer, hactionServer,
    actionClient, hactionClient, _, htf, _, hclock, _, -, h⟩ := h
  have hstored : ∀ stored : Accepted, (if authentication = true then do
      checkAuthentication env parameters
      pure stored
    else pure stored) = Except.ok accepted → stored = accepted := by
    intro stored hstored
    split at hstored
    · obtain ⟨-, -, hpure⟩ := bind_eq_ok.mp hstored
      exact pure_eq_ok.mp hpure
    · exact pure_eq_ok.mp hstored
  obtain rfl := hstored _ h
  exact ⟨⟨qos, compression, hqos, hcompression, rfl⟩,
    ⟨subscriber, publisher, hsubscriber, hpublisher, rfl, rfl⟩, hserviceServer, hserviceClient,
    hactionServer, hactionClient, check_eq_ok htf, check_eq_ok hclock⟩

/-- A list of servers and one of clients that refuses the channels of the
servers. -/
theorem Reads.nodup_append {readServer readClient : List UInt8 → String →
      Except String ServiceActionDefinition} {serverTexts clientTexts : List String}
    {server client : List ServiceActionDefinition} {serverKind clientKind feedbackQos statusQos :
      String}
    (hserver : Reads ServiceActionDefinition.channel readServer [] serverTexts server)
    (hclient : Reads ServiceActionDefinition.channel readClient [] clientTexts client)
    (hreadServer : ∀ known text entry, readServer known text = .ok entry →
      ServiceActionRead parse profiles serverKind feedbackQos statusQos [] known text entry)
    (hreadClient : ∀ known text entry, readClient known text = .ok entry →
      ServiceActionRead parse profiles clientKind feedbackQos statusQos
        (server.map ServiceActionDefinition.channel) known text entry) :
    ((server ++ client).map ServiceActionDefinition.channel).Nodup ∧
      ∀ entry ∈ server ++ client,
        entry.compression.target.compressor ≠ .none ∨ entry.allowSimultaneous = true →
          entry.useOwnThread = true := by
  obtain ⟨hservers, -⟩ :=
    hserver.nodup fun known text entry h => (hreadServer known text entry h).fresh
  obtain ⟨hclients, -⟩ :=
    hclient.nodup fun known text entry h => (hreadClient known text entry h).fresh
  refine ⟨?_, fun entry hentry => ?_⟩
  · rw [List.map_append, List.nodup_append]
    refine ⟨hservers, hclients, fun a ha b hb hab => ?_⟩
    obtain ⟨entry, hentry, rfl⟩ := List.mem_map.mp hb
    obtain ⟨known, text, -, hread⟩ := hclient.mem entry hentry
    exact (hreadClient known text entry hread).freshOther (hab ▸ ha)
  · rcases List.mem_append.mp hentry with hold | hnew
    · obtain ⟨known, text, -, hread⟩ := hserver.mem entry hold
      exact fun h => h.elim (hreadServer known text entry hread).ownThread
        (hreadServer known text entry hread).simultaneous
    · obtain ⟨known, text, -, hread⟩ := hclient.mem entry hnew
      exact fun h => h.elim (hreadClient known text entry hread).ownThread
        (hreadClient known text entry hread).simultaneous

/-- The predefined entries have the channels of their op-codes and threads of
their own. -/
theorem mem_predefined {parameters : Parameters} {topic : TopicDefinition}
    (h : topic ∈ predefinedSubscriber parameters ++ predefinedPublisher parameters) :
    topic = clockTopic ∨ topic = tfTopic ∨ topic = tfStaticTopic := by
  unfold predefinedSubscriber predefinedPublisher at h
  simp only [List.mem_append] at h
  rcases h with h | h | h <;> split at h <;> simp at h <;> tauto

theorem isOpCode_predefined {parameters : Parameters} {topic : TopicDefinition}
    (h : topic ∈ predefinedSubscriber parameters ++ predefinedPublisher parameters) :
    IsOpCode topic.channel.toNat ∧ topic.useOwnThread = true := by
  rcases mem_predefined h with rfl | rfl | rfl <;> exact ⟨by decide, rfl⟩

theorem predefined_nodup {parameters : Parameters}
    (htf : ¬ (parameters.publishTf = true ∧ parameters.subscribeTf = true)) :
    ((predefinedSubscriber parameters ++ predefinedPublisher parameters).map
      TopicDefinition.channel).Nodup := by
  unfold predefinedSubscriber predefinedPublisher
  cases hsubscribe : parameters.subscribeTf with
  | true =>
      have hpublish : parameters.publishTf = false := by simpa [hsubscribe] using htf
      rw [hpublish]
      cases parameters.publishClock <;> decide
  | false => cases parameters.publishTf <;> cases parameters.publishClock <;> decide

/-- What holds of the topics a run has stored. -/
structure TopicsAccepted (parameters : Parameters) (accepted : Accepted) : Prop where
  distinct : ((accepted.subscriber ++ accepted.publisher).map TopicDefinition.channel).Nodup
  subscriber : ∀ topic ∈ accepted.subscriber,
    topic ∉ predefinedSubscriber parameters → ¬ IsOpCode topic.channel.toNat
  publisher : ∀ topic ∈ accepted.publisher,
    topic ∉ predefinedPublisher parameters → ¬ IsOpCode topic.channel.toNat
  ownThread : ∀ topic ∈ accepted.subscriber ++ accepted.publisher,
    topic.compression.target.compressor ≠ .none → topic.useOwnThread = true

theorem Initialized.topicsAccepted {env : Environment} {parameters : Parameters}
    {accepted : Accepted} (h : Initialized env parameters accepted) :
    TopicsAccepted parameters accepted := by
  obtain ⟨subscriber, publisher, hsubscriber, hpublisher, hallSubscriber, hallPublisher⟩ := h.topics
  have hreadSubscriber : ∀ topic ∈ subscriber, ∃ known text,
      SubscriberRead env.parse accepted.toProfiles known text topic := by
    intro topic htopic
    obtain ⟨known, text, -, hread⟩ := (reads_of_readEntries hsubscriber).mem topic htopic
    exact ⟨known, text, subscriberEntry_eq_ok hread⟩
  have hreadPublisher : ∀ topic ∈ publisher, ∃ known text,
      PublisherRead env.parse accepted.toProfiles (subscriber.map TopicDefinition.channel) known
        text topic := by
    intro topic htopic
    obtain ⟨known, text, -, hread⟩ := (reads_of_readEntries hpublisher).mem topic htopic
    exact ⟨known, text, publisherEntry_eq_ok hread⟩
  have hreserved : ∀ topic ∈ subscriber ++ publisher, ¬ IsOpCode topic.channel.toNat := by
    intro topic htopic
    rcases List.mem_append.mp htopic with hmem | hmem
    · obtain ⟨known, text, hread⟩ := hreadSubscriber topic hmem
      exact hread.topicChannel
    · obtain ⟨known, text, hread⟩ := hreadPublisher topic hmem
      exact hread.topicChannel
  have hdefined : ((subscriber ++ publisher).map TopicDefinition.channel).Nodup := by
    rw [List.map_append, List.nodup_append]
    refine ⟨((reads_of_readEntries hsubscriber).nodup fun _ _ _ h =>
      (subscriberEntry_eq_ok h).fresh).1, ((reads_of_readEntries hpublisher).nodup fun _ _ _ h =>
      (publisherEntry_eq_ok h).fresh).1, fun a ha b hb hab => ?_⟩
    obtain ⟨topic, htopic, rfl⟩ := List.mem_map.mp hb
    obtain ⟨known, text, hread⟩ := hreadPublisher topic htopic
    exact hread.freshSubscriber (hab ▸ ha)
  have hperm : (accepted.subscriber ++ accepted.publisher).Perm
      ((subscriber ++ publisher) ++
        (predefinedSubscriber parameters ++ predefinedPublisher parameters)) := by
    rw [hallSubscriber, hallPublisher, List.append_assoc, List.append_assoc]
    refine List.Perm.append_left _ ?_
    rw [← List.append_assoc, ← List.append_assoc]
    exact List.perm_append_comm.append_right _
  have hcases : ∀ topic ∈ accepted.subscriber ++ accepted.publisher,
      topic ∈ subscriber ++ publisher ∨
        topic ∈ predefinedSubscriber parameters ++ predefinedPublisher parameters :=
    fun topic htopic => List.mem_append.mp (hperm.mem_iff.mp htopic)
  refine ⟨?_, ?_, ?_, ?_⟩
  · rw [(hperm.map TopicDefinition.channel).nodup_iff, List.map_append, List.nodup_append]
    refine ⟨hdefined, predefined_nodup h.tf, fun a ha b hb hab => ?_⟩
    obtain ⟨topic, htopic, rfl⟩ := List.mem_map.mp ha
    obtain ⟨other, hother, rfl⟩ := List.mem_map.mp hb
    exact hreserved topic htopic (hab ▸ (isOpCode_predefined hother).1)
  · intro topic htopic hpredefined
    rw [hallSubscriber] at htopic
    have hmem := (List.mem_append.mp htopic).resolve_right hpredefined
    exact hreserved topic (List.mem_append_left _ hmem)
  · intro topic htopic hpredefined
    rw [hallPublisher] at htopic
    have hmem := (List.mem_append.mp htopic).resolve_right hpredefined
    exact hreserved topic (List.mem_append_right _ hmem)
  · intro topic htopic hcompressed
    rcases hcases topic htopic with hmem | hmem
    · rcases List.mem_append.mp hmem with hmem | hmem
      · obtain ⟨known, text, hread⟩ := hreadSubscriber topic hmem
        exact hread.ownThread hcompressed
      · obtain ⟨known, text, hread⟩ := hreadPublisher topic hmem
        rw [hread.compression] at hcompressed
        exact absurd rfl hcompressed
    · exact (isOpCode_predefined hmem).2

end Parameters

open Parameters

/-- The part of a definition the topic managers use. -/
def TopicDefinition.toTopic (topic : TopicDefinition) : Topic :=
  ⟨topic.channel, topic.useOwnThread, topic.permanent, topic.compression.target⟩

namespace Accepted

variable (accepted : Accepted)

def subscriberTopics : List Topic := accepted.subscriber.map TopicDefinition.toTopic

def publisherTopics : List Topic := accepted.publisher.map TopicDefinition.toTopic

def entries : Role → List ServiceActionDefinition
  | .serviceServer => accepted.serviceServer
  | .serviceClient => accepted.serviceClient
  | .actionServer => accepted.actionServer
  | .actionClient => accepted.actionClient

/-- The managers after `init`, with a definition for the plugin made of it. -/
def publisherManager : PublisherManager Unit := PublisherManager.start.init accepted.publisherTopics

def subscriberManager : SubscriberManager Unit :=
  SubscriberManager.start.init accepted.subscriberTopics

def serviceActionManager : ServiceActionManager ServiceActionDefinition :=
  let plugins (role : Role) := (accepted.entries role).map fun entry => (entry.channel, entry)
  .init (plugins .serviceServer) (plugins .serviceClient) (plugins .actionServer)
    (plugins .actionClient)

/-- Every entry is registered under its channel, and nothing else is. -/
structure Registered : Prop where
  publishers : ∀ channel topic, accepted.publisherManager.publishers channel = some topic ↔
    topic ∈ accepted.publisherTopics ∧ topic.channel = channel
  subscribers : ∀ channel topic, accepted.subscriberManager.subscribers channel = some topic ↔
    (topic ∈ accepted.subscriberTopics ∧ topic.permanent = true) ∧ topic.channel = channel
  topics : ∀ channel topic, topicFor accepted.subscriberTopics channel = some topic ↔
    topic ∈ accepted.subscriberTopics ∧ topic.channel = channel
  plugins : ∀ role channel entry,
    accepted.serviceActionManager.plugins role channel = some entry ↔
      entry ∈ accepted.entries role ∧ entry.channel = channel

variable {accepted} {parameters : Parameters}

theorem map_channel_toTopic (topics : List TopicDefinition) :
    (topics.map TopicDefinition.toTopic).map Topic.channel =
      topics.map TopicDefinition.channel := by
  rw [List.map_map]
  rfl

theorem topics_nodup (h : TopicsAccepted parameters accepted) :
    ((accepted.subscriberTopics ++ accepted.publisherTopics).map Topic.channel).Nodup := by
  have hdistinct := h.distinct
  rw [subscriberTopics, publisherTopics, List.map_append, map_channel_toTopic, map_channel_toTopic,
    ← List.map_append]
  exact hdistinct

theorem Registered.of_nodup (htopics : TopicsAccepted parameters accepted)
    (hplugins : ∀ role, ((accepted.entries role).map ServiceActionDefinition.channel).Nodup) :
    accepted.Registered := by
  have hnodup := topics_nodup htopics
  rw [List.map_append] at hnodup
  have hsubscriber := hnodup.of_append_left
  refine ⟨?_, ?_, ?_, ?_⟩
  · intro channel topic
    exact KeyMap.insertAll_empty_eq_some hnodup.of_append_right
  · intro channel topic
    have hpermanent := hsubscriber.sublist
      ((List.filter_sublist (p := Topic.permanent)).map Topic.channel)
    rw [← List.mem_filter]
    exact KeyMap.insertAll_empty_eq_some hpermanent
  · intro channel topic
    exact KeyMap.find?_eq_some hsubscriber
  · intro role channel entry
    have hlookup : accepted.serviceActionManager.plugins role channel =
        (accepted.entries role).find? fun entry => entry.channel == channel := by
      cases role <;> exact KeyMap.lookup_map ServiceActionDefinition.channel _ _
    rw [hlookup]
    exact KeyMap.find?_eq_some (hplugins role)

end Accepted

namespace Parameters

variable {env : Environment} {parameters : Parameters} {authentication : Bool}
  {accepted : Accepted}

theorem Initialized.services (h : Initialized env parameters accepted) :
    ((accepted.serviceServer ++ accepted.serviceClient).map
        ServiceActionDefinition.channel).Nodup ∧
      ∀ entry ∈ accepted.serviceServer ++ accepted.serviceClient,
        entry.compression.target.compressor ≠ .none ∨ entry.allowSimultaneous = true →
          entry.useOwnThread = true :=
  (reads_of_readEntries h.serviceServer).nodup_append (reads_of_readEntries h.serviceClient)
    (fun _ _ _ hread => serviceServerEntry_eq_ok hread)
    (fun _ _ _ hread => serviceClientEntry_eq_ok hread)

theorem Initialized.actions (h : Initialized env parameters accepted) :
    ((accepted.actionServer ++ accepted.actionClient).map
        ServiceActionDefinition.channel).Nodup ∧
      ∀ entry ∈ accepted.actionServer ++ accepted.actionClient,
        entry.compression.target.compressor ≠ .none ∨ entry.allowSimultaneous = true →
          entry.useOwnThread = true :=
  (reads_of_readEntries h.actionServer).nodup_append (reads_of_readEntries h.actionClient)
    (fun _ _ _ hread => actionServerEntry_eq_ok hread)
    (fun _ _ _ hread => actionClientEntry_eq_ok hread)

theorem Initialized.registered (h : Initialized env parameters accepted) :
    accepted.Registered := by
  obtain ⟨hservices, -⟩ := h.services
  obtain ⟨hactions, -⟩ := h.actions
  rw [List.map_append] at hservices hactions
  refine .of_nodup h.topicsAccepted fun role => ?_
  cases role with
  | serviceServer => exact hservices.of_append_left
  | serviceClient => exact hservices.of_append_right
  | actionServer => exact hactions.of_append_left
  | actionClient => exact hactions.of_append_right

theorem reserved_iff (channel : UInt8) : Reserved channel ↔ IsOpCode channel.toNat := by
  have hbyte := channel.toNat_lt
  have hle : Reserved channel ↔ 249 ≤ channel.toNat := UInt8.le_iff_toNat_le
  rw [hle, IsOpCode]
  omega

/-- The configuration the managers of topics work with. -/
def globalConfig (h : initializeParameters env parameters authentication = .ok accepted) :
    GlobalConfig where
  publisher := accepted.publisherTopics
  subscriber := accepted.subscriberTopics
  subscribeClock := parameters.subscribeClock
  distinct := Accepted.topics_nodup (initializeParameters_eq_ok h).topicsAccepted
  publisherChannel := by
    intro topic htopic hreserved
    obtain ⟨entry, hentry, rfl⟩ := List.mem_map.mp htopic
    by_contra hother
    refine (initializeParameters_eq_ok h).topicsAccepted.publisher entry hentry ?_
      ((reserved_iff _).mp hreserved)
    intro hmem
    rcases mem_predefined (List.mem_append_right (predefinedSubscriber parameters) hmem) with
      rfl | rfl | rfl <;>
        simp [TopicDefinition.toTopic, clockTopic, tfTopic, tfStaticTopic] at hother
  subscriberChannel := by
    intro topic htopic hreserved
    obtain ⟨entry, hentry, rfl⟩ := List.mem_map.mp htopic
    by_contra hother
    refine (initializeParameters_eq_ok h).topicsAccepted.subscriber entry hentry ?_
      ((reserved_iff _).mp hreserved)
    unfold predefinedSubscriber
    intro hmem
    split at hmem
    · simp only [List.mem_cons, List.not_mem_nil, or_false] at hmem
      rcases hmem with rfl | rfl <;>
        simp [TopicDefinition.toTopic, tfTopic, tfStaticTopic] at hother
    · cases hmem
  subscriberCompression := by
    intro topic htopic hcompressed
    obtain ⟨entry, hentry, rfl⟩ := List.mem_map.mp htopic
    exact (initializeParameters_eq_ok h).topicsAccepted.ownThread entry
      (List.mem_append_left _ hentry) hcompressed

end Parameters

/-- The channels of an accepted configuration are distinct and in range, the
entries that need a thread of their own have one, and the managers register
every entry. -/
theorem initializeParameters_distinct {env : Environment} {parameters : Parameters}
    {authentication : Bool} {accepted : Accepted}
    (h : initializeParameters env parameters authentication = .ok accepted) :
    ((accepted.subscriber ++ accepted.publisher).map TopicDefinition.channel).Nodup ∧
    (∀ topic ∈ accepted.subscriber, topic ∉ predefinedSubscriber parameters →
      topic.channel.toNat ≤ 248) ∧
    (∀ topic ∈ accepted.publisher, topic ∉ predefinedPublisher parameters →
      topic.channel.toNat ≤ 248) ∧
    ((accepted.serviceServer ++ accepted.serviceClient).map
      ServiceActionDefinition.channel).Nodup ∧
    ((accepted.actionServer ++ accepted.actionClient).map
      ServiceActionDefinition.channel).Nodup ∧
    (∀ topic ∈ accepted.subscriber ++ accepted.publisher,
      topic.compression.target.compressor ≠ .none → topic.useOwnThread = true) ∧
    (∀ role, ∀ entry ∈ accepted.entries role,
      entry.compression.target.compressor ≠ .none ∨ entry.allowSimultaneous = true →
        entry.useOwnThread = true) ∧
    accepted.Registered := by
  have hinit := initializeParameters_eq_ok h
  have htopics := hinit.topicsAccepted
  obtain ⟨hservices, hserviceThread⟩ := hinit.services
  obtain ⟨hactions, hactionThread⟩ := hinit.actions
  have hrange : ∀ channel : UInt8, ¬ IsOpCode channel.toNat → channel.toNat ≤ 248 := by
    intro channel hchannel
    have hbyte := channel.toNat_lt
    unfold IsOpCode at hchannel
    omega
  refine ⟨htopics.distinct,
    fun topic htopic hown => hrange _ (htopics.subscriber topic htopic hown),
    fun topic htopic hown => hrange _ (htopics.publisher topic htopic hown), hservices, hactions,
    htopics.ownThread, ?_, hinit.registered⟩
  intro role entry hentry
  cases role with
  | serviceServer => exact hserviceThread entry (List.mem_append_left _ hentry)
  | serviceClient => exact hserviceThread entry (List.mem_append_right _ hentry)
  | actionServer => exact hactionThread entry (List.mem_append_left _ hentry)
  | actionClient => exact hactionThread entry (List.mem_append_right _ hentry)

namespace Sample

def qosText : String :=
  "\x7b\"id\": 0, \"history\": \"RMW_QOS_POLICY_HISTORY_KEEP_LAST\", \"depth\": 10, " ++
    "\"reliability\": \"RMW_QOS_POLICY_RELIABILITY_RELIABLE\", " ++
    "\"durability\": \"RMW_QOS_POLICY_DURABILITY_VOLATILE\"\x7d"

def compressionText : String := "\x7b\"id\": 0, \"compressor\": \"NONE\", \"rate\": 0\x7d"

/-- A subscriber with a QoS id of 0 and one with a QoS id of 256. -/
def subscriberText (wrapped : Bool) : String :=
  "\x7b\"channel\": 1, \"topic\": \"/pose\", \"type\": \"geometry_msgs/msg/Pose\", " ++
    "\"useOwnThread\": false, \"permanent\": true, \"qos\": " ++
    (if wrapped then "256" else "0") ++ ", \"compression\": 0\x7d"

def serviceText : String :=
  "\x7b\"channel\": 1, \"type\": \"connect_plugins::AddTwoIntsServiceServer\", " ++
    "\"service-qos\": 0, \"useOwnThread\": true, \"allowSimultaneous\": true, " ++
    "\"maxExecTime\": 10, \"compression\": 0\x7d"

def subscriberObject (qos : Int64) : JsonObject :=
  [("channel", .int64 1), ("topic", .string "/pose"),
    ("type", .string "geometry_msgs/msg/Pose"), ("useOwnThread", .bool false),
    ("permanent", .bool true), ("qos", .int64 qos), ("compression", .int64 0)]

/-- The parser on these texts. -/
def parse : JsonParse := fun text =>
  if text = qosText then
    .ok (.object [("id", .int64 0), ("history", .string "RMW_QOS_POLICY_HISTORY_KEEP_LAST"),
      ("depth", .int64 10), ("reliability", .string "RMW_QOS_POLICY_RELIABILITY_RELIABLE"),
      ("durability", .string "RMW_QOS_POLICY_DURABILITY_VOLATILE")])
  else if text = compressionText then
    .ok (.object [("id", .int64 0), ("compressor", .string "NONE"), ("rate", .int64 0)])
  else if text = subscriberText false then .ok (.object (subscriberObject 0))
  else if text = subscriberText true then .ok (.object (subscriberObject 256))
  else if text = serviceText then
    .ok (.object [("channel", .int64 1),
      ("type", .string "connect_plugins::AddTwoIntsServiceServer"), ("service-qos", .int64 0),
      ("useOwnThread", .bool true), ("allowSimultaneous", .bool true),
      ("maxExecTime", .int64 10), ("compression", .int64 0)])
  else .error "syntax error"

/-- Every entry can be created. -/
def env : Environment where
  parse := parse
  createGenericSubscription := fun _ => .ok ()
  createGenericPublisher := fun _ => .ok ()
  testServiceServer := fun _ => .ok ()
  testServiceClient := fun _ => .ok ()
  testActionServer := fun _ => .ok ()
  testActionClient := fun _ => .ok ()
  createAuthentication := fun _ => .ok ()

def parameters (wrapped : Bool) : Parameters where
  qos := [qosText]
  compression := [compressionText]
  subscriber := [subscriberText wrapped]
  publisher := []
  serviceServer := [serviceText]
  serviceClient := []
  actionServer := []
  actionClient := []
  subscribeClock := false
  publishClock := true
  subscribeTf := false
  publishTf := true
  fragmentationSize := 4096
  authenticationTimeout := 10
  authenticationPlugin := ""
  authenticationOmit := true

/-- The channels of the topics and the QoS pointers of the subscribers. -/
def summary (accepted : Accepted) : List UInt8 × List UInt8 × List (Option UInt8) :=
  (accepted.subscriber.map TopicDefinition.channel, accepted.publisher.map TopicDefinition.channel,
    accepted.subscriber.map fun topic => topic.qos.key)

/-- A configuration with a subscriber, a service server and the predefined
publishers. -/
theorem accepts (wrapped : Bool) : ∃ accepted,
    initializeParameters env (parameters wrapped) true = .ok accepted ∧
      summary accepted = ([1], [254, 252, 253], [some 0]) := by
  have hrun : (initializeParameters env (parameters wrapped) true).toOption.map summary =
      some ([1], [254, 252, 253], [some 0]) := by
    cases wrapped <;> decide +kernel
  obtain ⟨accepted, haccepted, hsummary⟩ := Option.map_eq_some_iff.mp hrun
  refine ⟨accepted, ?_, hsummary⟩
  cases hresult : initializeParameters env (parameters wrapped) true with
  | error failure =>
      rw [hresult] at haccepted
      cases haccepted
  | ok found =>
      rw [hresult] at haccepted
      rw [Option.some.inj haccepted]

end Sample

/-- The subscriber and the predefined publishers of a configuration. -/
theorem initializeParameters_distinct_sample : ∃ accepted : Accepted,
    (accepted.subscriber ++ accepted.publisher).map TopicDefinition.channel =
      [1, 254, 252, 253] ∧
    ((accepted.subscriber ++ accepted.publisher).map TopicDefinition.channel).Nodup ∧
    accepted.Registered := by
  obtain ⟨accepted, haccepted, hsummary⟩ := Sample.accepts false
  obtain ⟨hdistinct, -, -, -, -, -, -, hregistered⟩ := initializeParameters_distinct haccepted
  refine ⟨accepted, ?_, hdistinct, hregistered⟩
  simp only [Sample.summary, Prod.mk.injEq] at hsummary
  rw [List.map_append, hsummary.1, hsummary.2.1]
  rfl

end Ros2Connect
