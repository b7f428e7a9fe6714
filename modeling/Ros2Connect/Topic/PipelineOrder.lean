import Ros2Connect.Topic.Pipeline

/-!
What is published on a channel, followed by what is still under way for it, is
what its callbacks have queued. The callbacks of a threaded subscriber may
overlap and then queue in another order than they were called in.
-/

namespace Ros2Connect

open Lib

namespace Pipeline

variable {config : Config} {s t : State} {label : Label}

/-- The non-empty payload a frame carries on a channel. -/
def frameDelivery (codecs : Codecs) (channel : UInt8) (combinedVector : Bytes) :
    Option Bytes :=
  (RclMessage.fromFlatBuffer combinedVector).toOption.bind
    fun message => message.delivery codecs channel

/-- What a threaded subscriber holds, the next message first. -/
def outgoing (s : State) (channel : UInt8) : List VectorMessage :=
  (s.sending channel).toList ++ s.toSend channel

/-- The payloads under way for a channel, the next one to be published first. -/
def pending (config : Config) (s : State) (channel : UInt8) : List Bytes :=
  s.manager.queuedOn config.codecs channel ++
    s.transport.inFlight.filterMap (frameDelivery config.codecs channel) ++
    (outgoing s channel).filterMap fun message => nonEmpty message.getSrc

/-- A channel that is subscribed and published, in a way the publisher can take:
it has its own thread, or the subscriber does not compress. -/
def Connected (config : Config) (channel : UInt8) : Prop :=
  ∃ subscriber publisher, config.subscriber channel = some subscriber ∧
    config.publisher channel = some publisher ∧
    (publisher.useOwnThread = true ∨ subscriber.compression.compressor = .none)

/-- A frame that is not compressed, if it is one of the channel. -/
def PlainOn (channel : UInt8) (combinedVector : Bytes) : Prop :=
  ∀ message, RclMessage.fromFlatBuffer combinedVector = .ok message →
    message.channel = channel → MessageBase.isCompressed message = false

theorem isTopic_of_subscriber {channel : UInt8} {topic : Topic}
    (h : config.subscriber channel = some topic) : isTopic config channel = true := by
  simp [isTopic, h]

/-- What the vector of a payload delivers. -/
theorem frameDelivery_combinedVector (hcodecs : config.codecs.RoundTrip) (topic : Topic)
    (channel other : UInt8) (data : Bytes) :
    frameDelivery config.codecs other (State.combinedVector config topic
      (VectorMessage.fromSerializedMessage channel data)) =
        if channel = other then nonEmpty data else none := by
  have hplain : ∀ message : RclMessage, message.channel = channel →
      message.payload config.codecs = some data ∨
        (data = [] ∧ message.payload config.codecs = none) →
      message.delivery config.codecs other =
        if channel = other then nonEmpty data else none := by
    rintro message rfl hpayload
    unfold RclMessage.delivery
    by_cases hchannel : message.channel = other
    · rw [if_pos hchannel, if_pos hchannel]
      rcases hpayload with hsome | ⟨rfl, hnone⟩
      · rw [hsome]
        rfl
      · rw [hnone]
        rfl
    · rw [if_neg hchannel, if_neg hchannel]
  unfold State.combinedVector
  by_cases hcompressor : topic.compression.compressor = .none
  · rw [if_neg (by simpa using hcompressor),
      VectorMessage.getCombinedVector_fromSerializedMessage, frameDelivery,
      RclMessage.fromFlatBuffer_uncompressed]
    exact hplain _ rfl (Or.inl rfl)
  · rw [if_pos hcompressor]
    obtain ⟨message, hmessage, hchannel, ⟨huncompressed, hdata⟩ | ⟨hcompressed, -, hstore⟩⟩ :=
      VectorMessage.fromFlatBuffer_frame hcodecs channel data topic.compression
    · rw [frameDelivery, hmessage]
      refine hplain message hchannel (Or.inl ?_)
      rw [RclMessage.payload_plain _ huncompressed, hdata]
    · rw [frameDelivery, hmessage]
      apply hplain message hchannel
      unfold RclMessage.payload
      rw [if_pos hcompressed, hstore, RclMessage.store]
      by_cases hdata : data = []
      · exact Or.inr ⟨hdata, by simp [hdata, Except.map]⟩
      · exact Or.inl (by simp [hdata, Except.map])

/-- The frames of a channel are not compressed when its subscriber does not
compress. -/
theorem plainOn_combinedVector (hcodecs : config.codecs.RoundTrip) (topic : Topic)
    (channel other : UInt8) (data : Bytes)
    (h : channel = other → topic.compression.compressor = .none) :
    PlainOn other (State.combinedVector config topic
      (VectorMessage.fromSerializedMessage channel data)) := by
  intro message hmessage hother
  unfold State.combinedVector at hmessage
  by_cases hcompressor : topic.compression.compressor = .none
  · rw [if_neg (by simpa using hcompressor),
      VectorMessage.getCombinedVector_fromSerializedMessage,
      RclMessage.fromFlatBuffer_uncompressed] at hmessage
    cases hmessage
    rfl
  · obtain ⟨decoded, hdecoded, hchannel, -⟩ :=
      VectorMessage.fromFlatBuffer_frame hcodecs channel data topic.compression
    rw [if_pos hcompressor, hdecoded] at hmessage
    cases hmessage
    exact absurd (h (hchannel.symm.trans hother)) hcompressor

/-- Nothing is published on a channel or under way for it but what its callbacks
have queued, in that order. On a connected channel nothing is missing. -/
structure Conserved (config : Config) (s : State) (channel : UInt8) : Prop where
  sublist : (s.manager.publishedOn channel ++ pending config s channel).Sublist
    ((s.queued channel).filterMap nonEmpty)
  complete : Connected config channel →
    s.manager.publishedOn channel ++ pending config s channel =
      (s.queued channel).filterMap nonEmpty

/-- What is queued is under way behind everything else. -/
theorem Conserved.append {channel : UInt8} {added : List Bytes}
    (h : Conserved config s channel)
    (hpublished : t.manager.publishedOn channel = s.manager.publishedOn channel)
    (hpending : pending config t channel = pending config s channel ++ added)
    (hqueued : (t.queued channel).filterMap nonEmpty =
      (s.queued channel).filterMap nonEmpty ++ added) : Conserved config t channel := by
  refine ⟨?_, fun hconnected => ?_⟩
  · rw [hpublished, hpending, hqueued, ← List.append_assoc]
    exact h.sublist.append_right added
  · rw [hpublished, hpending, hqueued, ← List.append_assoc, h.complete hconnected]

/-- A payload that is published was the next one under way. -/
theorem Conserved.ofEq {channel : UInt8} (h : Conserved config s channel)
    (hkept : t.manager.publishedOn channel ++ pending config t channel =
      s.manager.publishedOn channel ++ pending config s channel)
    (hqueued : t.queued channel = s.queued channel) : Conserved config t channel := by
  refine ⟨?_, fun hconnected => ?_⟩
  · rw [hkept, hqueued]
    exact h.sublist
  · rw [hkept, hqueued]
    exact h.complete hconnected

/-- What the queues hold of a channel and in which order. -/
structure Ordered (config : Config) (s : State) : Prop where
  transport : s.transport.Sound
  publishers : ∀ channel, s.manager.publishers channel = config.publisher channel
  sorted : s.manager.Sorted
  messages : ∀ channel, ∀ message ∈ outgoing s channel,
    ∃ data, message = VectorMessage.fromSerializedMessage channel data
  shared : ∀ channel topic, config.subscriber channel = some topic →
    topic.useOwnThread = false → outgoing s channel = []
  plain : ∀ channel topic, config.subscriber channel = some topic →
    topic.compression.compressor = .none →
      (∀ combinedVector ∈ s.transport.inFlight, PlainOn channel combinedVector) ∧
      ∀ received ∈ s.manager.waiting, received.message.channel = channel →
        MessageBase.isCompressed received.message = false
  conserved : ∀ channel, isTopic config channel = true → Conserved config s channel

theorem Ordered.start : Ordered config (.start config) where
  transport := .start
  publishers := fun channel => PublisherManager.init_publishers _ _ channel
  sorted := ⟨nofun, fun _ _ _ _ => rfl⟩
  messages := nofun
  shared := fun _ _ _ _ => rfl
  plain := fun _ _ _ _ => ⟨nofun, nofun⟩
  conserved := fun _ _ => ⟨List.Sublist.refl _, fun _ => rfl⟩

/-- A connected channel's publisher can publish what waits for it. -/
theorem Ordered.delivers (h : Ordered config s) {channel : UInt8}
    (hconnected : Connected config channel) : s.manager.Delivers channel := by
  obtain ⟨subscriber, publisher, hsubscriber, hpublisher, hcompatible⟩ := hconnected
  refine ⟨publisher, (h.publishers channel).trans hpublisher, fun hshared => ?_⟩
  have hnone : subscriber.compression.compressor = .none := by
    rcases hcompatible with hthread | hnone
    · rw [hshared] at hthread
      cases hthread
    · exact hnone
  exact (h.plain channel subscriber hsubscriber hnone).2

/-- A step of the publishing node's managers and threads. -/
theorem Ordered.withManager (h : Ordered config s) {manager : PublisherManager Unit}
    (hpublishers : manager.publishers = s.manager.publishers) (hsorted : manager.Sorted)
    (hwaiting : ∀ received ∈ manager.waiting, received ∈ s.manager.waiting)
    (hsublist : ∀ channel, (manager.givenOn config.codecs channel).Sublist
      (s.manager.givenOn config.codecs channel))
    (hgiven : ∀ channel, Connected config channel →
      manager.givenOn config.codecs channel = s.manager.givenOn config.codecs channel) :
    Ordered config { s with manager := manager } where
  transport := h.transport
  publishers := hpublishers ▸ h.publishers
  sorted := hsorted
  messages := h.messages
  shared := h.shared
  plain := fun channel topic htopic hnone =>
    ⟨(h.plain channel topic htopic hnone).1, fun received hreceived =>
      (h.plain channel topic htopic hnone).2 received (hwaiting received hreceived)⟩
  conserved := by
    intro channel htopic
    have hsplit (t : State) : t.manager.publishedOn channel ++ pending config t channel =
        t.manager.givenOn config.codecs channel ++
          (t.transport.inFlight.filterMap (frameDelivery config.codecs channel) ++
            (outgoing t channel).filterMap fun message => nonEmpty message.getSrc) := by
      simp only [pending, PublisherManager.givenOn, List.append_assoc]
    refine ⟨List.Sublist.trans ?_ (h.conserved channel htopic).sublist, fun hconnected => ?_⟩
    · rw [hsplit, hsplit]
      exact (hsublist channel).append_right _
    · rw [← (h.conserved channel htopic).complete hconnected, hsplit, hsplit]
      exact congrArg (· ++ _) (hgiven channel hconnected)

/-- A step of the managers and threads that loses nothing. -/
theorem Ordered.withSame (h : Ordered config s) {manager : PublisherManager Unit}
    (hpublishers : manager.publishers = s.manager.publishers)
    (hwaiting : manager.waiting = s.manager.waiting) (hsorted : manager.Sorted)
    (hgiven : ∀ channel,
      manager.givenOn config.codecs channel = s.manager.givenOn config.codecs channel) :
    Ordered config { s with manager := manager } :=
  h.withManager hpublishers hsorted (fun _ hreceived => hwaiting ▸ hreceived)
    (fun channel => hgiven channel ▸ List.Sublist.refl _) (fun channel _ => hgiven channel)

/-- A step of the connection that keeps what is under way for every topic. -/
theorem Ordered.withTransport (h : Ordered config s) {transport : Transport}
    (htransport : transport.Sound)
    (hplain : ∀ channel topic, config.subscriber channel = some topic →
      ∀ combinedVector ∈ transport.inFlight,
        combinedVector ∈ s.transport.inFlight ∨ PlainOn channel combinedVector)
    (hinFlight : ∀ channel, isTopic config channel = true →
      transport.inFlight.filterMap (frameDelivery config.codecs channel) =
        s.transport.inFlight.filterMap (frameDelivery config.codecs channel)) :
    Ordered config { s with transport := transport } where
  transport := htransport
  publishers := h.publishers
  sorted := h.sorted
  messages := h.messages
  shared := h.shared
  plain := by
    intro channel topic htopic hnone
    obtain ⟨hframes, hwaiting⟩ := h.plain channel topic htopic hnone
    refine ⟨fun combinedVector hmem => ?_, hwaiting⟩
    rcases hplain channel topic htopic combinedVector hmem with hold | hnew
    · exact hframes combinedVector hold
    · exact hnew
  conserved := by
    intro channel htopic
    refine (h.conserved channel htopic).ofEq ?_ rfl
    simp only [pending]
    rw [hinFlight channel htopic]
    rfl

theorem Ordered.ofInFlight (h : Ordered config s) {transport : Transport}
    (htransport : transport.Sound ∧ transport.inFlight = s.transport.inFlight) :
    Ordered config { s with transport := transport } :=
  h.withTransport htransport.1 (fun _ _ _ _ hmem => Or.inl (htransport.2 ▸ hmem))
    (fun _ _ => by rw [htransport.2])

/-- Frames of other channels may overtake the posted ones. -/
theorem Ordered.sendOther (h : Ordered config s) (runningInStrand : Bool)
    {combinedVector : Bytes} (hother : isOther config combinedVector = true) :
    Ordered config
      { s with transport := s.transport.send runningInStrand combinedVector } := by
  obtain ⟨message, hmessage, hreserved⟩ : ∃ message,
      RclMessage.fromFlatBuffer combinedVector = .ok message ∧
        isTopic config message.channel = false := by
    unfold isOther at hother
    cases hmessage : RclMessage.fromFlatBuffer combinedVector with
    | error fault => simp [hmessage] at hother
    | ok message => exact ⟨message, rfl, by simpa [hmessage] using hother⟩
  have hchannel : ∀ {channel : UInt8}, isTopic config channel = true →
      message.channel ≠ channel := by
    rintro channel htopic rfl
    rw [hreserved] at htopic
    cases htopic
  refine h.withTransport (h.transport.send _ _) ?_ ?_
  · intro channel topic htopic sent hsent
    rcases h.transport.mem_send hsent with hold | rfl
    · exact Or.inl hold
    · refine Or.inr fun decoded hdecoded hsame => ?_
      rw [hmessage] at hdecoded
      cases hdecoded
      exact absurd hsame (hchannel (isTopic_of_subscriber htopic))
  · intro channel htopic
    apply h.transport.filterMap_send _ _
    simp [frameDelivery, hmessage, Except.toOption,
      RclMessage.delivery_of_ne _ (hchannel htopic)]

theorem filterMap_queued_leave (channel other : UInt8) (data : Bytes) :
    ((s.leave channel data).queued other).filterMap nonEmpty =
      (s.queued other).filterMap nonEmpty ++
        if channel = other then (nonEmpty data).toList else [] := by
  by_cases hchannel : channel = other
  · subst hchannel
    cases hdata : nonEmpty data <;> simp [State.leave, hdata]
  · simp [State.leave, Function.update_of_ne (Ne.symm hchannel), hchannel]

/-- A vector that is posted is the last one under way for its channel. -/
theorem filterMap_post (hcodecs : config.codecs.RoundTrip) (hsound : s.transport.Sound)
    (topic : Topic) (channel other : UInt8) (data : Bytes) :
    (s.transport.send false (State.combinedVector config topic
      (VectorMessage.fromSerializedMessage channel data))).inFlight.filterMap
        (frameDelivery config.codecs other) =
      s.transport.inFlight.filterMap (frameDelivery config.codecs other) ++
        if channel = other then (nonEmpty data).toList else [] := by
  have hframe := frameDelivery_combinedVector hcodecs topic channel other data
  rw [(hsound.post _).2, List.filterMap_append]
  by_cases hchannel : channel = other
  · subst hchannel
    rw [if_pos rfl] at hframe
    cases hdata : nonEmpty data <;> simp [hframe, hdata]
  · rw [if_neg hchannel] at hframe
    simp [hframe, hchannel]

/-- The posted vector leaves the frames of uncompressed channels plain. -/
theorem Ordered.plain_post (h : Ordered config s) (hcodecs : config.codecs.RoundTrip)
    {channel : UInt8} {topic : Topic} (htopic : config.subscriber channel = some topic)
    (data : Bytes) {other : UInt8} {found : Topic} (hfound : config.subscriber other = some found)
    (hnone : found.compression.compressor = .none) :
    ∀ combinedVector ∈ (s.transport.send false (State.combinedVector config topic
      (VectorMessage.fromSerializedMessage channel data))).inFlight,
        PlainOn other combinedVector := by
  intro combinedVector hmem
  rcases h.transport.mem_send hmem with hold | rfl
  · exact (h.plain other found hfound hnone).1 combinedVector hold
  · apply plainOn_combinedVector hcodecs topic channel other data
    rintro rfl
    rw [htopic] at hfound
    cases hfound
    exact hnone

theorem outgoing_pushToSend (channel other : UInt8) (message : VectorMessage) :
    outgoing (s.pushToSend channel message) other =
      outgoing s other ++ if channel = other then [message] else [] := by
  by_cases hchannel : channel = other
  · subst hchannel
    simp [outgoing, State.pushToSend]
  · simp [outgoing, State.pushToSend, Function.update_of_ne (Ne.symm hchannel), hchannel]

theorem Ordered.finishThreaded (h : Ordered config s) {channel : UInt8} {topic : Topic}
    (htopic : config.subscriber channel = some topic) (hthread : topic.useOwnThread = true)
    (data : Bytes) :
    Ordered config ((s.leave channel data).pushToSend channel
      (VectorMessage.fromSerializedMessage channel data)) := by
  have houtgoing (other : UInt8) := outgoing_pushToSend (s := s.leave channel data)
    channel other (VectorMessage.fromSerializedMessage channel data)
  refine ⟨h.transport, h.publishers, h.sorted, ?_, ?_, h.plain, ?_⟩
  · intro other message hmessage
    rw [houtgoing] at hmessage
    rcases List.mem_append.mp hmessage with hold | hnew
    · exact h.messages other message hold
    · by_cases hchannel : channel = other
      · subst hchannel
        rw [if_pos rfl, List.mem_singleton] at hnew
        exact ⟨data, hnew⟩
      · rw [if_neg hchannel] at hnew
        cases hnew
  · intro other found hfound hshared
    have hchannel : channel ≠ other := by
      rintro rfl
      rw [htopic] at hfound
      cases hfound
      rw [hthread] at hshared
      cases hshared
    rw [houtgoing, if_neg hchannel, List.append_nil]
    exact h.shared other found hfound hshared
  · intro other hother
    have hqueued := filterMap_queued_leave (s := s) channel other data
    have hpending : pending config ((s.leave channel data).pushToSend channel
        (VectorMessage.fromSerializedMessage channel data)) other = pending config s other ++
          if channel = other then (nonEmpty data).toList else [] := by
      simp only [pending, houtgoing, List.filterMap_append, ← List.append_assoc]
      congr 1
      by_cases hchannel : channel = other
      · subst hchannel
        have hsrc : (VectorMessage.fromSerializedMessage channel data).getSrc = data := rfl
        cases hdata : nonEmpty data <;> simp [hsrc, hdata]
      · simp [hchannel]
    exact (h.conserved other hother).append rfl hpending hqueued

theorem Ordered.finishShared (h : Ordered config s) (hcodecs : config.codecs.RoundTrip)
    {channel : UInt8} {topic : Topic} (htopic : config.subscriber channel = some topic)
    (hshared : topic.useOwnThread = false) (data : Bytes) :
    Ordered config ((s.leave channel data).post (State.combinedVector config topic
      (VectorMessage.fromSerializedMessage channel data))) := by
  refine ⟨(h.transport.post _).1, h.publishers, h.sorted, h.messages, h.shared, ?_, ?_⟩
  · exact fun other found hfound hnone =>
      ⟨h.plain_post hcodecs htopic data hfound hnone, (h.plain other found hfound hnone).2⟩
  · intro other hother
    have hqueued := filterMap_queued_leave (s := s) channel other data
    have hpending : pending config ((s.leave channel data).post (State.combinedVector config
        topic (VectorMessage.fromSerializedMessage channel data))) other =
          pending config s other ++ if channel = other then (nonEmpty data).toList else [] := by
      have hinFlight := filterMap_post hcodecs h.transport topic channel other data
      have hempty : channel = other → outgoing s other = [] := by
        rintro rfl
        exact h.shared channel topic htopic hshared
      unfold pending
      change _ ++ List.filterMap _ (Transport.inFlight (s.transport.send false _)) ++
        List.filterMap _ (outgoing s other) = _
      rw [hinFlight]
      by_cases hchannel : channel = other
      · simp [hchannel, hempty hchannel]
        rfl
      · simp [hchannel]
        rfl
    exact (h.conserved other hother).append rfl hpending hqueued

/-- The end of a callback. -/
theorem Ordered.finish (h : Ordered config s) (hcodecs : config.codecs.RoundTrip)
    (channel : UInt8) (data : Bytes) : Ordered config (s.finish config channel data) := by
  unfold State.finish
  cases htopic : config.subscriber channel with
  | none => exact h
  | some topic =>
      cases hthread : topic.useOwnThread with
      | true => simpa [hthread] using h.finishThreaded htopic hthread data
      | false =>
          have hnone : topic.compression.compressor = .none := by
            by_contra hcompressed
            have hown := config.subscribing.subscriberCompression topic
              (topicFor_eq_some htopic).1 hcompressed
            rw [hthread] at hown
            cases hown
          have hshared := h.finishShared hcodecs htopic hthread data
          simpa [hthread, State.combinedVector, hnone] using hshared

/-- A step that touches none of the queues. -/
theorem Ordered.ofSame (h : Ordered config s) (htransport : t.transport = s.transport)
    (hmanager : t.manager = s.manager) (hqueued : t.queued = s.queued)
    (houtgoing : ∀ channel, outgoing t channel = outgoing s channel) : Ordered config t where
  transport := htransport ▸ h.transport
  publishers := hmanager ▸ h.publishers
  sorted := hmanager ▸ h.sorted
  messages := fun channel message hmessage =>
    h.messages channel message (houtgoing channel ▸ hmessage)
  shared := fun channel topic htopic hshared =>
    (houtgoing channel).trans (h.shared channel topic htopic hshared)
  plain := by
    intro channel topic htopic hnone
    rw [htransport, hmanager]
    exact h.plain channel topic htopic hnone
  conserved := by
    intro channel htopic
    refine (h.conserved channel htopic).ofEq ?_ (hqueued ▸ rfl)
    rw [pending, pending, hmanager, htransport, houtgoing channel]

theorem Ordered.take (h : Ordered config s) {channel : UInt8}
    (hsending : s.sending channel = none) : Ordered config (s.take channel) := by
  unfold State.take
  cases hqueue : s.toSend channel with
  | nil => exact h
  | cons message rest =>
      refine h.ofSame rfl rfl rfl fun other => ?_
      by_cases hchannel : other = channel
      · subst hchannel
        simp [outgoing, hsending, hqueue]
      · simp [outgoing, Function.update_of_ne hchannel]

/-- The message a threaded subscriber sends is the first one it holds. -/
theorem outgoing_sent {channel : UInt8} {message : VectorMessage}
    (hsending : s.sending channel = some message) (other : UInt8) (transport : Transport) :
    outgoing s other = (if channel = other then [message] else []) ++
      outgoing { s with
        sending := Function.update s.sending channel none
        transport := transport } other := by
  by_cases hchannel : channel = other
  · subst hchannel
    simp [outgoing, hsending]
  · simp [outgoing, Function.update_of_ne (Ne.symm hchannel), hchannel]

/-- A threaded subscriber sends behind everything under way for its channel. -/
theorem Ordered.send (h : Ordered config s) (hcodecs : config.codecs.RoundTrip)
    (channel : UInt8) : Ordered config (s.send config channel) := by
  unfold State.send
  cases hsending : s.sending channel with
  | none => exact h
  | some message =>
      cases htopic : config.subscriber channel with
      | none => exact h
      | some topic =>
          obtain ⟨data, rfl⟩ := h.messages channel message (by simp [outgoing, hsending])
          have houtgoing (other : UInt8) := outgoing_sent hsending other
            (s.transport.send false (State.combinedVector config topic
              (VectorMessage.fromSerializedMessage channel data)))
          refine ⟨(h.transport.post _).1, h.publishers, h.sorted, ?_, ?_, ?_, ?_⟩
          · exact fun other held hheld =>
              h.messages other held (houtgoing other ▸ List.mem_append_right _ hheld)
          · intro other found hfound hshared
            exact (List.append_eq_nil_iff.mp
              ((houtgoing other).symm.trans (h.shared other found hfound hshared))).2
          · exact fun other found hfound hnone =>
              ⟨h.plain_post hcodecs htopic data hfound hnone,
                (h.plain other found hfound hnone).2⟩
          · intro other hother
            have hinFlight := filterMap_post hcodecs h.transport topic channel other data
            refine (h.conserved other hother).ofEq ?_ rfl
            simp only [pending, houtgoing other, List.filterMap_append, State.post, hinFlight]
            by_cases hchannel : channel = other
            · subst hchannel
              have hsrc : (VectorMessage.fromSerializedMessage channel data).getSrc = data := rfl
              cases hdata : nonEmpty data <;> simp [hsrc, hdata]
            · simp [hchannel]

/-- What the read handler does with the next message. -/
theorem receive_cases {combinedVector : Bytes} {rest : List Bytes}
    (hwire : s.transport.wire = combinedVector :: rest) :
    (∃ fault, RclMessage.fromFlatBuffer combinedVector = .error fault ∧
      s.receive = { s with
        transport := s.transport.receive
        terminated := some (.outOfBounds fault) }) ∨
    ∃ message, RclMessage.fromFlatBuffer combinedVector = .ok message ∧
      (s.receive = { s with
        transport := s.transport.receive
        manager := s.manager.publish ⟨message, ()⟩ } ∨
      ((MessageBase.isOpCode message .authentication = true ∨
          destination message ≠ .publisherManager) ∧
        s.receive = { s with transport := s.transport.receive })) := by
  unfold State.receive
  cases hmessage : RclMessage.fromFlatBuffer combinedVector with
  | error fault => exact Or.inl ⟨fault, rfl, by simp only [hwire, hmessage]⟩
  | ok message =>
      refine Or.inr ⟨message, rfl, ?_⟩
      cases hauthentication : MessageBase.isOpCode message .authentication with
      | true => exact Or.inr ⟨Or.inl rfl, by simp [hwire, hmessage, hauthentication]⟩
      | false =>
          cases hdestination : destination message with
          | publisherManager =>
              exact Or.inl (by simp [hwire, hmessage, hauthentication, hdestination])
          | logger | subscriberManager | serviceActionManager =>
              exact Or.inr ⟨Or.inr nofun,
                by simp [hwire, hmessage, hauthentication, hdestination]⟩

/-- A topic has none of the channels the base connection or the server
connection handles itself. -/
theorem ne_opCode_of_isTopic {channel : UInt8} (h : isTopic config channel = true) :
    channel ≠ OpCode.notification.toByte ∧ channel ≠ OpCode.subscription.toByte ∧
      channel ≠ OpCode.serviceAction.toByte ∧ channel ≠ OpCode.authentication.toByte := by
  cases htopic : config.subscriber channel with
  | some topic =>
      obtain ⟨hmem, rfl⟩ := topicFor_eq_some htopic
      exact config.subscribing.subscriber_ne_opCode hmem
  | none =>
      have hreserved : ¬ Reserved channel := by simpa [isTopic, htopic] using h
      refine ⟨?_, ?_, ?_, ?_⟩ <;>
        · rintro rfl
          exact hreserved (by unfold Reserved; decide)

/-- The frames of a topic go to the publisher manager. -/
theorem channel_ne_of_destination {message : RclMessage} {channel : UInt8}
    (htopic : isTopic config channel = true)
    (hother : MessageBase.isOpCode message .authentication = true ∨
      destination message ≠ .publisherManager) : message.channel ≠ channel := by
  rintro rfl
  obtain ⟨hnotification, hsubscription, hserviceAction, hauthentication⟩ :=
    ne_opCode_of_isTopic htopic
  rcases hother with hopCode | hdestination
  · exact hauthentication ((message.isOpCode_eq_true _).mp hopCode)
  · apply hdestination
    unfold destination
    rw [if_neg (mt (message.isOpCode_eq_true _).mp hnotification),
      if_neg (mt (message.isOpCode_eq_true _).mp hsubscription),
      if_neg (mt (message.isOpCode_eq_true _).mp hserviceAction)]

/-- A message that arrives for the publishers keeps its place. -/
theorem Ordered.publish (h : Ordered config s) {combinedVector : Bytes} {rest : List Bytes}
    (hwire : s.transport.wire = combinedVector :: rest) {message : RclMessage}
    (hmessage : RclMessage.fromFlatBuffer combinedVector = .ok message) :
    Ordered config
      { s with
        transport := s.transport.receive
        manager := s.manager.publish ⟨message, ()⟩ } := by
  have hinFlight := Transport.inFlight_receive hwire
  refine ⟨h.transport.receive, h.publishers, h.sorted.publish _, h.messages, h.shared, ?_, ?_⟩
  · intro channel topic htopic hnone
    obtain ⟨hframes, hwaiting⟩ := h.plain channel topic htopic hnone
    rw [hinFlight] at hframes
    refine ⟨fun sent hsent => hframes sent (List.mem_cons_of_mem _ hsent), ?_⟩
    intro received hreceived hchannel
    rw [PublisherManager.waiting_publish] at hreceived
    rcases List.mem_append.mp hreceived with hold | hnew
    · exact hwaiting received hold hchannel
    · obtain rfl := List.mem_singleton.mp hnew
      exact hframes combinedVector List.mem_cons_self message hmessage hchannel
  · intro channel htopic
    have hgiven : (s.manager.publish ⟨message, ()⟩).givenOn config.codecs channel =
        s.manager.givenOn config.codecs channel ++
          (message.delivery config.codecs channel).toList :=
      PublisherManager.givenOn_publish _
    have hframe : frameDelivery config.codecs channel combinedVector =
        message.delivery config.codecs channel := by
      simp [frameDelivery, hmessage, Except.toOption]
    refine (h.conserved channel htopic).ofEq ?_ rfl
    simp only [PublisherManager.givenOn] at hgiven
    simp only [pending, ← List.append_assoc, hgiven, hinFlight]
    cases hdelivery : message.delivery config.codecs channel <;>
      (simp [hframe, hdelivery]; rfl)

theorem Ordered.receive (h : Ordered config s) : Ordered config s.receive := by
  cases hwire : s.transport.wire with
  | nil => simpa [State.receive, hwire] using h
  | cons combinedVector rest =>
      have hinFlight := Transport.inFlight_receive hwire
      have hdropped (hsilent : ∀ channel, isTopic config channel = true →
          frameDelivery config.codecs channel combinedVector = none) :
          Ordered config { s with transport := s.transport.receive } := by
        refine h.withTransport h.transport.receive ?_ ?_
        · exact fun _ _ _ sent hsent => Or.inl (hinFlight ▸ List.mem_cons_of_mem _ hsent)
        · intro channel htopic
          rw [hinFlight, List.filterMap_cons_none (hsilent channel htopic)]
      rcases receive_cases hwire with ⟨fault, hmessage, heq⟩ | ⟨message, hmessage, hcase⟩
      · rw [heq]
        refine (hdropped fun _ _ => ?_).ofSame rfl rfl rfl fun _ => rfl
        simp [frameDelivery, hmessage, Except.toOption]
      · rcases hcase with heq | ⟨hother, heq⟩
        · rw [heq]
          exact h.publish hwire hmessage
        · rw [heq]
          refine hdropped fun channel htopic => ?_
          simp [frameDelivery, hmessage, Except.toOption,
            RclMessage.delivery_of_ne _ (channel_ne_of_destination htopic hother)]

theorem Ordered.managerTake (h : Ordered config s) (hmessage : s.manager.message = none) :
    Ordered config { s with manager := s.manager.take } := by
  obtain ⟨hwaiting, hpublished, hpublishers, hthreaded⟩ :=
    PublisherManager.take_spec hmessage
  exact h.withSame hpublishers hwaiting (h.sorted.ofSame hpublishers hthreaded)
    (fun channel => PublisherManager.givenOn_ofSame hwaiting hpublished (hthreaded channel))

theorem Ordered.threadedTake (h : Ordered config s) {channel : UInt8}
    (hmessage : s.manager.threadedMessage channel = none) :
    Ordered config { s with manager := s.manager.takeThreaded channel } := by
  obtain ⟨hwaiting, hpublished, hpublishers, hthreaded⟩ :=
    PublisherManager.takeThreaded_spec channel hmessage
  exact h.withSame hpublishers hwaiting (h.sorted.ofSame hpublishers hthreaded)
    (fun other => PublisherManager.givenOn_ofSame hwaiting hpublished (hthreaded other))

theorem Ordered.managerRun (h : Ordered config s) :
    Ordered config { s with manager := s.manager.run } := by
  cases hmessage : s.manager.message with
  | none => simpa [PublisherManager.run, hmessage] using h
  | some received =>
      have hmoves := PublisherManager.run_moves hmessage
      obtain ⟨hpublishers, hwaiting⟩ := hmoves.keeps
      exact h.withManager hpublishers (h.sorted.run hmoves) hwaiting
        (fun _ => PublisherManager.givenOn_run_sublist h.sorted hmessage hmoves)
        (fun channel hconnected =>
          PublisherManager.givenOn_run h.sorted (h.delivers hconnected) hmessage hmoves)

theorem Ordered.threadedRun (h : Ordered config s) (channel : UInt8) :
    Ordered config (s.threadedRun config channel) := by
  unfold State.threadedRun
  cases hrun : s.manager.runThreaded config.codecs channel with
  | error error => exact h.ofSame rfl rfl rfl fun _ => rfl
  | ok manager =>
      cases hmessage : s.manager.threadedMessage channel with
      | none =>
          simp only [PublisherManager.runThreaded, hmessage] at hrun
          cases hrun
          exact h
      | some received =>
          have hpublishes := PublisherManager.runThreaded_publishes hmessage hrun
          obtain ⟨hpublishers, hwaiting⟩ := hpublishes.keeps
          exact h.withSame hpublishers hwaiting (h.sorted.runThreaded hmessage hpublishes)
            (fun _ => PublisherManager.givenOn_runThreaded h.sorted hmessage hpublishes)

/-- What one step keeps. -/
theorem Ordered.next (h : Ordered config s) (hcodecs : config.codecs.RoundTrip)
    (henabled : enabled config s label = true) : Ordered config (next config s label) := by
  cases label with
  | callback => exact h.ofSame rfl rfl rfl fun _ => rfl
  | finish channel data => exact h.finish hcodecs channel data
  | take channel =>
      simp only [enabled, Bool.and_eq_true, Option.isNone_iff_eq_none] at henabled
      exact h.take henabled.1
  | send channel => exact h.send hcodecs channel
  | sendOther runningInStrand combinedVector => exact h.sendOther runningInStrand henabled
  | runPosted => exact h.ofInFlight h.transport.runPosted
  | transmit => exact h.ofInFlight h.transport.transmit
  | complete =>
      exact h.ofInFlight (h.transport.complete (by simpa [enabled] using henabled))
  | receive => exact h.receive
  | managerTake =>
      simp only [enabled, Bool.and_eq_true, Option.isNone_iff_eq_none] at henabled
      exact h.managerTake henabled.1.2
  | managerRun => exact h.managerRun
  | threadedTake channel =>
      simp only [enabled, Bool.and_eq_true, Option.isNone_iff_eq_none] at henabled
      exact h.threadedTake henabled.1.2
  | threadedRun channel => exact h.threadedRun channel

end Pipeline

end Ros2Connect
