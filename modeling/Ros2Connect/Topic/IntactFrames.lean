import Ros2Connect.Topic.CallbackOrder

/-!
The publishing node of a pipeline is not terminated by what the subscribing one
sends. ROS hands a callback no empty message, and what arrives can then be
decompressed or is not compressed, so that no exception leaves a threaded
publisher.
-/

namespace Ros2Connect

open Lib

namespace Pipeline

variable {config : Config} {s t : State} {label : Label}

/-- `decompress` throws no exception. -/
def IsIntact (codecs : Codecs) (message : RclMessage) : Bool :=
  match MessageBase.decompress codecs message with
  | .ok _ => true
  | .error _ => false

def IsIntactFrame (codecs : Codecs) (combinedVector : Bytes) : Bool :=
  match RclMessage.fromFlatBuffer combinedVector with
  | .ok message => IsIntact codecs message
  | .error _ => false

/-- No callback gets an empty payload, and the other frames are intact. -/
def Regular (codecs : Codecs) : Label → Bool
  | .callback _ data => data != []
  | .sendOther _ combinedVector => IsIntactFrame codecs combinedVector
  | _ => true

theorem isIntact_of_plain {codecs : Codecs} {message : RclMessage}
    (h : MessageBase.isCompressed message = false) : IsIntact codecs message = true := by
  have hnone : MessageBase.compressor message = .none := by
    simpa [MessageBase.isCompressed] using h
  simp [IsIntact, MessageBase.decompress, hnone]

/-- The vectors of a payload that is not empty are intact. -/
theorem isIntactFrame_combinedVector (hcodecs : config.codecs.RoundTrip) (topic : Topic)
    (channel : UInt8) {data : Bytes} (hdata : data ≠ []) :
    IsIntactFrame config.codecs (State.combinedVector config topic
      (VectorMessage.fromSerializedMessage channel data)) = true := by
  unfold State.combinedVector
  by_cases hcompressor : topic.compression.compressor = .none
  · rw [if_neg (by simpa using hcompressor),
      VectorMessage.getCombinedVector_fromSerializedMessage, IsIntactFrame,
      RclMessage.fromFlatBuffer_uncompressed]
    exact isIntact_of_plain rfl
  · obtain ⟨message, hmessage, -, ⟨hplain, -⟩ | ⟨-, -, hstored⟩⟩ :=
      VectorMessage.fromFlatBuffer_frame hcodecs channel data topic.compression
    · simp only [if_pos hcompressor, IsIntactFrame, hmessage]
      exact isIntact_of_plain hplain
    · rw [RclMessage.store, if_neg (by simpa using hdata)] at hstored
      simp only [if_pos hcompressor, IsIntactFrame, hmessage, IsIntact, hstored, Except.map]

theorem isIntactFrame_getCombinedVector (codecs : Codecs) (channel : UInt8) (data : Bytes) :
    IsIntactFrame codecs (MessageBase.getCombinedVector
      (VectorMessage.fromSerializedMessage channel data)) = true := by
  rw [VectorMessage.getCombinedVector_fromSerializedMessage, IsIntactFrame,
    RclMessage.fromFlatBuffer_uncompressed]
  exact isIntact_of_plain rfl

/-- What the publishing node holds and what is on its way to it is intact. -/
structure Intact (config : Config) (s : State) : Prop where
  running : s.terminated = none
  handed : ∀ channel, ∀ data ∈ s.handed channel, data ≠ []
  outgoing : ∀ channel, ∀ message ∈ outgoing s channel, ∃ data,
    message = VectorMessage.fromSerializedMessage channel data ∧ data ≠ []
  unsubscribed : ∀ channel, config.subscriber channel = none →
    s.calls channel = [] ∧ Pipeline.outgoing s channel = []
  frames : ∀ combinedVector ∈ s.transport.inFlight,
    IsIntactFrame config.codecs combinedVector = true
  waiting : ∀ received ∈ s.manager.waiting, IsIntact config.codecs received.message = true
  threaded : ∀ channel, ∀ received ∈ s.manager.threaded channel,
    IsIntact config.codecs received.message = true

namespace Intact

theorem start : Intact config (.start config) where
  running := rfl
  handed := by
    intro channel data hdata
    cases hdata
  outgoing := by
    intro channel message hmessage
    cases hmessage
  unsubscribed := fun _ _ => ⟨rfl, rfl⟩
  frames := by
    intro combinedVector hmem
    cases hmem
  waiting := by
    intro received hmem
    cases hmem
  threaded := by
    intro channel received hmem
    cases hmem

/-- A step of the connection. -/
theorem withTransport (h : Intact config s) {transport : Transport}
    (hframes : ∀ combinedVector ∈ transport.inFlight,
      combinedVector ∈ s.transport.inFlight ∨
        IsIntactFrame config.codecs combinedVector = true) :
    Intact config { s with transport := transport } :=
  { h with
    frames := fun combinedVector hmem =>
      (hframes combinedVector hmem).elim (h.frames combinedVector) id }

/-- A step of the publishing node that hands a message on or drops it. -/
theorem withManager (h : Intact config s) {manager : PublisherManager Unit}
    (hwaiting : ∀ received ∈ manager.waiting, received ∈ s.manager.waiting)
    (hthreaded : ∀ channel, ∀ received ∈ manager.threaded channel,
      received ∈ s.manager.threaded channel ∨ received ∈ s.manager.waiting) :
    Intact config { s with manager := manager } :=
  { h with
    waiting := fun received hmem => h.waiting received (hwaiting received hmem)
    threaded := fun channel received hmem =>
      (hthreaded channel received hmem).elim (h.threaded channel received)
        (h.waiting received) }

theorem callback (h : Intact config s) {channel : UInt8} {data : Bytes}
    (hcallable : callable config s channel = true) (hdata : data ≠ []) :
    Intact config (s.callback channel data) := by
  refine { h with handed := fun other given hgiven => ?_, unsubscribed := ?_ }
  · by_cases hchannel : other = channel
    · subst hchannel
      simp only [State.callback, Function.update_self] at hgiven
      rcases List.mem_append.mp hgiven with hold | hnew
      · exact h.handed other given hold
      · rw [List.mem_singleton.mp hnew]
        exact hdata
    · simp only [State.callback, Function.update_of_ne hchannel] at hgiven
      exact h.handed other given hgiven
  · intro other hnone
    have hchannel : other ≠ channel := by
      rintro rfl
      rw [callable, hnone] at hcallable
      cases hcallable
    obtain ⟨hcalls, hnothing⟩ := h.unsubscribed other hnone
    exact ⟨by simpa [State.callback, hchannel] using hcalls, hnothing⟩

/-- A callback that leaves frees its place. -/
theorem leave (h : Intact config s) (channel : UInt8) (data : Bytes) :
    Intact config (s.leave channel data) := by
  refine { h with unsubscribed := fun other hnone => ⟨?_, (h.unsubscribed other hnone).2⟩ }
  by_cases hchannel : other = channel
  · subst hchannel
    simp [State.leave, (h.unsubscribed other hnone).1]
  · simpa [State.leave, hchannel] using (h.unsubscribed other hnone).1

theorem pushToSend (h : Intact config s) {channel : UInt8} {topic : Topic} {data : Bytes}
    (htopic : config.subscriber channel = some topic) (hdata : data ≠ []) :
    Intact config (s.pushToSend channel (VectorMessage.fromSerializedMessage channel data)) := by
  refine { h with outgoing := ?_, unsubscribed := ?_ }
  · intro other message hmessage
    rw [outgoing_pushToSend] at hmessage
    rcases List.mem_append.mp hmessage with hold | hnew
    · exact h.outgoing other message hold
    · split at hnew
      next hchannel =>
        obtain rfl := hchannel
        exact ⟨data, List.mem_singleton.mp hnew, hdata⟩
      next => cases hnew
  · intro other hnone
    have hchannel : other ≠ channel := by
      rintro rfl
      rw [htopic] at hnone
      cases hnone
    refine ⟨(h.unsubscribed other hnone).1, ?_⟩
    rw [outgoing_pushToSend, (h.unsubscribed other hnone).2]
    simp [Ne.symm hchannel]

theorem post (h : Intact config s) (hsound : s.transport.Sound) {combinedVector : Bytes}
    (hframe : IsIntactFrame config.codecs combinedVector = true) :
    Intact config (s.post combinedVector) := by
  refine h.withTransport fun sent hsent => ?_
  rcases hsound.mem_send hsent with hold | rfl
  · exact Or.inl hold
  · exact Or.inr hframe

theorem finish (h : Intact config s) (hsound : s.transport.Sound)
    (hcallbacks : Callbacks config s) {channel : UInt8} {data : Bytes}
    (hcall : data ∈ s.calls channel) : Intact config (s.finish config channel data) := by
  have hdata : data ≠ [] := h.handed channel data
    ((hcallbacks.handed channel).mem_iff.mp (List.mem_append_right _ hcall))
  unfold State.finish
  cases htopic : config.subscriber channel with
  | none => exact h
  | some topic =>
      simp only
      split
      · exact (h.leave channel data).pushToSend htopic hdata
      · exact (h.leave channel data).post hsound
          (isIntactFrame_getCombinedVector config.codecs channel data)

theorem take (h : Intact config s) {channel : UInt8} (hsending : s.sending channel = none) :
    Intact config (s.take channel) := by
  unfold State.take
  cases hqueue : s.toSend channel with
  | nil => exact h
  | cons message rest =>
      have hsame (other : UInt8) : Pipeline.outgoing { s with
          toSend := Function.update s.toSend channel rest
          sending := Function.update s.sending channel (some message) } other =
            Pipeline.outgoing s other := by
        by_cases hchannel : other = channel
        · subst hchannel
          simp [Pipeline.outgoing, hsending, hqueue]
        · simp [Pipeline.outgoing, hchannel]
      refine { h with outgoing := ?_, unsubscribed := ?_ }
      · intro other taken htaken
        rw [hsame] at htaken
        exact h.outgoing other taken htaken
      · intro other hnone
        rw [hsame]
        exact h.unsubscribed other hnone

theorem send (h : Intact config s) (hsound : s.transport.Sound)
    (hcodecs : config.codecs.RoundTrip) (channel : UInt8) :
    Intact config (s.send config channel) := by
  unfold State.send
  split
  next message topic hmessage htopic =>
    have hmem : message ∈ Pipeline.outgoing s channel := by
      simp [Pipeline.outgoing, hmessage]
    obtain ⟨data, rfl, hdata⟩ := h.outgoing channel message hmem
    have hsent : Intact config
        { s with sending := Function.update s.sending channel none } := by
      have hsublist (other : UInt8) : (Pipeline.outgoing { s with
          sending := Function.update s.sending channel none } other).Sublist
            (Pipeline.outgoing s other) := by
        by_cases hchannel : other = channel
        · subst hchannel
          simp [Pipeline.outgoing]
        · simp [Pipeline.outgoing, hchannel]
      refine { h with outgoing := ?_, unsubscribed := ?_ }
      · intro other sent hsent
        exact h.outgoing other sent ((hsublist other).subset hsent)
      · intro other hnone
        obtain ⟨hcalls, hnothing⟩ := h.unsubscribed other hnone
        exact ⟨hcalls, List.eq_nil_of_sublist_nil (hnothing ▸ hsublist other)⟩
    exact hsent.post hsound (isIntactFrame_combinedVector hcodecs topic channel hdata)
  next => exact h

/-- A message that arrives decodes and is intact. -/
theorem receive (h : Intact config s) : Intact config s.receive := by
  cases hwire : s.transport.wire with
  | nil => simpa [State.receive, hwire] using h
  | cons combinedVector rest =>
      have hinFlight := Transport.inFlight_receive hwire
      have hreceived : Intact config { s with transport := s.transport.receive } :=
        h.withTransport fun sent hsent =>
          Or.inl (hinFlight ▸ List.mem_cons_of_mem _ hsent)
      have hframe := h.frames combinedVector (hinFlight ▸ List.mem_cons_self)
      rcases receive_cases hwire with
        ⟨fault, hmessage, -⟩ | ⟨message, hmessage, heq | ⟨-, heq⟩⟩
      · simp [IsIntactFrame, hmessage] at hframe
      · simp only [IsIntactFrame, hmessage] at hframe
        rw [heq]
        refine { hreceived with waiting := fun received hmem => ?_ }
        rw [PublisherManager.waiting_publish] at hmem
        rcases List.mem_append.mp hmem with hold | hnew
        · exact h.waiting received hold
        · obtain rfl := List.mem_singleton.mp hnew
          exact hframe
      · rw [heq]
        exact hreceived

/-- A threaded publisher gets the message that is moved, or none. -/
theorem mem_threaded_of_moves {manager moved : PublisherManager Unit}
    {received queued : Tagged Unit} {channel : UInt8} (hmoves : manager.Moves received moved)
    (hqueued : queued ∈ moved.threaded channel) :
    queued ∈ manager.threaded channel ∨ queued = received := by
  cases hmoves with
  | unknown | compressed | shared => exact Or.inl hqueued
  | threaded =>
      rw [PublisherManager.threaded_publishThreaded] at hqueued
      rcases List.mem_append.mp hqueued with hold | hnew
      · exact Or.inl hold
      · split at hnew
        · exact Or.inr (List.mem_singleton.mp hnew)
        · cases hnew

theorem managerRun (h : Intact config s) :
    Intact config { s with manager := s.manager.run } := by
  cases hmessage : s.manager.message with
  | none => simpa [PublisherManager.run, hmessage] using h
  | some received =>
      have hmoves := PublisherManager.run_moves hmessage
      refine h.withManager hmoves.keeps.2 fun channel queued hqueued => ?_
      rcases mem_threaded_of_moves hmoves hqueued with hold | rfl
      · exact Or.inl hold
      · exact Or.inr (by simp [PublisherManager.waiting, hmessage])

theorem threadedRun (h : Intact config s) (channel : UInt8) :
    Intact config (s.threadedRun config channel) := by
  unfold State.threadedRun
  cases hmessage : s.manager.threadedMessage channel with
  | none => simpa [PublisherManager.runThreaded, hmessage] using h
  | some received =>
      have hintact := h.threaded channel received (by
        simp [PublisherManager.threaded, hmessage])
      cases hrun : s.manager.runThreaded config.codecs channel with
      | error error =>
          exfalso
          unfold IsIntact at hintact
          unfold PublisherManager.runThreaded at hrun
          simp only [hmessage] at hrun
          split at hrun
          · cases hdecompress : MessageBase.decompress config.codecs received.message with
            | error error => simp [hdecompress] at hintact
            | ok result =>
                obtain ⟨decompressed, stored⟩ := result
                rw [hdecompress] at hrun
                cases decompressed <;> cases hrun
          · cases hrun
      | ok manager =>
          have hpublishes := PublisherManager.runThreaded_publishes hmessage hrun
          have hsublist (other : UInt8) :
              (manager.threaded other).Sublist (s.manager.threaded other) := by
            have hdone : s.manager.threaded other = _ :=
              PublisherManager.threaded_doneThreaded channel hmessage
            rw [hdone]
            cases hpublishes with
            | plain | dropped | decompressed => exact List.sublist_append_right _ _
          exact h.withManager (fun _ hmem => hpublishes.keeps.2 ▸ hmem)
            (fun other _ hmem => Or.inl ((hsublist other).subset hmem))

/-- What one step keeps. -/
theorem next (h : Intact config s) (hordered : Ordered config s)
    (hcallbacks : Callbacks config s) (hcodecs : config.codecs.RoundTrip)
    (henabled : enabled config s label = true) (hregular : Regular config.codecs label = true) :
    Intact config (next config s label) := by
  have hsound := hordered.transport
  cases label with
  | callback channel data => exact h.callback henabled (by simpa [Regular] using hregular)
  | finish channel data => exact h.finish hsound hcallbacks (by simpa [enabled] using henabled)
  | take channel =>
      simp only [enabled, Bool.and_eq_true, Option.isNone_iff_eq_none] at henabled
      exact h.take henabled.1
  | send channel => exact h.send hsound hcodecs channel
  | sendOther runningInStrand combinedVector =>
      refine h.withTransport fun sent hsent => ?_
      rcases hsound.mem_send hsent with hold | rfl
      · exact Or.inl hold
      · exact Or.inr hregular
  | runPosted => exact h.withTransport fun _ hmem => Or.inl (hsound.runPosted.2 ▸ hmem)
  | transmit => exact h.withTransport fun _ hmem => Or.inl (hsound.transmit.2 ▸ hmem)
  | complete =>
      have hwrite : s.transport.write = .transmitted := by simpa [enabled] using henabled
      exact h.withTransport fun _ hmem => Or.inl ((hsound.complete hwrite).2 ▸ hmem)
  | receive => exact h.receive
  | managerTake =>
      simp only [enabled, Bool.and_eq_true, Option.isNone_iff_eq_none] at henabled
      obtain ⟨hwaiting, -, -, hthreaded⟩ := PublisherManager.take_spec henabled.1.2
      exact h.withManager (fun _ hmem => hwaiting ▸ hmem)
        (fun channel _ hmem => Or.inl (hthreaded channel ▸ hmem))
  | managerRun => exact h.managerRun
  | threadedTake channel =>
      simp only [enabled, Bool.and_eq_true, Option.isNone_iff_eq_none] at henabled
      obtain ⟨hwaiting, -, -, hthreaded⟩ :=
        PublisherManager.takeThreaded_spec channel henabled.1.2
      exact h.withManager (fun _ hmem => hwaiting ▸ hmem)
        (fun other _ hmem => Or.inl (hthreaded other ▸ hmem))
  | threadedRun channel => exact h.threadedRun channel

end Intact

/-- What the runs keep in which nothing that throws is sent. -/
structure Regulated (config : Config) (s : State) : Prop where
  ordered : Ordered config s
  callbacks : Callbacks config s
  intact : Intact config s

theorem Regulated.start : Regulated config (.start config) := ⟨.start, .start, .start⟩

theorem Regulated.next (h : Regulated config s) (hcodecs : config.codecs.RoundTrip)
    (henabled : enabled config s label = true) (hregular : Regular config.codecs label = true) :
    Regulated config (next config s label) where
  ordered := h.ordered.next hcodecs henabled
  callbacks := h.callbacks.next henabled
  intact := h.intact.next h.ordered h.callbacks hcodecs henabled hregular

end Pipeline

end Ros2Connect
