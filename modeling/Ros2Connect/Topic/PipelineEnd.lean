import Ros2Connect.Topic.IntactFrames

/-!
A pipeline comes to an end. Each callback is worth eleven steps at most, and
when no step is left, everything the callbacks were handed for a connected
channel has been published.
-/

namespace Ros2Connect

open Lib

instance fintypeUInt8 : Fintype UInt8 :=
  Fintype.ofEquiv (Fin 256) ⟨UInt8.ofFin, UInt8.toFin, fun _ => rfl, fun _ => rfl⟩

/-- The steps a message on its way to the peer is worth: it is queued, leaves the
node, completes its write, arrives, and takes four steps from there on. -/
def Transport.work (transport : Transport) : Nat :=
  8 * transport.posted.length + 7 * transport.unsent.length +
    (if transport.write = .transmitted then 1 else 0) + 5 * transport.wire.length

namespace Transport

variable {transport : Transport}

theorem Sound.work_queueMessage (h : transport.Sound) (combinedVector : Bytes) :
    (transport.queueMessage combinedVector).work = transport.work + 7 := by
  obtain ⟨hunsent, hwire, hposted⟩ := h.unsent_queueMessage combinedVector
  have hwrite : (transport.queueMessage combinedVector).write = .transmitted ↔
      transport.write = .transmitted := by
    by_cases hqueue : transport.sendingQueue = []
    · have hidle : transport.write = .idle := by
        by_contra hwrite
        exact transport.writing hwrite hqueue
      simp [Transport.queueMessage, hqueue, asyncWrite, h.isOpen, hidle]
    · simp [Transport.queueMessage, hqueue]
  simp only [work, hunsent, hwire, hposted, hwrite, List.length_append, List.length_singleton]
  omega

theorem Sound.work_send (h : transport.Sound) (runningInStrand : Bool) (combinedVector : Bytes) :
    (transport.send runningInStrand combinedVector).work ≤ transport.work + 8 := by
  cases runningInStrand with
  | false =>
      simp only [Transport.send, Bool.false_eq_true, if_false, work, unsent,
        List.length_append, List.length_singleton]
      omega
  | true =>
      rw [Transport.send, if_pos rfl, h.work_queueMessage]
      omega

theorem Sound.work_runPosted (h : transport.Sound) (hposted : transport.posted ≠ []) :
    transport.runPosted.work + 1 = transport.work := by
  cases hqueue : transport.posted with
  | nil => exact absurd hqueue hposted
  | cons combinedVector rest =>
      have hrest : ({ transport with posted := rest } : Transport).Sound := ⟨h.isOpen, h.failed⟩
      simp only [Transport.runPosted, hqueue]
      rw [hrest.work_queueMessage]
      simp only [work, unsent, hqueue, List.length_cons]
      omega

theorem work_transmit (hwrite : transport.write = .started) :
    transport.transmit.work + 1 = transport.work := by
  have hqueue : transport.sendingQueue ≠ [] := transport.writing (by simp [hwrite])
  obtain ⟨combinedVector, rest, hcons⟩ := List.exists_cons_of_ne_nil hqueue
  simp [work, transmit, unsent, hwrite, hcons]
  omega

theorem Sound.work_complete (h : transport.Sound) (hwrite : transport.write = .transmitted) :
    (transport.complete false).work + 1 = transport.work := by
  by_cases htail : transport.sendingQueue.tail = []
  · simp [work, Transport.complete, htail, unsent, hwrite]
    omega
  · simp [work, Transport.complete, asyncWrite, htail, h.isOpen, unsent, hwrite]
    omega

theorem work_receive (hwire : transport.wire ≠ []) :
    transport.receive.work + 5 = transport.work := by
  obtain ⟨combinedVector, rest, hcons⟩ := List.exists_cons_of_ne_nil hwire
  simp only [work, receive, unsent, hcons, List.tail_cons, List.length_cons]
  omega

end Transport

/-- The steps the messages of a manager are worth. -/
def PublisherManager.work (manager : PublisherManager Unit) : Nat :=
  4 * manager.toPublish.length + 3 * manager.message.toList.length +
    ∑ channel, 2 * (manager.threadedToPublish channel).length +
    ∑ channel, (manager.threadedMessage channel).toList.length

namespace PublisherManager

variable {manager next : PublisherManager Unit}

theorem work_publish (received : Tagged Unit) :
    (manager.publish received).work = manager.work + 4 := by
  simp only [work, publish, List.length_append, List.length_singleton]
  omega

theorem work_take (hmessage : manager.message = none) (hqueue : manager.toPublish ≠ []) :
    manager.take.work + 1 = manager.work := by
  obtain ⟨received, rest, hcons⟩ := List.exists_cons_of_ne_nil hqueue
  simp only [work, take, hcons, hmessage, Option.toList_some, Option.toList_none,
    List.length_cons, List.length_nil]
  omega

theorem work_moved {received : Tagged Unit} (hmessage : manager.message = some received) :
    manager.moved.work + 3 = manager.work := by
  simp only [work, moved, hmessage, Option.toList_some, Option.toList_none, List.length_cons,
    List.length_nil]
  omega

theorem work_rosPublish (channel : UInt8) (data : Bytes) :
    (manager.rosPublish channel data ()).work = manager.work := rfl

theorem work_publishThreaded (channel : UInt8) (received : Tagged Unit) :
    (manager.publishThreaded channel received).work = manager.work + 2 := by
  have hsum := sum_update_add (fun queue : List (Tagged Unit) => 2 * queue.length)
    manager.threadedToPublish channel (manager.threadedToPublish channel ++ [received])
  simp only [List.length_append, List.length_singleton] at hsum
  simp only [work, publishThreaded]
  omega

theorem work_run {received : Tagged Unit} (hmessage : manager.message = some received) :
    manager.run.work + 1 ≤ manager.work := by
  have hmoved := work_moved hmessage
  have hmoves := run_moves hmessage
  generalize manager.run = next at hmoves ⊢
  cases hmoves with
  | unknown | compressed => omega
  | threaded =>
      rw [work_publishThreaded]
      omega
  | shared =>
      rw [work_rosPublish]
      omega

theorem work_takeThreaded {channel : UInt8} (hmessage : manager.threadedMessage channel = none)
    (hqueue : manager.threadedToPublish channel ≠ []) :
    (manager.takeThreaded channel).work + 1 = manager.work := by
  obtain ⟨received, rest, hcons⟩ := List.exists_cons_of_ne_nil hqueue
  have hqueues := sum_update_add (fun queue : List (Tagged Unit) => 2 * queue.length)
    manager.threadedToPublish channel rest
  have hmessages := sum_update_add
    (fun message : Option (Tagged Unit) => message.toList.length)
    manager.threadedMessage channel (some received)
  simp only [hcons, hmessage, List.length_cons, Option.toList_some, Option.toList_none,
    List.length_nil] at hqueues hmessages
  simp only [work, takeThreaded, hcons]
  omega

theorem work_doneThreaded {channel : UInt8} {received : Tagged Unit}
    (hmessage : manager.threadedMessage channel = some received) :
    (manager.doneThreaded channel).work + 1 = manager.work := by
  have hsum := sum_update_add (fun message : Option (Tagged Unit) => message.toList.length)
    manager.threadedMessage channel none
  simp only [hmessage, Option.toList_some, Option.toList_none, List.length_cons,
    List.length_nil] at hsum
  simp only [work, doneThreaded]
  omega

theorem work_runThreaded {codecs : Codecs} {channel : UInt8} {received : Tagged Unit}
    (hmessage : manager.threadedMessage channel = some received)
    (hpublishes : manager.Publishes codecs channel received next) :
    next.work + 1 = manager.work := by
  have hdone := work_doneThreaded hmessage
  cases hpublishes with
  | plain => exact hdone
  | dropped => exact hdone
  | decompressed => exact hdone

end PublisherManager

namespace Pipeline

variable {config : Config} {s t : State} {label : Label}

/-- What the nodes of a pipeline do not do by themselves. -/
def Label.isExternal : Label → Bool
  | .callback .. | .sendOther .. => true
  | _ => false

/-- The steps everything under way is worth. -/
def work (s : State) : Nat :=
  ∑ channel, 11 * (s.calls channel).length + ∑ channel, 10 * (s.toSend channel).length +
    ∑ channel, 9 * (s.sending channel).toList.length + s.transport.work + s.manager.work

theorem work_callback (channel : UInt8) (data : Bytes) :
    work (s.callback channel data) = work s + 11 := by
  have hsum := sum_update_add (fun calls : List Bytes => 11 * calls.length) s.calls channel
    (s.calls channel ++ [data])
  simp only [List.length_append, List.length_singleton] at hsum
  simp only [work, State.callback]
  omega

theorem work_leave {channel : UInt8} {data : Bytes} (hcall : data ∈ s.calls channel) :
    work (s.leave channel data) + 11 = work s := by
  have hsum := sum_update_add (fun calls : List Bytes => 11 * calls.length) s.calls channel
    ((s.calls channel).erase data)
  have hlength := List.length_erase_add_one hcall
  simp only [work, State.leave]
  omega

theorem work_pushToSend (channel : UInt8) (message : VectorMessage) :
    work (s.pushToSend channel message) = work s + 10 := by
  have hsum := sum_update_add (fun queue : List VectorMessage => 10 * queue.length) s.toSend
    channel (s.toSend channel ++ [message])
  simp only [List.length_append, List.length_singleton] at hsum
  simp only [work, State.pushToSend]
  omega

theorem work_post (hsound : s.transport.Sound) (combinedVector : Bytes) :
    work (s.post combinedVector) ≤ work s + 8 := by
  have hsend := hsound.work_send false combinedVector
  simp only [work, State.post]
  omega

theorem work_finish (hsound : s.transport.Sound) {channel : UInt8} {data : Bytes} {topic : Topic}
    (hcall : data ∈ s.calls channel) (htopic : config.subscriber channel = some topic) :
    work (s.finish config channel data) + 1 ≤ work s := by
  have hleave := work_leave hcall
  simp only [State.finish, htopic]
  split
  · rw [work_pushToSend]
    omega
  · have hpost := work_post (s := s.leave channel data) hsound
      (MessageBase.getCombinedVector (VectorMessage.fromSerializedMessage channel data))
    omega

theorem work_taken {channel : UInt8} (hsending : s.sending channel = none)
    (hqueue : s.toSend channel ≠ []) : work (s.take channel) + 1 = work s := by
  obtain ⟨message, rest, hcons⟩ := List.exists_cons_of_ne_nil hqueue
  have hqueues := sum_update_add (fun queue : List VectorMessage => 10 * queue.length) s.toSend
    channel rest
  have hmessages := sum_update_add (fun taken : Option VectorMessage => 9 * taken.toList.length)
    s.sending channel (some message)
  simp only [hcons, hsending, List.length_cons, Option.toList_some, Option.toList_none,
    List.length_nil] at hqueues hmessages
  simp only [work, State.take, hcons]
  omega

theorem work_sent (hsound : s.transport.Sound) {channel : UInt8} {message : VectorMessage}
    {topic : Topic} (hsending : s.sending channel = some message)
    (htopic : config.subscriber channel = some topic) :
    work (s.send config channel) + 1 ≤ work s := by
  have hsum := sum_update_add (fun taken : Option VectorMessage => 9 * taken.toList.length)
    s.sending channel none
  simp only [hsending, List.length_cons, Option.toList_some, Option.toList_none,
    List.length_nil] at hsum
  have hpost := work_post
    (s := { s with sending := Function.update s.sending channel none }) hsound
    (State.combinedVector config topic message)
  have hsent : work { s with sending := Function.update s.sending channel none } + 9 =
      work s := by
    simp only [work]
    omega
  simp only [State.send, hsending, htopic]
  omega

theorem work_received (hwire : s.transport.wire ≠ []) : work s.receive + 1 ≤ work s := by
  obtain ⟨combinedVector, rest, hcons⟩ := List.exists_cons_of_ne_nil hwire
  have htransport := Transport.work_receive hwire
  rcases receive_cases hcons with ⟨fault, -, heq⟩ | ⟨message, -, heq | ⟨-, heq⟩⟩
  · rw [heq]
    simp only [work]
    omega
  · rw [heq]
    simp only [work, PublisherManager.work_publish]
    omega
  · rw [heq]
    simp only [work]
    omega

theorem work_threadedRun (h : Intact config s) {channel : UInt8} {received : Tagged Unit}
    (hmessage : s.manager.threadedMessage channel = some received) :
    work (s.threadedRun config channel) + 1 = work s := by
  have hrunning := (h.threadedRun channel).running
  unfold State.threadedRun at hrunning ⊢
  cases hrun : s.manager.runThreaded config.codecs channel with
  | error error => simp [hrun] at hrunning
  | ok manager =>
      have hmanager := PublisherManager.work_runThreaded hmessage
        (PublisherManager.runThreaded_publishes hmessage hrun)
      simp only [work]
      omega

/-- A callback adds eleven steps and another message eight. -/
theorem work_external (hsound : s.transport.Sound) (hexternal : label.isExternal = true) :
    work (next config s label) ≤ work s + 11 := by
  cases label with
  | callback channel data => exact (work_callback channel data).le
  | sendOther runningInStrand combinedVector =>
      have hsend := hsound.work_send runningInStrand combinedVector
      simp only [next, work]
      omega
  | finish | take | send | runPosted | transmit | complete | receive | managerTake | managerRun
  | threadedTake | threadedRun => cases hexternal

/-- Every other step is one of them. -/
theorem work_internal (h : Regulated config s) (hexternal : label.isExternal = false)
    (henabled : enabled config s label = true) : work (next config s label) + 1 ≤ work s := by
  have hsound := h.ordered.transport
  have hsubscriber (channel : UInt8)
      (hholds : s.calls channel ≠ [] ∨ outgoing s channel ≠ []) :
      ∃ topic, config.subscriber channel = some topic := by
    cases htopic : config.subscriber channel with
    | some topic => exact ⟨topic, rfl⟩
    | none =>
        obtain ⟨hcalls, hnothing⟩ := h.intact.unsubscribed channel htopic
        exact (hholds.elim (· hcalls) (· hnothing)).elim
  cases label with
  | callback | sendOther => cases hexternal
  | finish channel data =>
      have hcall : data ∈ s.calls channel := by simpa [enabled] using henabled
      obtain ⟨topic, htopic⟩ := hsubscriber channel (Or.inl (List.ne_nil_of_mem hcall))
      exact work_finish hsound hcall htopic
  | take channel =>
      simp only [enabled, Bool.and_eq_true, Option.isNone_iff_eq_none, Bool.not_eq_true',
        List.isEmpty_eq_false_iff] at henabled
      exact (work_taken henabled.1 henabled.2).le
  | send channel =>
      obtain ⟨message, hsending⟩ := Option.isSome_iff_exists.mp henabled
      obtain ⟨topic, htopic⟩ :=
        hsubscriber channel (Or.inr (by simp [outgoing, hsending]))
      exact work_sent hsound hsending htopic
  | runPosted =>
      have hposted := hsound.work_runPosted (by simpa [enabled] using henabled)
      simp only [next, work]
      omega
  | transmit =>
      have htransmit := Transport.work_transmit (by simpa [enabled] using henabled)
      simp only [next, work]
      omega
  | complete =>
      have hcomplete := hsound.work_complete (by simpa [enabled] using henabled)
      simp only [next, work]
      omega
  | receive =>
      simp only [enabled, Bool.and_eq_true, Bool.not_eq_true',
        List.isEmpty_eq_false_iff] at henabled
      exact work_received henabled.2
  | managerTake =>
      simp only [enabled, Bool.and_eq_true, Option.isNone_iff_eq_none, Bool.not_eq_true',
        List.isEmpty_eq_false_iff] at henabled
      have htake := PublisherManager.work_take henabled.1.2 henabled.2
      simp only [next, work]
      omega
  | managerRun =>
      simp only [enabled, Bool.and_eq_true] at henabled
      obtain ⟨received, hmessage⟩ := Option.isSome_iff_exists.mp henabled.2
      have hrun := PublisherManager.work_run hmessage
      simp only [next, work]
      omega
  | threadedTake channel =>
      simp only [enabled, Bool.and_eq_true, Option.isNone_iff_eq_none, Bool.not_eq_true',
        List.isEmpty_eq_false_iff] at henabled
      have htake := PublisherManager.work_takeThreaded henabled.1.2 henabled.2
      simp only [next, work]
      omega
  | threadedRun channel =>
      simp only [enabled, Bool.and_eq_true] at henabled
      obtain ⟨received, hmessage⟩ := Option.isSome_iff_exists.mp henabled.2
      exact (work_threadedRun h.intact hmessage).le

/-- No step is left but those that add a message. -/
def Settled (config : Config) (s : State) : Prop :=
  ∀ label : Label, label.isExternal = false → enabled config s label = false

theorem Settled.inFlight_eq_nil (h : Settled config s) (hsound : s.transport.Sound)
    (hrunning : s.terminated = none) : s.transport.inFlight = [] := by
  have hposted : s.transport.posted = [] := by simpa [enabled] using h .runPosted rfl
  have hstarted : s.transport.write ≠ .started := by simpa [enabled] using h .transmit rfl
  have htransmitted : s.transport.write ≠ .transmitted := by
    simpa [enabled] using h .complete rfl
  have hwire : s.transport.wire = [] := by simpa [enabled, hrunning] using h .receive rfl
  have hqueue : s.transport.sendingQueue = [] := by
    by_contra hqueue
    cases hwrite : s.transport.write with
    | idle => exact s.transport.waiting hsound.failed hqueue hwrite
    | started => exact hstarted hwrite
    | transmitted => exact htransmitted hwrite
  simp [Transport.inFlight, Transport.unsent, hposted, hwire, hqueue]

theorem Settled.pending_eq_nil (h : Settled config s) (hsound : s.transport.Sound)
    (hrunning : s.terminated = none) (channel : UInt8) : pending config s channel = [] := by
  have hsending : s.sending channel = none := by simpa [enabled] using h (.send channel) rfl
  have htoSend : s.toSend channel = [] := by
    simpa [enabled, hsending] using h (.take channel) rfl
  have hmessage : s.manager.message = none := by
    simpa [enabled, hrunning] using h .managerRun rfl
  have htoPublish : s.manager.toPublish = [] := by
    simpa [enabled, hrunning, hmessage] using h .managerTake rfl
  have hthreadedMessage : s.manager.threadedMessage channel = none := by
    simpa [enabled, hrunning] using h (.threadedRun channel) rfl
  have hthreaded : s.manager.threadedToPublish channel = [] := by
    simpa [enabled, hrunning, hthreadedMessage] using h (.threadedTake channel) rfl
  simp [pending, outgoing, PublisherManager.queuedOn, PublisherManager.threaded,
    PublisherManager.waiting, h.inFlight_eq_nil hsound hrunning, hsending, htoSend, hmessage,
    htoPublish, hthreadedMessage, hthreaded]

theorem Settled.calls_eq_nil (h : Settled config s) (channel : UInt8) :
    s.calls channel = [] := by
  refine List.eq_nil_iff_forall_not_mem.mpr fun data hcall => ?_
  have hfinish := h (.finish channel data) rfl
  simp [enabled, hcall] at hfinish

theorem regulated_of_reachable (hcodecs : config.codecs.RoundTrip)
    (h : (pipeline config).ReachableWith (fun _ label => Regular config.codecs label = true) s) :
    Regulated config s :=
  h.invariant (Regulated config) .start
    (fun _ _ hinv henabled hregular => hinv.next hcodecs henabled hregular)

/-- The steps of a run pay for each other. -/
theorem work_replay (hcodecs : config.codecs.RoundTrip) (h : Regulated config s)
    {labels : List Label}
    (hrun : (pipeline config).replay (fun _ label => Regular config.codecs label = true) s
      labels = some t) :
    labels.countP (fun label => !label.isExternal) + work t ≤
      work s + 11 * labels.countP Label.isExternal := by
  refine Machine.countP_replay_le (M := pipeline config) (Regulated config)
    (fun _ _ hinv henabled hregular => hinv.next hcodecs henabled hregular)
    (fun label => !label.isExternal) Label.isExternal 11 work ?_ h hrun
  intro u label hinv henabled _
  cases hexternal : label.isExternal with
  | true =>
      have hadded : work (next config u label) ≤ work u + 11 :=
        work_external hinv.ordered.transport hexternal
      simpa [pipeline] using hadded
  | false =>
      have hpaid := work_internal hinv hexternal henabled
      simpa [pipeline] using hpaid

theorem settled_of_work (h : Regulated config s) (hwork : work s = 0) : Settled config s := by
  intro label hexternal
  refine Bool.eq_false_iff.mpr fun henabled => ?_
  have hpaid := work_internal h hexternal henabled
  omega

/-- When no step is left, each payload a callback of a connected channel was
handed has been published once, in the order of the calls unless they
overlapped. -/
theorem settled_published (config : Config) (hcodecs : config.codecs.RoundTrip) (s : State)
    (h : (pipeline config).ReachableWith (fun _ label => Regular config.codecs label = true) s)
    (hsettled : Settled config s) :
    ∀ channel, Connected config channel →
      (s.manager.publishedOn channel).Perm (s.handed channel) ∧
        (s.overlapped channel = false → s.manager.publishedOn channel = s.handed channel) := by
  intro channel hconnected
  obtain ⟨hordered, hcallbacks, hintact⟩ := regulated_of_reachable hcodecs h
  obtain ⟨topic, -, htopic, -⟩ := id hconnected
  have hcomplete := (hordered.conserved channel (isTopic_of_subscriber htopic)).complete
    hconnected
  have hcalls := hsettled.calls_eq_nil channel
  have hhanded : (s.queued channel).Perm (s.handed channel) := by
    simpa [hcalls] using hcallbacks.handed channel
  have hqueued : (s.queued channel).filterMap nonEmpty = s.queued channel := by
    have hsome : ∀ data ∈ s.queued channel, nonEmpty data = some data := fun data hmem =>
      if_neg (hintact.handed channel data (hhanded.mem_iff.mp hmem))
    rw [List.filterMap_congr hsome, List.filterMap_some]
  have hpublished : s.manager.publishedOn channel = s.queued channel := by
    rw [hsettled.pending_eq_nil hordered.transport hintact.running, List.append_nil,
      hqueued] at hcomplete
    exact hcomplete
  refine ⟨hpublished ▸ hhanded, fun hoverlapped => ?_⟩
  have hsame := (hcallbacks.ordered channel hoverlapped).1
  rw [hcalls, List.append_nil] at hsame
  exact hpublished.trans hsame

private theorem subscribingThreaded_checked :
    GlobalConfig.Checked [] [⟨7, true, true, ⟨.lz4Default, 1⟩⟩] :=
  ⟨by decide, by decide, by decide, by decide⟩

private theorem publishingThreaded_checked :
    GlobalConfig.Checked [⟨7, true, true, ⟨.none, 0⟩⟩] [] :=
  ⟨by decide, by decide, by decide, by decide⟩

private def threadedPair : Config :=
  ⟨.ofChecked _ _ false subscribingThreaded_checked,
    .ofChecked _ _ false publishingThreaded_checked, literalCodecs⟩

private theorem work_start (config : Config) : work (.start config) = 0 := by
  simp [work, State.start, Transport.work, Transport.start, Transport.unsent,
    PublisherManager.work, PublisherManager.start, PublisherManager.init]

/-- The eleven steps of a payload that is compressed. -/
private def payloadRun : List Label :=
  [.callback 7 [1, 2], .finish 7 [1, 2], .take 7, .send 7, .runPosted, .transmit, .complete,
    .receive, .managerTake, .managerRun, .threadedTake 7, .threadedRun 7]

private theorem payloadRun_replay : ∃ s : State,
    (pipeline threadedPair).replay (fun _ label => Regular threadedPair.codecs label = true)
      (.start threadedPair) payloadRun = some s ∧ s.handed 7 = [[1, 2]] := by
  have hrun : ((pipeline threadedPair).replay
      (fun _ label => Regular threadedPair.codecs label = true) (.start threadedPair)
      payloadRun).any (fun s => decide (s.handed 7 = [[1, 2]])) = true := by decide
  obtain ⟨s, hs, hhanded⟩ := (Option.any_eq_true _ _).mp hrun
  exact ⟨s, hs, of_decide_eq_true hhanded⟩

theorem settled_published_compressed : ∃ s : State, s.handed 7 = [[1, 2]] ∧
    Settled threadedPair s ∧ (s.manager.publishedOn 7).Perm (s.handed 7) ∧
      (s.overlapped 7 = false → s.manager.publishedOn 7 = s.handed 7) := by
  obtain ⟨s, hrun, hhanded⟩ := payloadRun_replay
  have hreached : (pipeline threadedPair).ReachableWith
      (fun _ label => Regular threadedPair.codecs label = true) s :=
    Machine.ReachableWith.replay (fun _ _ hregular => hregular) .start hrun
  have hwork := work_replay literalCodecs_roundTrip .start hrun
  have hspent : work s = 0 := by
    rw [work_start] at hwork
    have hsteps : payloadRun.countP (fun label => !label.isExternal) = 11 ∧
        payloadRun.countP Label.isExternal = 1 := by decide
    omega
  have hsettled := settled_of_work (regulated_of_reachable literalCodecs_roundTrip hreached)
    hspent
  exact ⟨s, hhanded, hsettled, settled_published threadedPair literalCodecs_roundTrip s hreached
    hsettled 7 ⟨_, _, rfl, rfl, Or.inl rfl⟩⟩

/-- However a run goes on, the publishing node stays alive, and a step that adds
no message is one of the eleven a message is worth at most. -/
theorem steps_bounded (config : Config) (hcodecs : config.codecs.RoundTrip) (s t : State)
    (h : (pipeline config).ReachableWith (fun _ label => Regular config.codecs label = true) s)
    (labels : List Label)
    (hrun : (pipeline config).replay (fun _ label => Regular config.codecs label = true) s
      labels = some t) :
    t.terminated = none ∧
      labels.countP (fun label => !label.isExternal) + work t ≤
        work s + 11 * labels.countP Label.isExternal := by
  have hreached := h.replay (fun _ _ hregular => hregular) hrun
  exact ⟨(regulated_of_reachable hcodecs hreached).intact.running,
    work_replay hcodecs (regulated_of_reachable hcodecs h) hrun⟩

theorem steps_bounded_compressed : ∃ t : State, t.terminated = none ∧
    payloadRun.countP (fun label => !label.isExternal) + work t ≤
      work (.start threadedPair) + 11 * payloadRun.countP Label.isExternal := by
  obtain ⟨t, hrun, -⟩ := payloadRun_replay
  exact ⟨t, steps_bounded threadedPair literalCodecs_roundTrip (.start threadedPair) t .start
    payloadRun hrun⟩

end Pipeline

end Ros2Connect
