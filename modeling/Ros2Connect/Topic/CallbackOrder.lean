import Ros2Connect.Topic.PipelineOrder

/-!
From the callbacks to the publishers. The payloads a channel's callbacks have
queued are those handed to them, in the same order as long as no two of them
were in progress at once; only the callbacks of a threaded subscriber can be.
-/

namespace Ros2Connect

open Lib

namespace Pipeline

variable {config : Config} {s t : State} {label : Label}

/-- What the callbacks of a channel were given is queued or in progress. -/
structure Callbacks (config : Config) (s : State) : Prop where
  handed : ∀ channel, (s.queued channel ++ s.calls channel).Perm (s.handed channel)
  ordered : ∀ channel, s.overlapped channel = false →
    s.queued channel ++ s.calls channel = s.handed channel ∧ (s.calls channel).length ≤ 1
  exclusive : ∀ channel topic, config.subscriber channel = some topic →
    topic.useOwnThread = false → s.overlapped channel = false

theorem Callbacks.start : Callbacks config (.start config) where
  handed := fun _ => .refl _
  ordered := fun _ _ => ⟨rfl, Nat.zero_le _⟩
  exclusive := fun _ _ _ _ => rfl

/-- A shared subscriber's callback is called while none of them is in
progress. -/
theorem calls_eq_nil {channel : UInt8} {topic : Topic}
    (htopic : config.subscriber channel = some topic) (hshared : topic.useOwnThread = false)
    (hcallable : callable config s channel = true) : s.calls channel = [] := by
  obtain ⟨hmem, rfl⟩ := topicFor_eq_some htopic
  rw [callable, htopic] at hcallable
  simp only [hshared, Bool.false_or, List.all_eq_true] at hcallable
  simpa [hshared] using hcallable topic hmem

theorem Callbacks.callback (h : Callbacks config s) {channel : UInt8}
    (hcallable : callable config s channel = true) (data : Bytes) :
    Callbacks config (s.callback channel data) := by
  have hoverlapped (other : UInt8) (hsame : other ≠ channel) :
      (s.callback channel data).overlapped other = s.overlapped other :=
    Function.update_of_ne hsame _ _
  have hself : (s.callback channel data).overlapped channel =
      (s.overlapped channel || !(s.calls channel).isEmpty) := Function.update_self ..
  refine ⟨fun other => ?_, fun other hother => ?_, fun other topic htopic hshared => ?_⟩
  · by_cases hchannel : other = channel
    · subst hchannel
      simpa [State.callback] using (h.handed other).append_right [data]
    · simpa [State.callback, hchannel] using h.handed other
  · by_cases hchannel : other = channel
    · subst hchannel
      rw [hself, Bool.or_eq_false_iff] at hother
      have hempty : s.calls other = [] := by simpa using hother.2
      have hordered := (h.ordered other hother.1).1
      simp [State.callback, hempty, ← hordered]
    · rw [hoverlapped other hchannel] at hother
      simpa [State.callback, hchannel] using h.ordered other hother
  · by_cases hchannel : other = channel
    · subst hchannel
      rw [hself, h.exclusive other topic htopic hshared,
        calls_eq_nil htopic hshared hcallable]
      rfl
    · rw [hoverlapped other hchannel]
      exact h.exclusive other topic htopic hshared

/-- A callback that leaves has queued its payload behind those of the callbacks
that left before it. -/
theorem Callbacks.leave (h : Callbacks config s) {channel : UInt8} {data : Bytes}
    (hcall : data ∈ s.calls channel) : Callbacks config (s.leave channel data) := by
  refine ⟨fun other => ?_, fun other hother => ?_, h.exclusive⟩
  · by_cases hchannel : other = channel
    · subst hchannel
      have hmoved : (data :: (s.calls other).erase data).Perm (s.calls other) :=
        (List.perm_cons_erase hcall).symm
      simpa [State.leave] using (hmoved.append_left (s.queued other)).trans (h.handed other)
    · simpa [State.leave, hchannel] using h.handed other
  · by_cases hchannel : other = channel
    · subst hchannel
      obtain ⟨hordered, hlength⟩ := h.ordered other hother
      obtain ⟨call, hcalls⟩ := List.length_eq_one_iff.mp
        (Nat.le_antisymm hlength (List.length_pos_of_mem hcall))
      rw [hcalls, List.mem_singleton] at hcall
      subst hcall
      simpa [State.leave, hcalls] using hordered
    · simpa [State.leave, hchannel] using h.ordered other hother

/-- A step that is none of a callback. -/
theorem Callbacks.ofSame (h : Callbacks config s)
    (hsame : t.calls = s.calls ∧ t.handed = s.handed ∧ t.queued = s.queued ∧
      t.overlapped = s.overlapped) : Callbacks config t := by
  obtain ⟨hcalls, hhanded, hqueued, hoverlapped⟩ := hsame
  refine ⟨?_, ?_, ?_⟩
  · rw [hcalls, hhanded, hqueued]
    exact h.handed
  · rw [hcalls, hhanded, hqueued, hoverlapped]
    exact h.ordered
  · rw [hoverlapped]
    exact h.exclusive

theorem Callbacks.finish (h : Callbacks config s) {channel : UInt8} {data : Bytes}
    (hcall : data ∈ s.calls channel) : Callbacks config (s.finish config channel data) := by
  unfold State.finish
  cases htopic : config.subscriber channel with
  | none => exact h
  | some topic =>
      simp only
      split <;> exact (h.leave hcall).ofSame ⟨rfl, rfl, rfl, rfl⟩

theorem Callbacks.next (h : Callbacks config s) (henabled : enabled config s label = true) :
    Callbacks config (next config s label) := by
  cases label with
  | callback channel data => exact h.callback henabled data
  | finish channel data => exact h.finish (by simpa [enabled] using henabled)
  | take channel =>
      simp only [Pipeline.next, State.take]
      split <;> exact h.ofSame ⟨rfl, rfl, rfl, rfl⟩
  | send channel =>
      simp only [Pipeline.next, State.send]
      split <;> exact h.ofSame ⟨rfl, rfl, rfl, rfl⟩
  | receive =>
      cases hwire : s.transport.wire with
      | nil => simpa [Pipeline.next, State.receive, hwire] using h
      | cons combinedVector rest =>
          simp only [Pipeline.next]
          rcases receive_cases hwire with ⟨fault, -, heq⟩ | ⟨message, -, heq | ⟨-, heq⟩⟩ <;>
            exact heq ▸ h.ofSame ⟨rfl, rfl, rfl, rfl⟩
  | threadedRun channel =>
      simp only [Pipeline.next, State.threadedRun]
      split <;> exact h.ofSame ⟨rfl, rfl, rfl, rfl⟩
  | sendOther | runPosted | transmit | complete | managerTake | managerRun | threadedTake =>
      exact h.ofSame ⟨rfl, rfl, rfl, rfl⟩

/-- What is published on a connected channel and then what is queued or in
flight for it are the non-empty payloads its callbacks have queued, which are
those handed to them but for the callbacks in progress. The order is that of the
calls unless callbacks overlapped, and those of a shared subscriber never do.
On no other channel anything is published that was not queued for it. -/
theorem published_in_order (config : Config) (hcodecs : config.codecs.RoundTrip) (s : State)
    (h : (pipeline config).Reachable s) :
    (∀ channel, Connected config channel →
      s.manager.publishedOn channel ++ pending config s channel =
        (s.queued channel).filterMap nonEmpty) ∧
    (∀ channel, isTopic config channel = true →
      (s.manager.publishedOn channel ++ pending config s channel).Sublist
        ((s.queued channel).filterMap nonEmpty)) ∧
    (∀ channel, (s.queued channel ++ s.calls channel).Perm (s.handed channel)) ∧
    (∀ channel, s.overlapped channel = false →
      s.queued channel ++ s.calls channel = s.handed channel) ∧
    (∀ channel topic, config.subscriber channel = some topic → topic.useOwnThread = false →
      s.overlapped channel = false) := by
  have hordered : Ordered config s := h.invariant (Ordered config) .start
    (fun _ _ hinv henabled _ => hinv.next hcodecs henabled)
  have hcallbacks : Callbacks config s := h.invariant (Callbacks config) .start
    (fun _ _ hinv henabled _ => hinv.next henabled)
  refine ⟨?_, ?_, hcallbacks.handed, ?_, hcallbacks.exclusive⟩
  · rintro channel ⟨topic, publisher, htopic, hpublisher, hcompatible⟩
    exact (hordered.conserved channel (isTopic_of_subscriber htopic)).complete
      ⟨topic, publisher, htopic, hpublisher, hcompatible⟩
  · exact fun channel htopic => (hordered.conserved channel htopic).sublist
  · exact fun channel hoverlapped => (hcallbacks.ordered channel hoverlapped).1

private theorem subscribingTopics_checked :
    GlobalConfig.Checked [] [⟨7, true, true, ⟨.lz4Default, 1⟩⟩, ⟨8, false, true, ⟨.none, 0⟩⟩] :=
  ⟨by decide, by decide, by decide, by decide⟩

private def subscribingTopics : GlobalConfig :=
  .ofChecked _ _ false subscribingTopics_checked

private theorem publishingTopics_checked :
    GlobalConfig.Checked [⟨7, true, true, ⟨.none, 0⟩⟩, ⟨8, false, true, ⟨.none, 0⟩⟩] [] :=
  ⟨by decide, by decide, by decide, by decide⟩

private def publishingTopics : GlobalConfig :=
  .ofChecked _ _ false publishingTopics_checked

private def topics : Config := ⟨subscribingTopics, publishingTopics, literalCodecs⟩

private theorem connected_compressed : Connected topics 7 :=
  ⟨_, _, rfl, rfl, Or.inl rfl⟩

private theorem connected_shared : Connected topics 8 :=
  ⟨_, _, rfl, rfl, Or.inr rfl⟩

/-- A payload that is published, with the next callback in progress. -/
theorem published_in_order_compressed :
    ∃ s : State, s.manager.publishedOn 7 = [[1, 2]] ∧ s.calls 7 = [[3]] ∧
      s.manager.publishedOn 7 ++ pending topics s 7 = (s.queued 7).filterMap nonEmpty ∧
      (s.manager.publishedOn 9 ++ pending topics s 9).Sublist
        ((s.queued 9).filterMap nonEmpty) ∧
      (s.queued 7 ++ s.calls 7).Perm (s.handed 7) ∧
      s.queued 7 ++ s.calls 7 = s.handed 7 ∧ s.overlapped 8 = false := by
  obtain ⟨s, hreachable, hpublished, hcalls, hoverlapped⟩ :
      ∃ s : State, (pipeline topics).Reachable s ∧ (s.manager.publishedOn 7 = [[1, 2]] ∧
        s.calls 7 = [[3]] ∧ s.overlapped 7 = false) :=
    Machine.exists_reachable (fun s : State => s.manager.publishedOn 7 = [[1, 2]] ∧
      s.calls 7 = [[3]] ∧ s.overlapped 7 = false)
      [.callback 7 [1, 2], .finish 7 [1, 2], .callback 7 [3], .take 7, .send 7, .runPosted,
        .transmit, .complete, .receive, .managerTake, .managerRun, .threadedTake 7,
        .threadedRun 7] (by decide)
  obtain ⟨hcomplete, hsublist, hhanded, hordered, hexclusive⟩ :=
    published_in_order topics literalCodecs_roundTrip s hreachable
  exact ⟨s, hpublished, hcalls, hcomplete 7 connected_compressed, hsublist 9 rfl, hhanded 7,
    hordered 7 hoverlapped, hexclusive 8 _ rfl rfl⟩

/-- Two callbacks of a threaded subscriber queue in the other order, and an
empty payload of a shared one is published. -/
theorem published_out_of_order :
    (Connected topics 7 ∧ ∃ s : State, (pipeline topics).Reachable s ∧ s.calls 7 = [] ∧
      s.manager.publishedOn 7 ++ pending topics s 7 ≠ (s.handed 7).filterMap nonEmpty) ∧
    (Connected topics 8 ∧ ∃ s : State, (pipeline topics).Reachable s ∧ s.calls 8 = [] ∧
      s.manager.published.map Publication.data ++ pending topics s 8 ≠
        (s.handed 8).filterMap nonEmpty) := by
  refine ⟨⟨connected_compressed, ?_⟩, connected_shared, ?_⟩
  · obtain ⟨s, hreachable, hcalls, hhanded, hpublished⟩ :
        ∃ s : State, (pipeline topics).Reachable s ∧ (s.calls 7 = [] ∧
          s.handed 7 = [[1], [2]] ∧ s.manager.publishedOn 7 = [[2]]) :=
      Machine.exists_reachable (fun s : State => s.calls 7 = [] ∧ s.handed 7 = [[1], [2]] ∧
        s.manager.publishedOn 7 = [[2]])
        [.callback 7 [1], .callback 7 [2], .finish 7 [2], .finish 7 [1], .take 7, .send 7,
          .runPosted, .transmit, .complete, .receive, .managerTake, .managerRun,
          .threadedTake 7, .threadedRun 7] (by decide)
    refine ⟨s, hreachable, hcalls, ?_⟩
    rw [hpublished, hhanded]
    simp [nonEmpty]
  · obtain ⟨s, hreachable, hcalls, hhanded, hpublished⟩ :
        ∃ s : State, (pipeline topics).Reachable s ∧ (s.calls 8 = [] ∧
          s.handed 8 = [[]] ∧ s.manager.published = [⟨8, [], ()⟩]) :=
      Machine.exists_reachable (fun s : State => s.calls 8 = [] ∧ s.handed 8 = [[]] ∧
        s.manager.published = [⟨8, [], ()⟩])
        [.callback 8 [], .finish 8 [], .runPosted, .transmit, .complete, .receive,
          .managerTake, .managerRun] (by decide)
    refine ⟨s, hreachable, hcalls, ?_⟩
    rw [hpublished, hhanded]
    simp [nonEmpty]

end Pipeline

end Ros2Connect
