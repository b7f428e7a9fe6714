import Ros2Connect.Publisher.PublisherManager

/-!
A publisher manager publishes what it is given on a channel, in the order it
was given. What it has published on the channel and what its queues still hold
for it are together the payloads of the messages it was given.
-/

namespace Ros2Connect

open Lib

/-- A payload, unless it is empty. -/
def nonEmpty (data : Bytes) : Option Bytes := if data = [] then none else some data

/-- The bytes a message stands for: its own, or what it decompresses to. -/
def RclMessage.payload (codecs : Codecs) (message : RclMessage) : Option Bytes :=
  if MessageBase.isCompressed message then
    match MessageBase.decompress codecs message with
    | .ok (true, stored) => some stored.serializedMessage
    | .ok (false, _) | .error _ => none
  else some message.serializedMessage

/-- The non-empty payload a message carries on a channel. -/
def RclMessage.delivery (codecs : Codecs) (channel : UInt8) (message : RclMessage) :
    Option Bytes :=
  if message.channel = channel then (message.payload codecs).bind nonEmpty else none

theorem RclMessage.delivery_of_ne (codecs : Codecs) {channel : UInt8} {message : RclMessage}
    (h : message.channel ≠ channel) : message.delivery codecs channel = none := by
  simp [RclMessage.delivery, h]

theorem RclMessage.payload_plain (codecs : Codecs) {message : RclMessage}
    (h : MessageBase.isCompressed message = false) :
    message.payload codecs = some message.serializedMessage := by
  simp [RclMessage.payload, h]

namespace PublisherManager

variable {τ : Type} {codecs : Codecs} {manager next : PublisherManager τ} {channel : UInt8}

/-- The non-empty payloads published on a channel. -/
def publishedOn (manager : PublisherManager τ) (channel : UInt8) : List Bytes :=
  (manager.published.filter fun publication => publication.channel = channel).filterMap
    fun publication => nonEmpty publication.data

/-- What the manager's own queue holds, the next message first. -/
def waiting (manager : PublisherManager τ) : List (Tagged τ) :=
  manager.message.toList ++ manager.toPublish

/-- What the publisher of a channel holds, the next message first. -/
def threaded (manager : PublisherManager τ) (channel : UInt8) : List (Tagged τ) :=
  (manager.threadedMessage channel).toList ++ manager.threadedToPublish channel

/-- The payloads still queued for a channel. -/
def queuedOn (codecs : Codecs) (manager : PublisherManager τ) (channel : UInt8) :
    List Bytes :=
  (manager.threaded channel ++ manager.waiting).filterMap
    fun received => received.message.delivery codecs channel

/-- Everything the manager was given for a channel. -/
def givenOn (codecs : Codecs) (manager : PublisherManager τ) (channel : UInt8) :
    List Bytes :=
  manager.publishedOn channel ++ manager.queuedOn codecs channel

/-- Which queues messages of a channel can be in. -/
structure Sorted (manager : PublisherManager τ) : Prop where
  threaded : ∀ channel, ∀ received ∈ manager.threaded channel,
    received.message.channel = channel
  shared : ∀ channel topic, manager.publishers channel = some topic →
    topic.useOwnThread = false → manager.threaded channel = []

/-- The publisher of a channel can publish what waits for it: it has its own
thread, or nothing is compressed. -/
def Delivers (manager : PublisherManager τ) (channel : UInt8) : Prop :=
  ∃ topic, manager.publishers channel = some topic ∧
    (topic.useOwnThread = false → ∀ received ∈ manager.waiting,
      received.message.channel = channel → MessageBase.isCompressed received.message = false)

@[simp] theorem publishedOn_rosPublish (manager : PublisherManager τ) (other : UInt8)
    (data : Bytes) (tag : τ) : (manager.rosPublish other data tag).publishedOn channel =
      manager.publishedOn channel ++
        (if other = channel then (nonEmpty data).toList else []) := by
  by_cases h : other = channel
  · cases hdata : nonEmpty data <;> simp [publishedOn, rosPublish, h, hdata]
  · simp [publishedOn, rosPublish, h]

theorem waiting_publish (received : Tagged τ) :
    (manager.publish received).waiting = manager.waiting ++ [received] := by
  simp [waiting, publish]

/-- A message that is handed to the manager is given behind all others. -/
theorem givenOn_publish (received : Tagged τ) :
    (manager.publish received).givenOn codecs channel =
      manager.givenOn codecs channel ++
        (received.message.delivery codecs channel).toList := by
  have hthreaded : (manager.publish received).threaded channel = manager.threaded channel := rfl
  have hpublished : (manager.publish received).publishedOn channel =
      manager.publishedOn channel := rfl
  rw [givenOn, givenOn, queuedOn, queuedOn, hthreaded, hpublished, waiting_publish]
  cases hdelivery : received.message.delivery codecs channel <;>
    simp [hdelivery, List.filterMap_append]

theorem Sorted.publish (h : manager.Sorted) (received : Tagged τ) :
    (manager.publish received).Sorted := ⟨h.threaded, h.shared⟩

/-- Taking a message out of a queue moves it to the front. -/
theorem take_spec (h : manager.message = none) :
    manager.take.waiting = manager.waiting ∧ manager.take.published = manager.published ∧
      manager.take.publishers = manager.publishers ∧
      ∀ channel, manager.take.threaded channel = manager.threaded channel := by
  unfold take
  cases hqueue : manager.toPublish with
  | nil => exact ⟨rfl, rfl, rfl, fun _ => rfl⟩
  | cons received rest => exact ⟨by simp [waiting, h, hqueue], rfl, rfl, fun _ => rfl⟩

theorem takeThreaded_spec (other : UInt8) (h : manager.threadedMessage other = none) :
    (manager.takeThreaded other).waiting = manager.waiting ∧
      (manager.takeThreaded other).published = manager.published ∧
      (manager.takeThreaded other).publishers = manager.publishers ∧
      ∀ channel, (manager.takeThreaded other).threaded channel = manager.threaded channel := by
  unfold takeThreaded
  cases hqueue : manager.threadedToPublish other with
  | nil => exact ⟨rfl, rfl, rfl, fun _ => rfl⟩
  | cons received rest =>
      refine ⟨rfl, rfl, rfl, fun channel => ?_⟩
      by_cases hchannel : channel = other
      · subst hchannel
        simp [threaded, h, hqueue]
      · simp [threaded, Function.update_of_ne hchannel]

/-- A step that only moves messages between queues. -/
theorem Sorted.ofSame (h : manager.Sorted) (hpublishers : next.publishers = manager.publishers)
    (hthreaded : ∀ channel, next.threaded channel = manager.threaded channel) :
    next.Sorted where
  threaded := fun channel received hreceived =>
    h.threaded channel received (hthreaded channel ▸ hreceived)
  shared := fun channel topic htopic hshared =>
    (hthreaded channel).trans (h.shared channel topic (hpublishers ▸ htopic) hshared)

theorem givenOn_ofSame (hwaiting : next.waiting = manager.waiting)
    (hpublished : next.published = manager.published)
    (hthreaded : next.threaded channel = manager.threaded channel) :
    next.givenOn codecs channel = manager.givenOn codecs channel := by
  rw [givenOn, givenOn, queuedOn, queuedOn, publishedOn, publishedOn, hwaiting, hpublished,
    hthreaded]

theorem threaded_moved : manager.moved.threaded channel = manager.threaded channel := rfl

theorem threaded_publishThreaded (other : UInt8) (received : Tagged τ) :
    (manager.publishThreaded other received).threaded channel =
      manager.threaded channel ++ if channel = other then [received] else [] := by
  by_cases hchannel : channel = other
  · subst hchannel
    simp [threaded, publishThreaded]
  · simp [threaded, publishThreaded, hchannel]

theorem Moves.keeps {received : Tagged τ} (hmoves : manager.Moves received next) :
    next.publishers = manager.publishers ∧ ∀ queued ∈ next.waiting, queued ∈ manager.waiting := by
  have hmoved : ∀ queued ∈ manager.moved.waiting, queued ∈ manager.waiting :=
    fun _ hqueued => List.mem_append_right _ (by simpa [waiting, moved] using hqueued)
  cases hmoves with
  | unknown | threaded | compressed | shared => exact ⟨rfl, hmoved⟩

theorem Sorted.run (h : manager.Sorted) {received : Tagged τ}
    (hmoves : manager.Moves received next) : next.Sorted := by
  cases hmoves with
  | unknown | compressed | shared => exact ⟨h.threaded, h.shared⟩
  | threaded topic htopic hthread =>
      refine ⟨?_, ?_⟩
      · intro channel queued hqueued
        rw [threaded_publishThreaded] at hqueued
        rcases List.mem_append.mp hqueued with hold | hnew
        · exact h.threaded channel queued hold
        · by_cases hchannel : channel = received.message.channel
          · rw [if_pos hchannel] at hnew
            obtain rfl := List.mem_singleton.mp hnew
            exact hchannel.symm
          · rw [if_neg hchannel] at hnew
            cases hnew
      · intro channel other hother hshared
        have hchannel : channel ≠ received.message.channel := by
          rintro rfl
          have hsame := hother.symm.trans htopic
          rw [Option.some.inj hsame, hthread] at hshared
          cases hshared
        rw [threaded_publishThreaded, if_neg hchannel, List.append_nil]
        exact h.shared channel other hother hshared

theorem waiting_of_message {received : Tagged τ} (hmessage : manager.message = some received) :
    manager.waiting = received :: manager.moved.waiting := by
  simp [waiting, hmessage, moved]

/-- A message that is dropped carried nothing on the other channels. -/
theorem givenOn_moved {received : Tagged τ} (hmessage : manager.message = some received)
    (hother : received.message.channel ≠ channel) :
    manager.moved.givenOn codecs channel = manager.givenOn codecs channel := by
  have hpublished : manager.moved.publishedOn channel = manager.publishedOn channel := rfl
  rw [givenOn, givenOn, queuedOn, queuedOn, waiting_of_message hmessage, hpublished,
    threaded_moved]
  simp [RclMessage.delivery_of_ne codecs hother]

theorem givenOn_moved_sublist {received : Tagged τ}
    (hmessage : manager.message = some received) :
    (manager.moved.givenOn codecs channel).Sublist (manager.givenOn codecs channel) := by
  have hqueues : (manager.moved.threaded channel ++ manager.moved.waiting).Sublist
      (manager.threaded channel ++ manager.waiting) := by
    rw [waiting_of_message hmessage, threaded_moved]
    exact (List.sublist_cons_self _ _).append_left _
  exact (hqueues.filterMap _).append_left _

/-- A message that is handed to a threaded publisher stays in its place. -/
theorem givenOn_publishThreaded {received : Tagged τ}
    (hmessage : manager.message = some received) :
    (manager.moved.publishThreaded received.message.channel received).givenOn codecs channel =
      manager.givenOn codecs channel := by
  by_cases hchannel : channel = received.message.channel
  · have hsplit : (manager.moved.publishThreaded received.message.channel received).threaded
        channel ++ manager.moved.waiting = manager.threaded channel ++ manager.waiting := by
      rw [threaded_publishThreaded, if_pos hchannel, threaded_moved,
        waiting_of_message hmessage]
      simp
    exact congrArg (fun queue => manager.publishedOn channel ++
      queue.filterMap fun received => received.message.delivery codecs channel) hsplit
  · have hsame : (manager.moved.publishThreaded received.message.channel received).threaded
        channel = manager.moved.threaded channel := by
      rw [threaded_publishThreaded, if_neg hchannel, List.append_nil]
    rw [← givenOn_moved hmessage (Ne.symm hchannel)]
    exact givenOn_ofSame rfl rfl hsame

/-- A message that is not compressed is published in its place when the
channel's publisher holds none. -/
theorem givenOn_rosPublish_moved {received : Tagged τ}
    (hmessage : manager.message = some received)
    (hempty : manager.threaded received.message.channel = [])
    (hplain : MessageBase.isCompressed received.message = false) :
    (manager.moved.rosPublish received.message.channel received.message.serializedMessage
      received.tag).givenOn codecs channel = manager.givenOn codecs channel := by
  have hpublished : manager.moved.publishedOn channel = manager.publishedOn channel := rfl
  by_cases hchannel : received.message.channel = channel
  · obtain rfl := hchannel
    have hdelivery : received.message.delivery codecs received.message.channel =
        nonEmpty received.message.serializedMessage := by
      simp [RclMessage.delivery, RclMessage.payload_plain codecs hplain]
    have hqueue : (manager.moved.rosPublish received.message.channel
        received.message.serializedMessage received.tag).threaded
          received.message.channel = [] := hempty
    rw [givenOn, publishedOn_rosPublish, if_pos rfl, hpublished, givenOn, queuedOn, queuedOn,
      hqueue, hempty, waiting_of_message hmessage, List.append_assoc]
    cases hdata : nonEmpty received.message.serializedMessage <;>
      simp [hdelivery, hdata, waiting, rosPublish]
  · rw [← givenOn_moved hmessage hchannel, givenOn, publishedOn_rosPublish, if_neg hchannel,
      List.append_nil]
    rfl

/-- The message `run` moves over stays in its place. -/
theorem givenOn_run (h : manager.Sorted) (hdelivers : manager.Delivers channel)
    {received : Tagged τ} (hmessage : manager.message = some received)
    (hmoves : manager.Moves received next) :
    next.givenOn codecs channel = manager.givenOn codecs channel := by
  obtain ⟨topic, htopic, hplain⟩ := hdelivers
  cases hmoves with
  | unknown hunknown =>
      apply givenOn_moved hmessage
      rintro rfl
      rw [htopic] at hunknown
      cases hunknown
  | compressed found hfound hshared hcompressed =>
      apply givenOn_moved hmessage
      rintro rfl
      obtain rfl := Option.some.inj (htopic.symm.trans hfound)
      have hreceived : received ∈ manager.waiting :=
        waiting_of_message hmessage ▸ List.mem_cons_self
      rw [hplain hshared received hreceived rfl] at hcompressed
      cases hcompressed
  | threaded => exact givenOn_publishThreaded hmessage
  | shared found hfound hshared huncompressed =>
      exact givenOn_rosPublish_moved hmessage (h.shared _ found hfound hshared) huncompressed

/-- On a channel whose publisher cannot publish everything, messages are lost
at most. -/
theorem givenOn_run_sublist (h : manager.Sorted) {received : Tagged τ}
    (hmessage : manager.message = some received) (hmoves : manager.Moves received next) :
    (next.givenOn codecs channel).Sublist (manager.givenOn codecs channel) := by
  cases hmoves with
  | unknown | compressed => exact givenOn_moved_sublist hmessage
  | threaded => rw [givenOn_publishThreaded hmessage]
  | shared found hfound hshared huncompressed =>
      rw [givenOn_rosPublish_moved hmessage (h.shared _ found hfound hshared) huncompressed]

theorem threaded_doneThreaded (other : UInt8) {received : Tagged τ}
    (hmessage : manager.threadedMessage other = some received) :
    manager.threaded channel = (if channel = other then [received] else []) ++
      (manager.doneThreaded other).threaded channel := by
  by_cases hchannel : channel = other
  · subst hchannel
    simp [threaded, doneThreaded, hmessage]
  · simp [threaded, doneThreaded, hchannel]

theorem Sorted.doneThreaded (h : manager.Sorted) {other : UInt8} {received : Tagged τ}
    (hmessage : manager.threadedMessage other = some received) :
    (manager.doneThreaded other).Sorted := by
  have hsublist (channel : UInt8) :
      ((manager.doneThreaded other).threaded channel).Sublist (manager.threaded channel) :=
    threaded_doneThreaded other hmessage ▸ List.sublist_append_right _ _
  refine ⟨?_, ?_⟩
  · exact fun channel queued hqueued =>
      h.threaded channel queued ((hsublist channel).subset hqueued)
  · exact fun channel topic htopic hshared =>
      List.eq_nil_of_sublist_nil (h.shared channel topic htopic hshared ▸ hsublist channel)

theorem Publishes.keeps {other : UInt8} {received : Tagged τ}
    (hpublishes : manager.Publishes codecs other received next) :
    next.publishers = manager.publishers ∧ next.waiting = manager.waiting := by
  cases hpublishes with
  | plain | dropped | decompressed => exact ⟨rfl, rfl⟩

theorem Sorted.runThreaded (h : manager.Sorted) {other : UInt8} {received : Tagged τ}
    (hmessage : manager.threadedMessage other = some received)
    (hpublishes : manager.Publishes codecs other received next) : next.Sorted := by
  have hdone := h.doneThreaded hmessage
  cases hpublishes with
  | plain | dropped | decompressed => exact ⟨hdone.threaded, hdone.shared⟩

/-- A threaded publisher publishes what its message stands for. -/
theorem givenOn_runThreaded (h : manager.Sorted) {other : UInt8} {received : Tagged τ}
    (hmessage : manager.threadedMessage other = some received)
    (hpublishes : manager.Publishes codecs other received next) :
    next.givenOn codecs channel = manager.givenOn codecs channel := by
  have hchannel : received.message.channel = other :=
    h.threaded other received (by simp [threaded, hmessage])
  have hthreaded : manager.threaded channel = (if channel = other then [received] else []) ++
      (manager.doneThreaded other).threaded channel := threaded_doneThreaded other hmessage
  by_cases hother : channel = other
  · subst hother
    rw [if_pos rfl] at hthreaded
    have hdelivery : received.message.delivery codecs channel =
        (received.message.payload codecs).bind nonEmpty := by
      simp [RclMessage.delivery, hchannel]
    have hbefore : manager.givenOn codecs channel = manager.publishedOn channel ++
        (received.message.delivery codecs channel).toList ++
          (manager.doneThreaded channel).queuedOn codecs channel := by
      rw [givenOn, queuedOn, hthreaded, queuedOn]
      cases hdata : received.message.delivery codecs channel <;>
        simp [hdata, waiting, doneThreaded]
    have hafter (data : Bytes) (tag : τ) :
        ((manager.doneThreaded channel).rosPublish channel data tag).givenOn codecs channel =
          manager.publishedOn channel ++ (nonEmpty data).toList ++
            (manager.doneThreaded channel).queuedOn codecs channel := by
      rw [givenOn, publishedOn_rosPublish, if_pos rfl]
      rfl
    cases hpublishes with
    | plain hplain =>
        rw [hafter, hbefore, hdelivery, RclMessage.payload_plain codecs hplain]
        rfl
    | dropped stored hcompressed hdecompress =>
        have hnone : received.message.payload codecs = none := by
          simp [RclMessage.payload, hcompressed, hdecompress]
        rw [hbefore, hdelivery, hnone]
        simp only [Option.bind_none, Option.toList_none, List.append_nil]
        rfl
    | decompressed stored hcompressed hdecompress =>
        have hsome : received.message.payload codecs = some stored.serializedMessage := by
          simp [RclMessage.payload, hcompressed, hdecompress]
        rw [hafter, hbefore, hdelivery, hsome]
        rfl
  · rw [if_neg hother, List.nil_append] at hthreaded
    have hsame : (manager.doneThreaded other).givenOn codecs channel =
        manager.givenOn codecs channel := givenOn_ofSame rfl rfl hthreaded.symm
    have hafter (data : Bytes) (tag : τ) :
        ((manager.doneThreaded other).rosPublish other data tag).givenOn codecs channel =
          manager.givenOn codecs channel := by
      rw [← hsame, givenOn, publishedOn_rosPublish, if_neg (Ne.symm hother), List.append_nil]
      rfl
    cases hpublishes with
    | plain => exact hafter _ _
    | dropped => exact hsame
    | decompressed => exact hafter _ _

end PublisherManager

end Ros2Connect
