import Ros2Connect.Connection.ConnectionBase
import Ros2Connect.GlobalConfig
import Ros2Connect.Lib.KeyMap

/-!
`PublisherManager` with its shared and threaded publishers: the queue of the
manager, the queues of the threaded publishers and the messages their threads
have taken out of them. `published` logs the calls of `rosPublish`.
-/

namespace Ros2Connect

open Lib

/-- A call of `rosPublish`. -/
structure Publication (τ : Type) where
  channel : UInt8
  data : Bytes
  tag : τ
  deriving DecidableEq

structure PublisherManager (τ : Type) where
  publishers : KeyMap UInt8 Topic
  toPublish : List (Tagged τ)
  message : Option (Tagged τ)
  threadedToPublish : UInt8 → List (Tagged τ)
  threadedMessage : UInt8 → Option (Tagged τ)
  published : List (Publication τ)

namespace PublisherManager

variable {τ : Type}

def start : PublisherManager τ where
  publishers := KeyMap.empty
  toPublish := []
  message := none
  threadedToPublish := fun _ => []
  threadedMessage := fun _ => none
  published := []

def init (manager : PublisherManager τ) (publisher : List Topic) : PublisherManager τ :=
  { manager with publishers := manager.publishers.insertAll Topic.channel publisher }

def publish (manager : PublisherManager τ) (received : Tagged τ) : PublisherManager τ :=
  { manager with toPublish := manager.toPublish ++ [received] }

/-- `onStopThread`: every publisher is destroyed with its queue. -/
def onStopThread (manager : PublisherManager τ) : PublisherManager τ :=
  { manager with
    publishers := KeyMap.empty
    message := none
    threadedToPublish := fun _ => []
    threadedMessage := fun _ => none }

def rosPublish (manager : PublisherManager τ) (channel : UInt8) (data : Bytes) (tag : τ) :
    PublisherManager τ :=
  { manager with published := manager.published ++ [⟨channel, data, tag⟩] }

/-- `run` takes the next message. -/
def take (manager : PublisherManager τ) : PublisherManager τ :=
  match manager.toPublish with
  | [] => manager
  | received :: rest => { manager with toPublish := rest, message := some received }

/-- `run` has moved its message over. -/
def moved (manager : PublisherManager τ) : PublisherManager τ :=
  { manager with message := none }

/-- `ThreadedPublisher::publish`. -/
def publishThreaded (manager : PublisherManager τ) (channel : UInt8) (received : Tagged τ) :
    PublisherManager τ :=
  { manager with
    threadedToPublish := Function.update manager.threadedToPublish channel
      (manager.threadedToPublish channel ++ [received]) }

/-- `run` moves the message it has taken to the publisher of its channel. A
shared publisher publishes it, unless it is compressed. -/
def run (manager : PublisherManager τ) : PublisherManager τ :=
  match manager.message with
  | none => manager
  | some received =>
      match manager.publishers received.message.channel with
      | none => manager.moved
      | some topic =>
          if topic.useOwnThread then
            manager.moved.publishThreaded received.message.channel received
          else if MessageBase.isCompressed received.message then manager.moved
          else
            manager.moved.rosPublish received.message.channel
              received.message.serializedMessage received.tag

/-- The thread of a threaded publisher takes the next message. -/
def takeThreaded (manager : PublisherManager τ) (channel : UInt8) : PublisherManager τ :=
  match manager.threadedToPublish channel with
  | [] => manager
  | received :: rest =>
      { manager with
        threadedToPublish := Function.update manager.threadedToPublish channel rest
        threadedMessage := Function.update manager.threadedMessage channel (some received) }

/-- The thread of a threaded publisher is done with its message. -/
def doneThreaded (manager : PublisherManager τ) (channel : UInt8) : PublisherManager τ :=
  { manager with threadedMessage := Function.update manager.threadedMessage channel none }

/-- The thread of a threaded publisher publishes the message it has taken. One
that cannot be decompressed is dropped. -/
def runThreaded (codecs : Codecs) (manager : PublisherManager τ) (channel : UInt8) :
    Except RclError (PublisherManager τ) :=
  match manager.threadedMessage channel with
  | none => .ok manager
  | some received =>
      if MessageBase.isCompressed received.message then do
        let (decompressed, stored) ← MessageBase.decompress codecs received.message
        if decompressed then
          return (manager.doneThreaded channel).rosPublish channel stored.serializedMessage
            received.tag
        else return manager.doneThreaded channel
      else
        .ok ((manager.doneThreaded channel).rosPublish channel
          received.message.serializedMessage received.tag)

/-- What `run` does with the message it has taken. -/
inductive Moves (manager : PublisherManager τ) (received : Tagged τ) :
    PublisherManager τ → Prop where
  | unknown : manager.publishers received.message.channel = none →
      Moves manager received manager.moved
  | threaded (topic : Topic) :
      manager.publishers received.message.channel = some topic →
      topic.useOwnThread = true →
      Moves manager received
        (manager.moved.publishThreaded received.message.channel received)
  | compressed (topic : Topic) :
      manager.publishers received.message.channel = some topic →
      topic.useOwnThread = false → MessageBase.isCompressed received.message = true →
      Moves manager received manager.moved
  | shared (topic : Topic) :
      manager.publishers received.message.channel = some topic →
      topic.useOwnThread = false → MessageBase.isCompressed received.message = false →
      Moves manager received (manager.moved.rosPublish received.message.channel
        received.message.serializedMessage received.tag)

theorem run_moves {manager : PublisherManager τ} {received : Tagged τ}
    (h : manager.message = some received) : manager.Moves received manager.run := by
  unfold run
  simp only [h]
  cases htopic : manager.publishers received.message.channel with
  | none => exact .unknown htopic
  | some topic =>
      cases hthread : topic.useOwnThread with
      | true => simpa [hthread] using Moves.threaded topic htopic hthread
      | false =>
          cases hcompressed : MessageBase.isCompressed received.message with
          | true => simpa [hthread, hcompressed] using
              Moves.compressed topic htopic hthread hcompressed
          | false => simpa [hthread, hcompressed] using
              Moves.shared topic htopic hthread hcompressed

/-- What the thread of a threaded publisher does with the message it has
taken, when no exception leaves it. -/
inductive Publishes (codecs : Codecs) (manager : PublisherManager τ) (channel : UInt8)
    (received : Tagged τ) : PublisherManager τ → Prop where
  | plain : MessageBase.isCompressed received.message = false →
      Publishes codecs manager channel received
        ((manager.doneThreaded channel).rosPublish channel
          received.message.serializedMessage received.tag)
  | dropped (stored : RclMessage) : MessageBase.isCompressed received.message = true →
      MessageBase.decompress codecs received.message = .ok (false, stored) →
      Publishes codecs manager channel received (manager.doneThreaded channel)
  | decompressed (stored : RclMessage) : MessageBase.isCompressed received.message = true →
      MessageBase.decompress codecs received.message = .ok (true, stored) →
      Publishes codecs manager channel received
        ((manager.doneThreaded channel).rosPublish channel stored.serializedMessage
          received.tag)

theorem runThreaded_publishes {codecs : Codecs} {manager next : PublisherManager τ}
    {channel : UInt8} {received : Tagged τ}
    (h : manager.threadedMessage channel = some received)
    (hrun : manager.runThreaded codecs channel = .ok next) :
    manager.Publishes codecs channel received next := by
  unfold runThreaded at hrun
  simp only [h] at hrun
  cases hcompressed : MessageBase.isCompressed received.message with
  | false =>
      rw [if_neg (by simp [hcompressed])] at hrun
      cases hrun
      exact .plain hcompressed
  | true =>
      rw [if_pos hcompressed] at hrun
      cases hdecompress : MessageBase.decompress codecs received.message with
      | error error =>
          rw [hdecompress] at hrun
          cases hrun
      | ok result =>
          obtain ⟨decompressed, stored⟩ := result
          rw [hdecompress] at hrun
          cases decompressed with
          | false =>
              cases hrun
              exact .dropped stored hcompressed hdecompress
          | true =>
              cases hrun
              exact .decompressed stored hcompressed hdecompress

theorem init_publishers (manager : PublisherManager τ) (publisher : List Topic)
    (channel : UInt8) : (manager.init publisher).publishers channel =
      (manager.publishers channel).or (topicFor publisher channel) :=
  KeyMap.insertAll_apply _ _ _ _

/-- A message no publisher of the configuration ever publishes. -/
def Undeliverable (codecs : Codecs) (publisher : List Topic) (message : RclMessage) : Prop :=
  ∀ topic, topicFor publisher message.channel = some topic →
    MessageBase.isCompressed message = true ∧
      (topic.useOwnThread = true →
        ∀ stored, MessageBase.decompress codecs message ≠ .ok (true, stored))

/-- The manager publishes nothing of the messages its predicate marks: those it
holds are undeliverable. -/
structure Withholds (codecs : Codecs) (publisher : List Topic) (marked : τ → Prop)
    (manager : PublisherManager τ) : Prop where
  publishers : ∀ channel topic, manager.publishers channel = some topic →
    topicFor publisher channel = some topic
  toPublish : ∀ received ∈ manager.toPublish, marked received.tag →
    Undeliverable codecs publisher received.message
  message : ∀ received, manager.message = some received → marked received.tag →
    Undeliverable codecs publisher received.message
  threadedToPublish : ∀ channel, ∀ received ∈ manager.threadedToPublish channel,
    marked received.tag →
      ∀ stored, MessageBase.isCompressed received.message = true ∧
        MessageBase.decompress codecs received.message ≠ .ok (true, stored)
  threadedMessage : ∀ channel received, manager.threadedMessage channel = some received →
    marked received.tag →
      ∀ stored, MessageBase.isCompressed received.message = true ∧
        MessageBase.decompress codecs received.message ≠ .ok (true, stored)
  published : ∀ publication ∈ manager.published, ¬ marked publication.tag

namespace Withholds

variable {codecs : Codecs} {publisher : List Topic} {marked : τ → Prop}
  {manager : PublisherManager τ}

theorem init (h : manager.Withholds codecs publisher marked) :
    (manager.init publisher).Withholds codecs publisher marked where
  publishers := by
    intro channel topic htopic
    rw [init_publishers] at htopic
    cases hold : manager.publishers channel with
    | none => simpa [hold] using htopic
    | some old =>
        rw [hold] at htopic
        cases htopic
        exact h.publishers channel topic hold
  toPublish := h.toPublish
  message := h.message
  threadedToPublish := h.threadedToPublish
  threadedMessage := h.threadedMessage
  published := h.published

theorem publish (h : manager.Withholds codecs publisher marked) {received : Tagged τ}
    (hreceived : ¬ marked received.tag) :
    (manager.publish received).Withholds codecs publisher marked where
  publishers := h.publishers
  toPublish := by
    intro queued hqueued hmarked
    rcases List.mem_append.mp hqueued with hold | hnew
    · exact h.toPublish queued hold hmarked
    · obtain rfl := List.mem_singleton.mp hnew
      exact absurd hmarked hreceived
  message := h.message
  threadedToPublish := h.threadedToPublish
  threadedMessage := h.threadedMessage
  published := h.published

theorem onStopThread (h : manager.Withholds codecs publisher marked) :
    manager.onStopThread.Withholds codecs publisher marked where
  publishers := by
    intro channel topic htopic
    cases htopic
  toPublish := h.toPublish
  message := by
    intro received hreceived
    cases hreceived
  threadedToPublish := by
    intro channel received hreceived
    cases hreceived
  threadedMessage := by
    intro channel received hreceived
    cases hreceived
  published := h.published

theorem take (h : manager.Withholds codecs publisher marked) :
    manager.take.Withholds codecs publisher marked := by
  unfold PublisherManager.take
  cases hqueue : manager.toPublish with
  | nil => exact h
  | cons received rest =>
      have hhead := h.toPublish received (by simp [hqueue])
      have hrest : ∀ queued ∈ rest, marked queued.tag →
          Undeliverable codecs publisher queued.message := fun queued hqueued =>
        h.toPublish queued (by simp [hqueue, hqueued])
      exact { h with
        toPublish := hrest
        message := by rintro taken ⟨⟩; exact hhead }

/-- A publication of an unmarked message. -/
theorem rosPublish (h : manager.Withholds codecs publisher marked) (channel : UInt8)
    (data : Bytes) {tag : τ} (htag : ¬ marked tag) :
    (manager.rosPublish channel data tag).Withholds codecs publisher marked where
  publishers := h.publishers
  toPublish := h.toPublish
  message := h.message
  threadedToPublish := h.threadedToPublish
  threadedMessage := h.threadedMessage
  published := by
    intro publication hpublication
    rcases List.mem_append.mp hpublication with hold | hnew
    · exact h.published publication hold
    · obtain rfl := List.mem_singleton.mp hnew
      exact htag

theorem moved (h : manager.Withholds codecs publisher marked) :
    manager.moved.Withholds codecs publisher marked :=
  { h with message := by rintro taken ⟨⟩ }

theorem publishThreaded (h : manager.Withholds codecs publisher marked) (channel : UInt8)
    {received : Tagged τ} (hreceived : marked received.tag →
      ∀ stored, MessageBase.isCompressed received.message = true ∧
        MessageBase.decompress codecs received.message ≠ .ok (true, stored)) :
    (manager.publishThreaded channel received).Withholds codecs publisher marked := by
  have hqueues : ∀ other, ∀ queued ∈ (Function.update manager.threadedToPublish channel
      (manager.threadedToPublish channel ++ [received])) other, marked queued.tag →
        ∀ stored, MessageBase.isCompressed queued.message = true ∧
          MessageBase.decompress codecs queued.message ≠ .ok (true, stored) := by
    intro other queued hqueued
    by_cases hchannel : other = channel
    · subst hchannel
      rw [Function.update_self] at hqueued
      rcases List.mem_append.mp hqueued with hold | hnew
      · exact h.threadedToPublish other queued hold
      · obtain rfl := List.mem_singleton.mp hnew
        exact hreceived
    · rw [Function.update_of_ne hchannel] at hqueued
      exact h.threadedToPublish other queued hqueued
  exact { h with threadedToPublish := hqueues }

theorem run (h : manager.Withholds codecs publisher marked) :
    manager.run.Withholds codecs publisher marked := by
  cases hmessage : manager.message with
  | none => simpa [PublisherManager.run, hmessage] using h
  | some received =>
      have hundeliverable := h.message received hmessage
      have hrun := run_moves hmessage
      generalize manager.run = next at hrun ⊢
      cases hrun with
      | unknown => exact h.moved
      | compressed => exact h.moved
      | threaded topic htopic hthread =>
          refine h.moved.publishThreaded _ fun hmarked stored => ?_
          obtain ⟨hcompressed, hdecompress⟩ :=
            hundeliverable hmarked topic (h.publishers _ _ htopic)
          exact ⟨hcompressed, hdecompress hthread stored⟩
      | shared topic htopic _ hplain =>
          refine h.moved.rosPublish _ _ fun hmarked => ?_
          have hcompressed := (hundeliverable hmarked topic (h.publishers _ _ htopic)).1
          rw [hplain] at hcompressed
          cases hcompressed

theorem takeThreaded (h : manager.Withholds codecs publisher marked) (channel : UInt8) :
    (manager.takeThreaded channel).Withholds codecs publisher marked := by
  unfold PublisherManager.takeThreaded
  cases hqueue : manager.threadedToPublish channel with
  | nil => exact h
  | cons received rest =>
      have hold := h.threadedToPublish channel
      rw [hqueue] at hold
      have hqueues : ∀ other, ∀ queued ∈ Function.update manager.threadedToPublish channel
          rest other, marked queued.tag →
            ∀ stored, MessageBase.isCompressed queued.message = true ∧
              MessageBase.decompress codecs queued.message ≠ .ok (true, stored) := by
        intro other queued hqueued
        by_cases hchannel : other = channel
        · subst hchannel
          rw [Function.update_self] at hqueued
          exact hold queued (List.mem_cons_of_mem _ hqueued)
        · rw [Function.update_of_ne hchannel] at hqueued
          exact h.threadedToPublish other queued hqueued
      have hmessages : ∀ other taken, Function.update manager.threadedMessage channel
          (some received) other = some taken → marked taken.tag →
            ∀ stored, MessageBase.isCompressed taken.message = true ∧
              MessageBase.decompress codecs taken.message ≠ .ok (true, stored) := by
        intro other taken htaken
        by_cases hchannel : other = channel
        · subst hchannel
          rw [Function.update_self] at htaken
          cases htaken
          exact hold received List.mem_cons_self
        · rw [Function.update_of_ne hchannel] at htaken
          exact h.threadedMessage other taken htaken
      exact { h with threadedToPublish := hqueues, threadedMessage := hmessages }

theorem doneThreaded (h : manager.Withholds codecs publisher marked) (channel : UInt8) :
    (manager.doneThreaded channel).Withholds codecs publisher marked := by
  have hmessages : ∀ other taken, Function.update manager.threadedMessage channel none other =
      some taken → marked taken.tag →
        ∀ stored, MessageBase.isCompressed taken.message = true ∧
          MessageBase.decompress codecs taken.message ≠ .ok (true, stored) := by
    intro other taken htaken
    by_cases hchannel : other = channel
    · subst hchannel
      rw [Function.update_self] at htaken
      cases htaken
    · rw [Function.update_of_ne hchannel] at htaken
      exact h.threadedMessage other taken htaken
  exact { h with threadedMessage := hmessages }

theorem runThreaded (h : manager.Withholds codecs publisher marked) (channel : UInt8)
    {next : PublisherManager τ} (hrun : manager.runThreaded codecs channel = .ok next) :
    next.Withholds codecs publisher marked := by
  cases hmessage : manager.threadedMessage channel with
  | none =>
      simp only [PublisherManager.runThreaded, hmessage] at hrun
      cases hrun
      exact h
  | some received =>
      have hmarked := h.threadedMessage channel received hmessage
      cases runThreaded_publishes hmessage hrun with
      | plain hplain =>
          refine (h.doneThreaded channel).rosPublish _ _ fun htag => ?_
          have hcompressed := (hmarked htag received.message).1
          rw [hplain] at hcompressed
          cases hcompressed
      | dropped => exact h.doneThreaded channel
      | decompressed stored _ hdecompress =>
          exact (h.doneThreaded channel).rosPublish _ _ fun htag =>
            (hmarked htag stored).2 hdecompress

end Withholds

end PublisherManager

end Ros2Connect
