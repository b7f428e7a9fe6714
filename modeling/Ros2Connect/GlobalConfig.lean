import Ros2Connect.Lib.KeyMap
import Ros2Connect.Types

/-!
The topic part of `GlobalConfig` as `initializeParameters` accepts it: what it
checks of the lists is carried by the structure.
-/

namespace Ros2Connect

open Lib

/-- The topic a channel is defined for: the first of the list, as every loop
over it finds it. -/
def topicFor (topics : List Topic) (channel : UInt8) : Option Topic :=
  topics.find? fun topic => topic.channel == channel

theorem topicFor_eq_some {topics : List Topic} {channel : UInt8} {topic : Topic}
    (h : topicFor topics channel = some topic) : topic ∈ topics ∧ topic.channel = channel :=
  ⟨List.mem_of_find?_eq_some h, by simpa using List.find?_some h⟩

/-- With distinct channels every topic is the one found for its channel. -/
theorem topicFor_channel {topics : List Topic} (h : (topics.map Topic.channel).Nodup)
    {topic : Topic} (hmem : topic ∈ topics) : topicFor topics topic.channel = some topic :=
  (KeyMap.find?_eq_some h).mpr ⟨hmem, rfl⟩

/-- `OP_CODE_MIN` to `OP_CODE_MAX`. -/
def Reserved (channel : UInt8) : Prop := 249 ≤ channel

instance : DecidablePred Reserved := fun channel => inferInstanceAs (Decidable (249 ≤ channel))

structure GlobalConfig where
  publisher : List Topic
  subscriber : List Topic
  subscribeClock : Bool
  /-- No two topics of a node share a channel. -/
  distinct : ((subscriber ++ publisher).map Topic.channel).Nodup
  /-- The predefined publishers are the ones for TF and CLOCK. -/
  publisherChannel : ∀ topic ∈ publisher, Reserved topic.channel →
    topic.channel = OpCode.tf.toByte ∨ topic.channel = OpCode.tfStatic.toByte ∨
      topic.channel = OpCode.clock.toByte
  /-- The predefined subscribers are the ones for TF. -/
  subscriberChannel : ∀ topic ∈ subscriber, Reserved topic.channel →
    topic.channel = OpCode.tf.toByte ∨ topic.channel = OpCode.tfStatic.toByte
  /-- "Subscriber uses compression but not own thread" is refused. -/
  subscriberCompression : ∀ topic ∈ subscriber, topic.compression.compressor ≠ .none →
    topic.useOwnThread = true

namespace GlobalConfig

/-- The checks on two topic lists, for a configuration that is written out. -/
structure Checked (publisher subscriber : List Topic) : Prop where
  distinct : ((subscriber ++ publisher).map Topic.channel).Nodup
  publisherChannel : ∀ topic ∈ publisher, Reserved topic.channel →
    topic.channel = OpCode.tf.toByte ∨ topic.channel = OpCode.tfStatic.toByte ∨
      topic.channel = OpCode.clock.toByte
  subscriberChannel : ∀ topic ∈ subscriber, Reserved topic.channel →
    topic.channel = OpCode.tf.toByte ∨ topic.channel = OpCode.tfStatic.toByte
  subscriberCompression : ∀ topic ∈ subscriber, topic.compression.compressor ≠ .none →
    topic.useOwnThread = true

/-- The configuration of two topic lists that pass the checks. -/
def ofChecked (publisher subscriber : List Topic) (subscribeClock : Bool)
    (h : Checked publisher subscriber) : GlobalConfig where
  publisher := publisher
  subscriber := subscriber
  subscribeClock := subscribeClock
  distinct := h.distinct
  publisherChannel := h.publisherChannel
  subscriberChannel := h.subscriberChannel
  subscriberCompression := h.subscriberCompression

variable (config : GlobalConfig)

theorem subscriber_nodup : (config.subscriber.map Topic.channel).Nodup := by
  have h := config.distinct
  rw [List.map_append] at h
  exact h.of_append_left

/-- No topic is subscribed on the channel of `/clock`, which the clock
subscriber serves. -/
theorem subscriber_ne_clock {topic : Topic} (h : topic ∈ config.subscriber) :
    topic.channel ≠ OpCode.clock.toByte := by
  intro hclock
  have hreserved : Reserved topic.channel := by
    rw [hclock]
    show (249 : UInt8) ≤ 254
    decide
  rcases config.subscriberChannel topic h hreserved with htf | htf <;>
    exact absurd (hclock.symm.trans htf) (by decide)

/-- The topics of a node are on channels the base connection hands to its
publisher manager. -/
theorem subscriber_ne_opCode {topic : Topic} (h : topic ∈ config.subscriber) :
    topic.channel ≠ OpCode.notification.toByte ∧
      topic.channel ≠ OpCode.subscription.toByte ∧
      topic.channel ≠ OpCode.serviceAction.toByte ∧
      topic.channel ≠ OpCode.authentication.toByte := by
  by_cases hreserved : Reserved topic.channel
  · rcases config.subscriberChannel topic h hreserved with htf | htf <;>
      exact htf ▸ by decide
  · refine ⟨?_, ?_, ?_, ?_⟩ <;>
      · intro heq
        exact hreserved (heq ▸ (by unfold Reserved; decide))

end GlobalConfig

end Ros2Connect
