import Ros2Connect.Message.VectorMessage

/-!
The part of `PublisherBase` that tells the other node whether there is a ROS
subscriber for the topic.
-/

namespace Ros2Connect

open Lib

structure PublisherBase where
  hasSubscriber : Bool
  subscriberGoneAwayTimePoint : Int
  deriving Repr, DecidableEq

namespace PublisherBase

def start : PublisherBase := ⟨false, 0⟩

/-- One call with the subscription count and the time in nanoseconds it reads:
the publisher afterwards and the value it notifies the other node about. -/
def testForSubscriber (publisher : PublisherBase) (subscriptionCount : Nat) (now : Int) :
    PublisherBase × Option Bool :=
  if publisher.hasSubscriber = true ∧ subscriptionCount = 0 then
    if publisher.subscriberGoneAwayTimePoint = 0 then
      ({ publisher with subscriberGoneAwayTimePoint := now }, none)
    else if now - publisher.subscriberGoneAwayTimePoint ≥ 10000000000 then
      ({ publisher with hasSubscriber := false }, some false)
    else (publisher, none)
  else if publisher.hasSubscriber = true ∧ publisher.subscriberGoneAwayTimePoint > 0 ∧
      subscriptionCount > 0 then
    ({ publisher with subscriberGoneAwayTimePoint := 0 }, none)
  else if publisher.hasSubscriber = false ∧ subscriptionCount > 0 then
    (⟨true, 0⟩, some true)
  else (publisher, none)

/-- `hasSubscriber` is what the last notification said. -/
theorem hasSubscriber_testForSubscriber (publisher : PublisherBase) (subscriptionCount : Nat)
    (now : Int) : (publisher.testForSubscriber subscriptionCount now).1.hasSubscriber =
      (publisher.testForSubscriber subscriptionCount now).2.getD publisher.hasSubscriber := by
  unfold testForSubscriber
  split
  · split
    · rfl
    · split <;> rfl
  · split
    · rfl
    · split <;> rfl

/-- `notifyAboutSubscriber`: the vector it sends. -/
def notifyAboutSubscriber (channel : UInt8) (value : Bool) : Bytes :=
  (VectorMessage.forOpCodeSubscription channel value).combinedVector

theorem fromFlatBuffer_notifyAboutSubscriber (channel : UInt8) (value : Bool) :
    RclMessage.fromFlatBuffer (notifyAboutSubscriber channel value) =
      .ok ⟨OpCode.subscription.toByte, .none, 2, [channel, if value then 1 else 0]⟩ :=
  RclMessage.fromFlatBuffer_uncompressed OpCode.subscription.toByte
    [channel, if value then 1 else 0]

end PublisherBase

end Ros2Connect
