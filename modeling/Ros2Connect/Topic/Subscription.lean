import Ros2Connect.Lib.Transition
import Ros2Connect.Publisher.PublisherBase
import Ros2Connect.Subscriber.SubscriberManager

/-!
The publishers of one node, the subscriber manager of the other and the
connection between them. A publisher tells the other node when its topic gains
or loses ROS subscribers, and the manager there creates or destroys its
subscriber. A call of `testForSubscriber` that notifies the other node is two
steps: it sends the message first and stores `hasSubscriber` afterwards, and the
message may be served in between.
-/

namespace Ros2Connect

open Lib

namespace Subscription

/-- The configurations of the publishing and the subscribing node. -/
structure Config where
  publishing : GlobalConfig
  subscribing : GlobalConfig

structure State where
  publishers : UInt8 → PublisherBase
  /-- What a call that has sent its notification is about to store. -/
  storing : UInt8 → Option PublisherBase
  transport : Transport
  initialised : Bool
  manager : SubscriberManager Unit
  terminated : Option Termination

/-- `test` is a call of `testForSubscriber` with the count and the time it
reads, up to its notification, and `store` the end of a call that has made one;
`sendOther` is anything else the publishing node sends. -/
inductive Label where
  | test (channel : UInt8) (subscriptionCount : Nat) (now : Int)
  | store (channel : UInt8)
  | sendOther (runningInStrand : Bool) (combinedVector : Bytes)
  | runPosted
  | transmit
  | complete
  | receive
  | init
  | take
  | run
  deriving DecidableEq

/-- Whether a frame carries a SUBSCRIPTION message. -/
def isSubscription (combinedVector : Bytes) : Bool :=
  match RclMessage.fromFlatBuffer combinedVector with
  | .ok message => MessageBase.isOpCode message .subscription
  | .error _ => false

namespace State

def start : State where
  publishers := fun _ => .start
  storing := fun _ => none
  transport := .start
  initialised := false
  manager := .start
  terminated := none

/-- A call that makes no notification ends at once. -/
def test (s : State) (channel : UInt8) (subscriptionCount : Nat) (now : Int) : State :=
  match (s.publishers channel).testForSubscriber subscriptionCount now with
  | (tested, none) => { s with publishers := Function.update s.publishers channel tested }
  | (tested, some value) =>
      { s with
        transport := s.transport.send false (PublisherBase.notifyAboutSubscriber channel value)
        storing := Function.update s.storing channel (some tested) }

def store (s : State) (channel : UInt8) : State :=
  match s.storing channel with
  | none => s
  | some tested =>
      { s with
        publishers := Function.update s.publishers channel tested
        storing := Function.update s.storing channel none }

/-- The publisher as it is once the call in progress, if any, has ended. -/
def settling (s : State) (channel : UInt8) : PublisherBase :=
  (s.storing channel).getD (s.publishers channel)

/-- The read handler of the subscribing node. Messages for other managers are
left out. -/
def receive (s : State) : State :=
  match s.transport.wire with
  | [] => s
  | combinedVector :: _ =>
      let received := { s with transport := s.transport.receive }
      match RclMessage.fromFlatBuffer combinedVector with
      | .error fault => { received with terminated := some (.outOfBounds fault) }
      | .ok message =>
          match destination message with
          | .subscriberManager => { received with manager := s.manager.queue ⟨message, ()⟩ }
          | .logger | .serviceActionManager | .publisherManager => received

def run (config : Config) (s : State) : State :=
  match s.manager.run config.subscribing with
  | .error fault => { s with terminated := some (.outOfBounds fault) }
  | .ok manager => { s with manager := manager }

end State

/-- The calls for one publisher are made by one thread. -/
def enabled (config : Config) (s : State) : Label → Bool
  | .test channel _ _ =>
      (topicFor config.publishing.publisher channel).isSome && (s.storing channel).isNone
  | .store channel => (s.storing channel).isSome
  | .sendOther _ combinedVector => !isSubscription combinedVector
  | .runPosted => !s.transport.posted.isEmpty
  | .transmit => s.transport.write == .started
  | .complete => s.transport.write == .transmitted
  | .receive => s.terminated.isNone && !s.transport.wire.isEmpty
  | .init => s.terminated.isNone && !s.initialised
  | .take => s.terminated.isNone && s.initialised && s.manager.message.isNone &&
      !s.manager.toSubscribe.isEmpty
  | .run => s.terminated.isNone && s.initialised && s.manager.message.isSome

def next (config : Config) (s : State) : Label → State
  | .test channel subscriptionCount now => s.test channel subscriptionCount now
  | .store channel => s.store channel
  | .sendOther runningInStrand combinedVector =>
      { s with transport := s.transport.send runningInStrand combinedVector }
  | .runPosted => { s with transport := s.transport.runPosted }
  | .transmit => { s with transport := s.transport.transmit }
  | .complete => { s with transport := s.transport.complete false }
  | .receive => s.receive
  | .init =>
      { s with initialised := true, manager := s.manager.init config.subscribing.subscriber }
  | .take => { s with manager := s.manager.take }
  | .run => s.run config

def connection (config : Config) : Machine State Label where
  start := .start
  enabled := enabled config
  next := next config

/-- The channel and the value of a SUBSCRIPTION message. -/
def notification (message : RclMessage) : Option (UInt8 × Bool) :=
  if MessageBase.isOpCode message .subscription then message.toSubscription.toOption else none

def frameNotification (combinedVector : Bytes) : Option (UInt8 × Bool) :=
  (RclMessage.fromFlatBuffer combinedVector).toOption.bind notification

/-- The notifications the manager has yet to serve, the next one first. -/
def notifications (s : State) : List (UInt8 × Bool) :=
  s.manager.pending.filterMap (fun received => notification received.message) ++
    s.transport.inFlight.filterMap frameNotification

/-- No SUBSCRIPTION message is queued or in flight. -/
structure Quiet (s : State) : Prop where
  inFlight : ∀ combinedVector ∈ s.transport.inFlight, isSubscription combinedVector = false
  pending : ∀ received ∈ s.manager.pending,
    MessageBase.isOpCode received.message .subscription = false

/-- Whether a channel is subscribed once its notifications have been served. -/
def settled (held : Bool) (channel : UInt8) : List (UInt8 × Bool) → Bool
  | [] => held
  | notification :: rest =>
      settled (if notification.1 = channel then notification.2 else held) channel rest

theorem settled_append (held : Bool) (channel : UInt8) (first second : List (UInt8 × Bool)) :
    settled held channel (first ++ second) =
      settled (settled held channel first) channel second := by
  induction first generalizing held with
  | nil => rfl
  | cons notification rest ih => exact ih _

theorem Quiet.notifications_eq_nil {s : State} (h : Quiet s) : notifications s = [] := by
  have hpending : s.manager.pending.filterMap
      (fun received => notification received.message) = [] := by
    rw [List.filterMap_eq_nil_iff]
    intro received hreceived
    simp [notification, h.pending received hreceived]
  have hinFlight : s.transport.inFlight.filterMap frameNotification = [] := by
    rw [List.filterMap_eq_nil_iff]
    intro combinedVector hmem
    have hsilent := h.inFlight combinedVector hmem
    unfold isSubscription at hsilent
    unfold frameNotification
    cases hmessage : RclMessage.fromFlatBuffer combinedVector with
    | error fault => rfl
    | ok message =>
        rw [hmessage] at hsilent
        simp only at hsilent
        simp [Except.toOption, notification, hsilent]
  rw [notifications, hpending, hinFlight, List.append_nil]

variable {config : Config} {s t : State} {label : Label}

/-- The subscribers the manager holds, and what the notifications make of
them. -/
structure Agreement (config : Config) (s : State) : Prop where
  transport : s.transport.Sound
  settles : ∀ channel topic, topicFor config.subscribing.subscriber channel = some topic →
    topic.permanent = false →
      settled (s.manager.subscribers channel).isSome channel (notifications s) =
        (s.settling channel).hasSubscriber
  held : ∀ channel topic, s.manager.subscribers channel = some topic →
    topicFor config.subscribing.subscriber channel = some topic
  permanent : s.initialised = true → ∀ channel topic,
    topicFor config.subscribing.subscriber channel = some topic → topic.permanent = true →
      s.manager.subscribers channel = some topic

theorem Agreement.start : Agreement config .start where
  transport := .start
  settles := fun _ _ _ _ => rfl
  held := nofun
  permanent := nofun

/-- A step that only moves messages along. -/
theorem Agreement.ofMoved (h : Agreement config s) (htransport : t.transport.Sound)
    (hsettling : t.settling = s.settling)
    (hsubscribers : t.manager.subscribers = s.manager.subscribers)
    (hinitialised : t.initialised = s.initialised)
    (hnotifications : notifications t = notifications s) : Agreement config t where
  transport := htransport
  settles := by
    rw [hsettling, hsubscribers, hnotifications]
    exact h.settles
  held := by
    rw [hsubscribers]
    exact h.held
  permanent := by
    rw [hsubscribers, hinitialised]
    exact h.permanent

theorem Agreement.withTransport (h : Agreement config s) {transport : Transport}
    (htransport : transport.Sound) (hinFlight : transport.inFlight.filterMap frameNotification =
      s.transport.inFlight.filterMap frameNotification) :
    Agreement config { s with transport := transport } :=
  h.ofMoved htransport rfl rfl rfl (congrArg (_ ++ ·) hinFlight)

theorem frameNotification_notifyAboutSubscriber (channel : UInt8) (value : Bool) :
    frameNotification (PublisherBase.notifyAboutSubscriber channel value) =
      some (channel, value) := by
  rw [frameNotification, PublisherBase.fromFlatBuffer_notifyAboutSubscriber]
  cases value <;> rfl

theorem settling_of_storing {channel : UInt8} {tested : PublisherBase}
    (h : s.storing channel = some tested) : s.settling channel = tested := by
  rw [State.settling, h]
  rfl

/-- A part of a call of `testForSubscriber`: what it notifies about is what the
call leaves. -/
theorem Agreement.ofCall (h : Agreement config s) (htransport : t.transport.Sound)
    (hmanager : t.manager = s.manager) (hinitialised : t.initialised = s.initialised)
    (notified : List (UInt8 × Bool))
    (hnotifications : notifications t = notifications s ++ notified)
    (hsettling : ∀ channel, settled (s.settling channel).hasSubscriber channel notified =
      (t.settling channel).hasSubscriber) : Agreement config t where
  transport := htransport
  settles := by
    intro channel topic htopic hpermanent
    have hsettled := h.settles channel topic htopic hpermanent
    rw [hmanager, hnotifications, settled_append, hsettled, hsettling]
  held := by
    rw [hmanager]
    exact h.held
  permanent := by
    rw [hmanager, hinitialised]
    exact h.permanent

/-- A call without a notification leaves `hasSubscriber`. -/
theorem Agreement.test_silent (h : Agreement config s) {channel : UInt8}
    (hidle : s.storing channel = none) {tested : PublisherBase}
    (hsame : tested.hasSubscriber = (s.publishers channel).hasSubscriber) :
    Agreement config { s with publishers := Function.update s.publishers channel tested } := by
  refine h.ofCall h.transport rfl rfl [] (List.append_nil _).symm fun other => ?_
  by_cases hchannel : other = channel
  · subst hchannel
    simp [settled, State.settling, hidle, hsame]
  · simp [settled, State.settling, Function.update_of_ne hchannel]

/-- A notification goes behind the others and says what is stored behind it. -/
theorem Agreement.test_notifying (h : Agreement config s) {channel : UInt8}
    {tested : PublisherBase} :
    Agreement config
      { s with
        transport := s.transport.send false
          (PublisherBase.notifyAboutSubscriber channel tested.hasSubscriber)
        storing := Function.update s.storing channel (some tested) } := by
  obtain ⟨hsent, hinFlight⟩ := h.transport.post
    (PublisherBase.notifyAboutSubscriber channel tested.hasSubscriber)
  refine h.ofCall hsent rfl rfl [(channel, tested.hasSubscriber)] ?_ fun other => ?_
  · simp only [notifications, hinFlight, List.filterMap_append, List.append_assoc,
      List.filterMap_cons, List.filterMap_nil, frameNotification_notifyAboutSubscriber]
  · by_cases hchannel : other = channel
    · subst hchannel
      simp [settled, State.settling]
    · simp [settled, State.settling, Function.update_of_ne hchannel, Ne.symm hchannel]

theorem Agreement.test (h : Agreement config s) {channel : UInt8}
    (hidle : s.storing channel = none) (subscriptionCount : Nat) (now : Int) :
    Agreement config (s.test channel subscriptionCount now) := by
  have hvalue := (s.publishers channel).hasSubscriber_testForSubscriber subscriptionCount now
  unfold State.test
  generalize (s.publishers channel).testForSubscriber subscriptionCount now = outcome at hvalue
  obtain ⟨tested, notified⟩ := outcome
  cases notified with
  | none => exact h.test_silent hidle hvalue
  | some value =>
      have hsaid : value = tested.hasSubscriber := hvalue.symm
      subst hsaid
      exact h.test_notifying

/-- The end of a call stores what its notification said. -/
theorem Agreement.store (h : Agreement config s) (channel : UInt8) :
    Agreement config (s.store channel) := by
  unfold State.store
  cases hstoring : s.storing channel with
  | none => exact h
  | some tested =>
      refine h.ofCall h.transport rfl rfl [] (List.append_nil _).symm fun other => ?_
      by_cases hchannel : other = channel
      · subst hchannel
        simp [settled, State.settling, hstoring]
      · simp [settled, State.settling, Function.update_of_ne hchannel]

/-- What the read handler does with the next message. -/
theorem receive_cases {combinedVector : Bytes} {rest : List Bytes}
    (hwire : s.transport.wire = combinedVector :: rest) :
    (∃ fault, RclMessage.fromFlatBuffer combinedVector = .error fault ∧
      s.receive = { s with
        transport := s.transport.receive
        terminated := some (.outOfBounds fault) }) ∨
    ∃ message, RclMessage.fromFlatBuffer combinedVector = .ok message ∧
      ((MessageBase.isOpCode message .subscription = true ∧
        s.receive = { s with
          transport := s.transport.receive
          manager := s.manager.queue ⟨message, ()⟩ }) ∨
      (MessageBase.isOpCode message .subscription = false ∧
        s.receive = { s with transport := s.transport.receive })) := by
  unfold State.receive
  cases hmessage : RclMessage.fromFlatBuffer combinedVector with
  | error fault => exact Or.inl ⟨fault, rfl, by simp only [hwire, hmessage]⟩
  | ok message =>
      refine Or.inr ⟨message, rfl, ?_⟩
      have hiff := destination_eq_subscriberManager message
      cases hdestination : destination message with
      | subscriberManager =>
          exact Or.inl ⟨hiff.mp hdestination, by simp only [hwire, hmessage, hdestination]⟩
      | logger | serviceActionManager | publisherManager =>
          refine Or.inr ⟨?_, by simp only [hwire, hmessage, hdestination]⟩
          rw [← Bool.not_eq_true, ← hiff, hdestination]
          nofun

/-- A message that arrives keeps its place among the notifications. -/
theorem Agreement.receive (h : Agreement config s) : Agreement config s.receive := by
  cases hwire : s.transport.wire with
  | nil => simpa [State.receive, hwire] using h
  | cons combinedVector rest =>
      have hinFlight := Transport.inFlight_receive hwire
      have hdropped (hsilent : frameNotification combinedVector = none) :
          s.transport.receive.inFlight.filterMap frameNotification =
            s.transport.inFlight.filterMap frameNotification := by
        rw [hinFlight, List.filterMap_cons_none hsilent]
      rcases receive_cases hwire with ⟨fault, hmessage, heq⟩ | ⟨message, hmessage, hcase⟩
      · rw [heq]
        refine h.ofMoved h.transport.receive rfl rfl rfl (congrArg (_ ++ ·) (hdropped ?_))
        simp [frameNotification, hmessage, Except.toOption]
      · have hframe : frameNotification combinedVector = notification message := by
          simp [frameNotification, hmessage, Except.toOption]
        rcases hcase with ⟨-, heq⟩ | ⟨hother, heq⟩
        · rw [heq]
          refine h.ofMoved h.transport.receive rfl rfl rfl ?_
          simp only [notifications, SubscriberManager.pending_queue, hinFlight,
            List.filterMap_append, List.append_assoc]
          cases hnotification : notification message with
          | none => simp [hnotification, hframe]
          | some notified => simp [hnotification, hframe]
        · rw [heq]
          refine h.withTransport h.transport.receive (hdropped ?_)
          simp [hframe, notification, hother]

/-- The permanent subscribers are created, and no other. -/
theorem Agreement.init (h : Agreement config s) :
    Agreement config
      { s with
        initialised := true
        manager := s.manager.init config.subscribing.subscriber } := by
  have hsubscribers (channel : UInt8) :=
    s.manager.init_subscribers config.subscribing channel
  refine { h with settles := ?_, held := ?_, permanent := ?_ }
  · intro channel topic htopic hpermanent
    rw [hsubscribers, htopic, Option.filter_some_neg (by simp [hpermanent]), Option.or_none]
    exact h.settles channel topic htopic hpermanent
  · intro channel topic htopic
    rw [hsubscribers] at htopic
    rcases Option.or_eq_some_iff.mp htopic with hold | ⟨-, hnew⟩
    · exact h.held channel topic hold
    · exact (Option.filter_eq_some_iff.mp hnew).1
  · intro _ channel topic htopic hpermanent
    rw [hsubscribers, htopic, Option.filter_some_pos hpermanent]
    cases hold : s.manager.subscribers channel with
    | none => rfl
    | some old =>
        have hsame := h.held channel old hold
        rw [htopic] at hsame
        cases hsame
        rfl

/-- Serving a notification does what it says. -/
theorem Agreement.serves (h : Agreement config s) {manager : SubscriberManager Unit}
    {channel : UInt8} {value : Bool}
    (hnotifications : notifications s =
      (channel, value) :: notifications { s with manager := manager })
    (hserves : SubscriberManager.Serves config.subscribing s.manager.done channel value ()
      manager) :
    Agreement config { s with manager := manager } := by
  refine { h with settles := ?_, held := ?_, permanent := ?_ }
  · intro other topic htopic hpermanent
    have hsettled := h.settles other topic htopic hpermanent
    rw [hnotifications, settled] at hsettled
    refine Eq.trans ?_ hsettled
    by_cases hchannel : channel = other
    · subst hchannel
      rw [hserves.isSome_subscribers htopic hpermanent, if_pos rfl]
    · rw [hserves.subscribers_of_ne (Ne.symm hchannel), if_neg hchannel]
      rfl
  · intro other topic htopic
    by_cases hchannel : other = channel
    · subst hchannel
      rcases hserves.subscribers_eq_some htopic with hold | hnew
      · exact h.held other topic hold
      · exact hnew
    · rw [hserves.subscribers_of_ne hchannel] at htopic
      exact h.held other topic htopic
  · intro hinitialised other topic htopic hpermanent
    have hheld := h.permanent hinitialised other topic htopic hpermanent
    by_cases hchannel : other = channel
    · subst hchannel
      exact hserves.subscribers_permanent htopic hpermanent hheld
    · rw [hserves.subscribers_of_ne hchannel]
      exact hheld

theorem Agreement.run (h : Agreement config s) : Agreement config (s.run config) := by
  unfold State.run
  cases hrun : s.manager.run config.subscribing with
  | error fault => exact h.ofMoved h.transport rfl rfl rfl rfl
  | ok manager =>
      cases hmessage : s.manager.message with
      | none =>
          simp only [SubscriberManager.run, hmessage] at hrun
          cases hrun
          exact h
      | some received =>
          have hpending : s.manager.pending = received :: s.manager.done.pending := by
            simp [SubscriberManager.pending, hmessage, SubscriberManager.done]
          rcases SubscriberManager.run_serves hmessage hrun with
            ⟨hother, rfl⟩ | ⟨hsubscription, channel, value, hvalue, hserves⟩
          · refine h.ofMoved h.transport rfl rfl rfl ?_
            simp [notifications, hpending, notification, hother]
          · have hnotification : notification received.message = some (channel, value) := by
              simp [notification, hsubscription, hvalue, Except.toOption]
            have hnotifications : notifications s = (channel, value) ::
                notifications { s with manager := manager } := by
              simp [notifications, hpending, hnotification, hserves.pending_eq]
            exact h.serves hnotifications hserves

theorem Agreement.take (h : Agreement config s) (hmessage : s.manager.message = none) :
    Agreement config { s with manager := s.manager.take } := by
  obtain ⟨hpending, hsubscribers, -, -⟩ := s.manager.take_spec hmessage
  refine h.ofMoved h.transport rfl hsubscribers rfl ?_
  simp only [notifications, hpending]

/-- Other messages may overtake the posted ones, but are no notifications. -/
theorem Agreement.sendOther (h : Agreement config s) (runningInStrand : Bool)
    {combinedVector : Bytes} (hother : isSubscription combinedVector = false) :
    Agreement config
      { s with transport := s.transport.send runningInStrand combinedVector } := by
  have hsilent : frameNotification combinedVector = none := by
    unfold isSubscription at hother
    unfold frameNotification
    cases hmessage : RclMessage.fromFlatBuffer combinedVector with
    | error fault => rfl
    | ok message =>
        rw [hmessage] at hother
        simp only at hother
        simp [Except.toOption, notification, hother]
  exact h.withTransport (h.transport.send _ _) (h.transport.filterMap_send _ _ hsilent)

/-- What one step keeps. -/
theorem Agreement.next (h : Agreement config s) (henabled : enabled config s label = true) :
    Agreement config (next config s label) := by
  cases label with
  | test channel subscriptionCount now =>
      simp only [enabled, Bool.and_eq_true, Option.isNone_iff_eq_none] at henabled
      exact h.test henabled.2 subscriptionCount now
  | store channel => exact h.store channel
  | sendOther runningInStrand combinedVector =>
      exact h.sendOther runningInStrand (by simpa [enabled] using henabled)
  | runPosted =>
      exact h.withTransport h.transport.runPosted.1 (by rw [h.transport.runPosted.2])
  | transmit => exact h.withTransport h.transport.transmit.1 (by rw [h.transport.transmit.2])
  | complete =>
      obtain ⟨hsound, hinFlight⟩ := h.transport.complete (by simpa [enabled] using henabled)
      exact h.withTransport hsound (by rw [hinFlight])
  | receive => exact h.receive
  | init => exact h.init
  | take =>
      simp only [enabled, Bool.and_eq_true, Option.isNone_iff_eq_none] at henabled
      exact h.take henabled.1.2
  | run => exact h.run

/-- While no SUBSCRIPTION message is queued or in flight, a topic that is not
permanent has a subscriber exactly if its publisher has one, or will have one
once the call in progress has stored what it has sent. From `init` on a permanent
topic has its subscriber, and no other channel has one. -/
theorem subscribers_agree (config : Config) (s : State)
    (h : (connection config).Reachable s) :
    (Quiet s → ∀ channel topic,
      topicFor config.subscribing.subscriber channel = some topic → topic.permanent = false →
        (s.storing channel = none →
          ((s.manager.subscribers channel).isSome = true ↔
            (s.publishers channel).hasSubscriber = true)) ∧
        ∀ tested, s.storing channel = some tested →
          ((s.manager.subscribers channel).isSome = true ↔ tested.hasSubscriber = true)) ∧
    (s.initialised = true → ∀ channel topic,
      topicFor config.subscribing.subscriber channel = some topic → topic.permanent = true →
        ∃! subscriber, s.manager.subscribers channel = some subscriber) ∧
    (∀ channel, topicFor config.subscribing.subscriber channel = none →
      s.manager.subscribers channel = none) := by
  have hagreement : Agreement config s := h.invariant (Agreement config) .start
    (fun _ _ hinv henabled _ => hinv.next henabled)
  refine ⟨?_, ?_, ?_⟩
  · intro hquiet channel topic htopic hpermanent
    have hsettled := hagreement.settles channel topic htopic hpermanent
    rw [hquiet.notifications_eq_nil, settled] at hsettled
    refine ⟨fun hidle => ?_, fun tested hstoring => ?_⟩
    · rw [hsettled, State.settling, hidle]
      rfl
    · rw [hsettled, settling_of_storing hstoring]
  · intro hinitialised channel topic htopic hpermanent
    have hheld := hagreement.permanent hinitialised channel topic htopic hpermanent
    exact ⟨topic, hheld, fun other hother => Option.some.inj (hother.symm.trans hheld)⟩
  · intro channel hunknown
    cases hheld : s.manager.subscribers channel with
    | none => rfl
    | some topic =>
        have hfound := hagreement.held channel topic hheld
        rw [hunknown] at hfound
        cases hfound

private theorem publishingConfig_checked :
    GlobalConfig.Checked [⟨7, false, false, ⟨.none, 0⟩⟩] [] :=
  ⟨by decide, by decide, by decide, by decide⟩

private def publishingConfig : GlobalConfig :=
  .ofChecked _ _ false publishingConfig_checked

private theorem subscribingConfig_checked :
    GlobalConfig.Checked [] [⟨7, false, false, ⟨.none, 0⟩⟩, ⟨8, true, true, ⟨.zlib, 6⟩⟩] :=
  ⟨by decide, by decide, by decide, by decide⟩

private def subscribingConfig : GlobalConfig :=
  .ofChecked _ _ false subscribingConfig_checked

/-- A topic that has gained a ROS subscriber, next to a permanent one. -/
theorem subscribers_agree_gained :
    ∃ s : State, (s.publishers 7).hasSubscriber = true ∧
      ((s.manager.subscribers 7).isSome = true ↔ (s.publishers 7).hasSubscriber = true) ∧
      (∃! subscriber, s.manager.subscribers 8 = some subscriber) ∧
      s.manager.subscribers 9 = none := by
  have hrun : ∃ s : State, (connection ⟨publishingConfig, subscribingConfig⟩).Reachable s ∧
      (s.transport.inFlight = [] ∧ s.manager.pending = [] ∧ s.initialised = true ∧
        s.storing 7 = none ∧ (s.publishers 7).hasSubscriber = true) :=
    Machine.exists_reachable (fun s : State => s.transport.inFlight = [] ∧
      s.manager.pending = [] ∧ s.initialised = true ∧ s.storing 7 = none ∧
        (s.publishers 7).hasSubscriber = true)
      [.init, .test 7 1 5, .runPosted, .store 7, .transmit, .complete, .receive, .take, .run]
      (by decide)
  obtain ⟨s, hreachable, hinFlight, hpending, hinitialised, hidle, hpublisher⟩ := hrun
  obtain ⟨hagree, hpermanent, hunknown⟩ :=
    subscribers_agree ⟨publishingConfig, subscribingConfig⟩ s hreachable
  have hquiet : Quiet s := ⟨by simp [hinFlight], by simp [hpending]⟩
  exact ⟨s, hpublisher, (hagree hquiet 7 _ rfl rfl).1 hidle, hpermanent hinitialised 8 _ rfl rfl,
    hunknown 9 rfl⟩

/-- The message is served before the call that has sent it stores
`hasSubscriber`. -/
theorem subscribers_agree_storing :
    ¬ ∀ (config : Config) (s : State), (connection config).Reachable s → Quiet s →
      ∀ channel topic, topicFor config.subscribing.subscriber channel = some topic →
        topic.permanent = false →
          ((s.manager.subscribers channel).isSome = true ↔
            (s.publishers channel).hasSubscriber = true) := by
  intro hall
  obtain ⟨s, hreachable, hinFlight, hpending, hheld, hpublisher⟩ :=
    Machine.exists_reachable (M := connection ⟨publishingConfig, subscribingConfig⟩)
      (fun s : State => s.transport.inFlight = [] ∧ s.manager.pending = [] ∧
        (s.manager.subscribers 7).isSome = true ∧ (s.publishers 7).hasSubscriber = false)
      [.init, .test 7 1 5, .runPosted, .transmit, .complete, .receive, .take, .run] (by decide)
  have hquiet : Quiet s := ⟨by simp [hinFlight], by simp [hpending]⟩
  have hagree := hall ⟨publishingConfig, subscribingConfig⟩ s hreachable hquiet 7 _ rfl rfl
  exact absurd (hagree.mp hheld) (by simp [hpublisher])

end Subscription

end Ros2Connect
