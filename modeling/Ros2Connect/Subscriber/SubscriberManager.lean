import Ros2Connect.Connection.ConnectionBase
import Ros2Connect.GlobalConfig
import Ros2Connect.Lib.KeyMap

/-!
`SubscriberManager`: the subscribers it holds and the loop that creates and
destroys them as the other node asks for. `changes` logs what the loop did.
-/

namespace Ros2Connect

open Lib

/-- What a message made the loop do. -/
inductive Change where
  | subscribed (channel : UInt8)
  | unsubscribed (channel : UInt8)
  | clockStarted
  | clockStopped
  deriving Repr, DecidableEq

structure SubscriberManager (τ : Type) where
  subscribers : KeyMap UInt8 Topic
  toSubscribe : List (Tagged τ)
  message : Option (Tagged τ)
  /-- `timerRunning` of the clock subscriber. -/
  timerRunning : Bool
  changes : List (Change × τ)

namespace SubscriberManager

variable {τ : Type}

def start : SubscriberManager τ where
  subscribers := KeyMap.empty
  toSubscribe := []
  message := none
  timerRunning := false
  changes := []

/-- Every permanent subscriber is created. -/
def init (manager : SubscriberManager τ) (subscriber : List Topic) : SubscriberManager τ :=
  { manager with
    subscribers := manager.subscribers.insertAll Topic.channel
      (subscriber.filter Topic.permanent) }

/-- `subscribe(message)`, called by the connection. -/
def queue (manager : SubscriberManager τ) (received : Tagged τ) : SubscriberManager τ :=
  { manager with toSubscribe := manager.toSubscribe ++ [received] }

/-- `onStopThread`: every subscriber is destroyed and the clock stopped. -/
def onStopThread (manager : SubscriberManager τ) : SubscriberManager τ :=
  { manager with subscribers := KeyMap.empty, message := none, timerRunning := false }

/-- `run` takes the next message. -/
def take (manager : SubscriberManager τ) : SubscriberManager τ :=
  match manager.toSubscribe with
  | [] => manager
  | received :: rest => { manager with toSubscribe := rest, message := some received }

/-- `run` is done with its message. -/
def done (manager : SubscriberManager τ) : SubscriberManager τ :=
  { manager with message := none }

def log (manager : SubscriberManager τ) (change : Change) (tag : τ) : SubscriberManager τ :=
  { manager with changes := manager.changes ++ [(change, tag)] }

def subscribe (manager : SubscriberManager τ) (topic : Topic) : SubscriberManager τ :=
  { manager with subscribers := manager.subscribers.insert topic.channel topic }

def unsubscribe (manager : SubscriberManager τ) (channel : UInt8) : SubscriberManager τ :=
  { manager with subscribers := manager.subscribers.erase channel }

/-- `ClockSubscriber::start`. -/
def clockStart (manager : SubscriberManager τ) (tag : τ) : SubscriberManager τ :=
  { manager with timerRunning := true }.log .clockStarted tag

/-- `ClockSubscriber::stop`, which has nothing to stop unless the timer runs. -/
def clockStop (manager : SubscriberManager τ) (tag : τ) : SubscriberManager τ :=
  if manager.timerRunning then
    { manager with timerRunning := false }.log .clockStopped tag
  else manager

/-- `run` with a request for a topic of the configuration. -/
def request (manager : SubscriberManager τ) (topic : Topic) (value : Bool) (tag : τ) :
    SubscriberManager τ :=
  match manager.subscribers topic.channel, value with
  | some _, true => manager
  | none, true => (manager.subscribe topic).log (.subscribed topic.channel) tag
  | none, false => manager
  | some _, false =>
      if topic.permanent then manager
      else (manager.unsubscribe topic.channel).log (.unsubscribed topic.channel) tag

/-- `run` with the channel and the value of its message. -/
def runSubscription (config : GlobalConfig) (manager : SubscriberManager τ)
    (channel : UInt8) (value : Bool) (tag : τ) : SubscriberManager τ :=
  if channel = OpCode.clock.toByte then
    if config.subscribeClock then
      if value then manager.clockStart tag else manager.clockStop tag
    else manager
  else
    match topicFor config.subscriber channel with
    | none => manager
    | some topic => manager.request topic value tag

/-- `run` with the message it has taken. -/
def run (config : GlobalConfig) (manager : SubscriberManager τ) :
    Except Fault (SubscriberManager τ) :=
  match manager.message with
  | none => .ok manager
  | some received =>
      if MessageBase.isOpCode received.message .subscription then do
        let (channel, value) ← received.message.toSubscription
        return manager.done.runSubscription config channel value received.tag
      else .ok manager.done

theorem init_subscribers (manager : SubscriberManager τ) (config : GlobalConfig)
    (channel : UInt8) : (manager.init config.subscriber).subscribers channel =
      (manager.subscribers channel).or
        ((topicFor config.subscriber channel).filter Topic.permanent) := by
  have hinsert := KeyMap.insertAll_apply Topic.channel manager.subscribers
    (config.subscriber.filter Topic.permanent) channel
  refine hinsert.trans (congrArg (Option.or _) ?_)
  cases htopic : topicFor config.subscriber channel with
  | none =>
      rw [topicFor, List.find?_eq_none] at htopic
      rw [Option.filter_none, List.find?_eq_none]
      exact fun topic hmem => htopic topic (List.mem_of_mem_filter hmem)
  | some topic =>
      obtain ⟨hmem, hchannel⟩ := topicFor_eq_some htopic
      -- distinct channels leave one candidate, whatever the filter drops
      have honly : ∀ other ∈ config.subscriber, other.channel = channel → other = topic := by
        intro other hother hsame
        have hfound := topicFor_channel config.subscriber_nodup hother
        rw [hsame, htopic] at hfound
        exact (Option.some.inj hfound).symm
      cases hpermanent : topic.permanent with
      | true =>
          have hfound := topicFor_channel (config.subscriber_nodup.sublist
            ((List.filter_sublist (p := Topic.permanent)).map _))
            (List.mem_filter.mpr ⟨hmem, hpermanent⟩)
          rw [hchannel] at hfound
          rw [Option.filter_some_pos hpermanent]
          exact hfound
      | false =>
          rw [Option.filter_some_neg (by simp [hpermanent]), List.find?_eq_none]
          intro other hother hsame
          obtain ⟨hin, hother⟩ := List.mem_filter.mp hother
          rw [honly other hin (by simpa using hsame), hpermanent] at hother
          cases hother

/-- What `run` does with a channel and a value. -/
inductive Serves (config : GlobalConfig) (manager : SubscriberManager τ) (channel : UInt8)
    (value : Bool) (tag : τ) : SubscriberManager τ → Prop where
  | clockStarted : channel = OpCode.clock.toByte → config.subscribeClock = true →
      value = true → Serves config manager channel value tag (manager.clockStart tag)
  | clockStopped : channel = OpCode.clock.toByte → value = false →
      Serves config manager channel value tag (manager.clockStop tag)
  | clockIgnored : channel = OpCode.clock.toByte → config.subscribeClock = false →
      Serves config manager channel value tag manager
  | unknown : channel ≠ OpCode.clock.toByte → topicFor config.subscriber channel = none →
      Serves config manager channel value tag manager
  | unchanged (topic : Topic) : channel ≠ OpCode.clock.toByte →
      topicFor config.subscriber channel = some topic →
      (manager.subscribers channel).isSome = value →
      Serves config manager channel value tag manager
  | permanent (topic : Topic) : channel ≠ OpCode.clock.toByte →
      topicFor config.subscriber channel = some topic → topic.permanent = true →
      value = false → Serves config manager channel value tag manager
  | subscribed (topic : Topic) : channel ≠ OpCode.clock.toByte →
      topicFor config.subscriber channel = some topic →
      manager.subscribers channel = none → value = true →
      Serves config manager channel value tag
        ((manager.subscribe topic).log (.subscribed topic.channel) tag)
  | unsubscribed (topic : Topic) : channel ≠ OpCode.clock.toByte →
      topicFor config.subscriber channel = some topic →
      (manager.subscribers channel).isSome = true → topic.permanent = false →
      value = false →
      Serves config manager channel value tag
        ((manager.unsubscribe topic.channel).log (.unsubscribed topic.channel) tag)

theorem runSubscription_serves (config : GlobalConfig) (manager : SubscriberManager τ)
    (channel : UInt8) (value : Bool) (tag : τ) :
    Serves config manager channel value tag
      (manager.runSubscription config channel value tag) := by
  unfold runSubscription
  by_cases hclock : channel = OpCode.clock.toByte
  · rw [if_pos hclock]
    cases hsubscribe : config.subscribeClock with
    | false => exact .clockIgnored hclock hsubscribe
    | true =>
        cases value with
        | true => exact .clockStarted hclock hsubscribe rfl
        | false => exact .clockStopped hclock rfl
  · rw [if_neg hclock]
    cases htopic : topicFor config.subscriber channel with
    | none => exact .unknown hclock htopic
    | some topic =>
        obtain rfl := (topicFor_eq_some htopic).2
        simp only [request]
        cases hheld : manager.subscribers topic.channel with
        | none =>
            cases value with
            | true => exact .subscribed topic hclock htopic hheld rfl
            | false => exact .unchanged topic hclock htopic (by simp [hheld])
        | some held =>
            cases value with
            | true => exact .unchanged topic hclock htopic (by simp [hheld])
            | false =>
                cases hpermanent : topic.permanent with
                | true => exact .permanent topic hclock htopic hpermanent rfl
                | false =>
                    exact .unsubscribed topic hclock htopic (by simp [hheld]) hpermanent rfl

/-- `run` drops a message that is no request, and serves one that is. -/
theorem run_serves {config : GlobalConfig} {manager next : SubscriberManager τ}
    {received : Tagged τ} (h : manager.message = some received)
    (hrun : manager.run config = .ok next) :
    (MessageBase.isOpCode received.message .subscription = false ∧ next = manager.done) ∨
    (MessageBase.isOpCode received.message .subscription = true ∧
      ∃ channel value, received.message.toSubscription = .ok (channel, value) ∧
        Serves config manager.done channel value received.tag next) := by
  unfold run at hrun
  simp only [h] at hrun
  cases hopCode : MessageBase.isOpCode received.message .subscription with
  | false =>
      rw [if_neg (by simp [hopCode])] at hrun
      cases hrun
      exact Or.inl ⟨rfl, rfl⟩
  | true =>
      rw [if_pos hopCode] at hrun
      cases hsubscription : received.message.toSubscription with
      | error fault =>
          rw [hsubscription] at hrun
          cases hrun
      | ok subscription =>
          obtain ⟨channel, value⟩ := subscription
          rw [hsubscription] at hrun
          cases hrun
          exact Or.inr ⟨rfl, channel, value, rfl, runSubscription_serves _ _ _ _ _⟩

/-- The messages the manager has yet to serve, the next one first. -/
def pending (manager : SubscriberManager τ) : List (Tagged τ) :=
  manager.message.toList ++ manager.toSubscribe

/-- Serving a message leaves those that wait alone. -/
theorem Serves.pending_eq {config : GlobalConfig} {manager next : SubscriberManager τ}
    {channel : UInt8} {value : Bool} {tag : τ}
    (h : Serves config manager channel value tag next) : next.pending = manager.pending := by
  cases h with
  | clockStopped =>
      unfold clockStop
      split <;> rfl
  | _ => rfl

/-- What serving a message does to the subscribers: the one of its channel is
there or not as the value says, and every other is left alone. -/
theorem Serves.subscribers {config : GlobalConfig} {manager next : SubscriberManager τ}
    {channel : UInt8} {value : Bool} {tag : τ}
    (h : Serves config manager channel value tag next) :
    (next.subscribers = manager.subscribers ∧ ∀ topic,
      topicFor config.subscriber channel = some topic → topic.permanent = false →
        (manager.subscribers channel).isSome = value) ∨
    ∃ topic, topicFor config.subscriber channel = some topic ∧
      ((value = true ∧ manager.subscribers channel = none ∧
        next.subscribers = Function.update manager.subscribers channel (some topic)) ∨
      (value = false ∧ topic.permanent = false ∧
        next.subscribers = Function.update manager.subscribers channel none)) := by
  have hclock : channel = OpCode.clock.toByte → ∀ topic,
      topicFor config.subscriber channel ≠ some topic := by
    rintro rfl topic htopic
    obtain ⟨hmem, hchannel⟩ := topicFor_eq_some htopic
    exact config.subscriber_ne_clock hmem hchannel
  cases h with
  | clockStarted heq | clockIgnored heq =>
      exact Or.inl ⟨rfl, fun topic htopic => absurd htopic (hclock heq topic)⟩
  | clockStopped heq =>
      refine Or.inl ⟨?_, fun topic htopic => absurd htopic (hclock heq topic)⟩
      unfold clockStop
      split <;> rfl
  | unknown hother hunknown =>
      refine Or.inl ⟨rfl, fun topic htopic => ?_⟩
      rw [hunknown] at htopic
      cases htopic
  | unchanged topic hother htopic hheld => exact Or.inl ⟨rfl, fun _ _ _ => hheld⟩
  | permanent topic hother htopic hpermanent =>
      refine Or.inl ⟨rfl, fun other hsame hnot => ?_⟩
      rw [htopic] at hsame
      cases hsame
      rw [hpermanent] at hnot
      cases hnot
  | subscribed topic hother htopic hheld hvalue =>
      obtain rfl := (topicFor_eq_some htopic).2
      exact Or.inr ⟨topic, htopic, Or.inl ⟨hvalue, hheld, KeyMap.insert_of_none hheld topic⟩⟩
  | unsubscribed topic hother htopic hheld hpermanent hvalue =>
      obtain rfl := (topicFor_eq_some htopic).2
      exact Or.inr ⟨topic, htopic, Or.inr ⟨hvalue, hpermanent, rfl⟩⟩

theorem Serves.subscribers_of_ne {config : GlobalConfig} {manager next : SubscriberManager τ}
    {channel other : UInt8} {value : Bool} {tag : τ}
    (h : Serves config manager channel value tag next) (hother : other ≠ channel) :
    next.subscribers other = manager.subscribers other := by
  rcases h.subscribers with ⟨heq, -⟩ | ⟨topic, -, ⟨-, -, heq⟩ | ⟨-, -, heq⟩⟩
  · rw [heq]
  · rw [heq, Function.update_of_ne hother]
  · rw [heq, Function.update_of_ne hother]

/-- A topic that is not permanent has a subscriber as the value says. -/
theorem Serves.isSome_subscribers {config : GlobalConfig} {manager next : SubscriberManager τ}
    {channel : UInt8} {value : Bool} {tag : τ} {topic : Topic}
    (h : Serves config manager channel value tag next)
    (htopic : topicFor config.subscriber channel = some topic)
    (hpermanent : topic.permanent = false) : (next.subscribers channel).isSome = value := by
  rcases h.subscribers with ⟨heq, hsame⟩ | ⟨found, -, ⟨rfl, -, heq⟩ | ⟨rfl, -, heq⟩⟩
  · rw [heq]
    exact hsame topic htopic hpermanent
  · rw [heq, Function.update_self]
    rfl
  · rw [heq, Function.update_self]
    rfl

/-- A new subscriber is one of the configuration. -/
theorem Serves.subscribers_eq_some {config : GlobalConfig}
    {manager next : SubscriberManager τ} {channel : UInt8} {value : Bool} {tag : τ}
    {topic : Topic} (h : Serves config manager channel value tag next)
    (hheld : next.subscribers channel = some topic) :
    manager.subscribers channel = some topic ∨
      topicFor config.subscriber channel = some topic := by
  rcases h.subscribers with ⟨heq, -⟩ | ⟨found, hfound, ⟨-, -, heq⟩ | ⟨-, -, heq⟩⟩
  · exact Or.inl (heq ▸ hheld)
  · rw [heq, Function.update_self] at hheld
    exact Or.inr (hfound.trans hheld)
  · rw [heq, Function.update_self] at hheld
    cases hheld

/-- A permanent subscriber stays. -/
theorem Serves.subscribers_permanent {config : GlobalConfig}
    {manager next : SubscriberManager τ} {channel : UInt8} {value : Bool} {tag : τ}
    {topic : Topic} (h : Serves config manager channel value tag next)
    (htopic : topicFor config.subscriber channel = some topic)
    (hpermanent : topic.permanent = true)
    (hheld : manager.subscribers channel = some topic) :
    next.subscribers channel = some topic := by
  rcases h.subscribers with ⟨heq, -⟩ | ⟨found, hfound, ⟨-, hnone, -⟩ | ⟨-, hnot, -⟩⟩
  · rw [heq]
    exact hheld
  · cases hheld.symm.trans hnone
  · cases htopic.symm.trans hfound
    cases hpermanent.symm.trans hnot

@[simp] theorem pending_queue (manager : SubscriberManager τ) (received : Tagged τ) :
    (manager.queue received).pending = manager.pending ++ [received] := by
  simp [pending, queue]

/-- Taking a message only moves it. -/
theorem take_spec (manager : SubscriberManager τ) (h : manager.message = none) :
    manager.take.pending = manager.pending ∧
      manager.take.subscribers = manager.subscribers ∧
      manager.take.timerRunning = manager.timerRunning ∧
      manager.take.changes = manager.changes := by
  unfold take
  cases hqueue : manager.toSubscribe with
  | nil => exact ⟨rfl, rfl, rfl, rfl⟩
  | cons received rest => simp [pending, h, hqueue]

/-- A message that creates no subscriber and does not start the clock. -/
def Ineffective (config : GlobalConfig) (message : RclMessage) : Prop :=
  ∀ channel, message.toSubscription = .ok (channel, true) →
    (channel = OpCode.clock.toByte → config.subscribeClock = false) ∧
    (channel ≠ OpCode.clock.toByte → ∀ topic,
      topicFor config.subscriber channel = some topic → topic.permanent = true)

/-- While a marked message waits, nothing but the permanent topics is
subscribed. -/
structure Initial (config : GlobalConfig) (manager : SubscriberManager τ) : Prop where
  timerRunning : manager.timerRunning = false
  subscribers : ∀ channel, manager.subscribers channel =
    (topicFor config.subscriber channel).filter Topic.permanent

/-- The manager changes nothing for the messages its predicate marks: those it
holds are ineffective, and served before all others. -/
structure Withholds (config : GlobalConfig) (marked : τ → Prop)
    (manager : SubscriberManager τ) : Prop where
  ineffective : ∀ received ∈ manager.pending, marked received.tag →
    Ineffective config received.message
  order : manager.pending.Pairwise fun first second => marked second.tag → marked first.tag
  changes : ∀ change ∈ manager.changes, ¬ marked change.2

namespace Withholds

variable {config : GlobalConfig} {marked : τ → Prop} {manager next : SubscriberManager τ}

theorem queue (h : manager.Withholds config marked) {received : Tagged τ}
    (hreceived : ¬ marked received.tag) : (manager.queue received).Withholds config marked := by
  have hpending := manager.pending_queue received
  refine ⟨?_, ?_, h.changes⟩
  · intro queued hqueued hmarked
    rw [hpending] at hqueued
    rcases List.mem_append.mp hqueued with hold | hnew
    · exact h.ineffective queued hold hmarked
    · obtain rfl := List.mem_singleton.mp hnew
      exact absurd hmarked hreceived
  · rw [hpending, List.pairwise_append]
    refine ⟨h.order, List.pairwise_singleton _ _, ?_⟩
    intro first _ second hsecond hmarked
    obtain rfl := List.mem_singleton.mp hsecond
    exact absurd hmarked hreceived

theorem take (h : manager.Withholds config marked) (hmessage : manager.message = none) :
    manager.take.Withholds config marked := by
  obtain ⟨hpending, -, -, hchanges⟩ := manager.take_spec hmessage
  exact ⟨hpending ▸ h.ineffective, hpending ▸ h.order, hchanges ▸ h.changes⟩

/-- Messages that are dropped keep the others in order. -/
theorem ofSublist (h : manager.Withholds config marked)
    (hpending : next.pending.Sublist manager.pending)
    (hchanges : ∀ change ∈ next.changes, ¬ marked change.2) :
    next.Withholds config marked where
  ineffective := fun received hreceived =>
    h.ineffective received (hpending.subset hreceived)
  order := h.order.sublist hpending
  changes := hchanges

end Withholds

/-- A step of the loop that serves a message changes nothing for a marked
one. -/
theorem Serves.unmarked {config : GlobalConfig} {marked : τ → Prop}
    {manager next : SubscriberManager τ} {received : Tagged τ} {channel : UInt8}
    {value : Bool} (hserves : Serves config manager channel value received.tag next)
    (hineffective : marked received.tag → Ineffective config received.message)
    (hinitial : marked received.tag → manager.Initial config)
    (hsubscription : received.message.toSubscription = .ok (channel, value)) :
    next = manager ∨ (¬ marked received.tag ∧
      ∃ change, next.changes = manager.changes ++ [(change, received.tag)] ∧
        next.pending = manager.pending) := by
  by_cases hmarked : marked received.tag
  · have hstart := hinitial hmarked
    have hnothing := hineffective hmarked channel
    left
    cases hserves with
    | clockIgnored | unknown | unchanged | permanent => rfl
    | clockStarted hclock hsubscribe hvalue =>
        subst hvalue
        rw [(hnothing hsubscription).1 hclock] at hsubscribe
        cases hsubscribe
    | clockStopped => simp [clockStop, hstart.timerRunning]
    | subscribed topic hclock htopic hheld hvalue =>
        subst hvalue
        have hpermanent := (hnothing hsubscription).2 hclock topic htopic
        rw [hstart.subscribers, htopic, Option.filter_some_pos hpermanent] at hheld
        cases hheld
    | unsubscribed topic hclock htopic hheld hpermanent hvalue =>
        rw [hstart.subscribers, htopic, Option.filter_some_neg (by simp [hpermanent])] at hheld
        cases hheld
  · cases hserves with
    | clockIgnored | unknown | unchanged | permanent => exact Or.inl rfl
    | clockStarted => exact Or.inr ⟨hmarked, _, rfl, rfl⟩
    | clockStopped =>
        unfold clockStop
        split
        · exact Or.inr ⟨hmarked, _, rfl, rfl⟩
        · exact Or.inl rfl
    | subscribed | unsubscribed => exact Or.inr ⟨hmarked, _, rfl, rfl⟩

/-- The marked messages leave the subscribers as `init` has created them. -/
def Keeps (config : GlobalConfig) (marked : τ → Prop) (manager : SubscriberManager τ) : Prop :=
  (∃ received ∈ manager.pending, marked received.tag) → manager.Initial config

theorem Withholds.run {config : GlobalConfig} {marked : τ → Prop}
    {manager next : SubscriberManager τ} (h : manager.Withholds config marked)
    (hkeeps : manager.Keeps config marked) (hrun : manager.run config = .ok next) :
    next.Withholds config marked ∧ next.Keeps config marked := by
  cases hmessage : manager.message with
  | none =>
      simp only [SubscriberManager.run, hmessage] at hrun
      cases hrun
      exact ⟨h, hkeeps⟩
  | some received =>
      have hpending : manager.pending = received :: manager.done.pending := by
        simp [pending, hmessage, done]
      have hsublist : manager.done.pending.Sublist manager.pending :=
        hpending ▸ List.sublist_cons_self _ _
      have hmem : received ∈ manager.pending := hpending ▸ List.mem_cons_self
      have hdone : manager.done.Withholds config marked ∧ manager.done.Keeps config marked := by
        refine ⟨h.ofSublist hsublist h.changes, ?_⟩
        rintro ⟨queued, hqueued, hmarked⟩
        have hinitial := hkeeps ⟨queued, hsublist.subset hqueued, hmarked⟩
        exact ⟨hinitial.timerRunning, hinitial.subscribers⟩
      rcases run_serves hmessage hrun with ⟨-, rfl⟩ | ⟨-, channel, value, hsubscription, hserves⟩
      · exact hdone
      · rcases hserves.unmarked (h.ineffective received hmem)
          (fun hmarked =>
            ⟨(hkeeps ⟨received, hmem, hmarked⟩).timerRunning,
              (hkeeps ⟨received, hmem, hmarked⟩).subscribers⟩) hsubscription with
          rfl | ⟨hunmarked, change, hchanges, hsame⟩
        · exact hdone
        · have horder := h.order
          rw [hpending, List.pairwise_cons] at horder
          -- an unmarked message has no marked one behind it
          refine ⟨h.ofSublist (hsame ▸ hsublist) ?_, ?_⟩
          · rw [hchanges]
            intro other hother
            rcases List.mem_append.mp hother with hold | hnew
            · exact h.changes other hold
            · obtain rfl := List.mem_singleton.mp hnew
              exact hunmarked
          · rintro ⟨queued, hqueued, hmarked⟩
            exact absurd (horder.1 queued (hsame ▸ hqueued) hmarked) hunmarked

namespace Keeps

variable {config : GlobalConfig} {marked : τ → Prop} {manager : SubscriberManager τ}

theorem queue (h : manager.Keeps config marked) {received : Tagged τ}
    (hreceived : ¬ marked received.tag) : (manager.queue received).Keeps config marked := by
  rintro ⟨queued, hqueued, hmarked⟩
  rw [pending_queue] at hqueued
  rcases List.mem_append.mp hqueued with hold | hnew
  · have hinitial := h ⟨queued, hold, hmarked⟩
    exact ⟨hinitial.timerRunning, hinitial.subscribers⟩
  · obtain rfl := List.mem_singleton.mp hnew
    exact absurd hmarked hreceived

theorem take (h : manager.Keeps config marked) (hmessage : manager.message = none) :
    manager.take.Keeps config marked := by
  obtain ⟨hpending, hsubscribers, htimer, -⟩ := manager.take_spec hmessage
  rintro ⟨queued, hqueued, hmarked⟩
  have hinitial := h ⟨queued, hpending ▸ hqueued, hmarked⟩
  exact ⟨htimer.trans hinitial.timerRunning, hsubscribers ▸ hinitial.subscribers⟩

theorem init (h : manager.Keeps config marked) :
    (manager.init config.subscriber).Keeps config marked := by
  intro hpending
  have hinitial := h hpending
  refine ⟨hinitial.timerRunning, fun channel => ?_⟩
  rw [init_subscribers, hinitial.subscribers]
  exact Option.or_self

/-- A manager without subscribers is left by `init` with the permanent ones. -/
theorem ofEmpty (hsubscribers : manager.subscribers = KeyMap.empty)
    (htimer : manager.timerRunning = false) :
    (manager.init config.subscriber).Keeps config marked := by
  refine fun _ => ⟨htimer, fun channel => ?_⟩
  rw [init_subscribers, hsubscribers]
  rfl

end Keeps

end SubscriberManager

end Ros2Connect
