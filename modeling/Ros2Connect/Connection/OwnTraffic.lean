import Ros2Connect.Connection.ClientConnection

/-!
A connection that receives the messages of another node of the program and no
others. The queues of its managers then hold messages their threads get through
with, and no step ends the process.
-/

namespace Ros2Connect

open Lib

namespace PublisherManager

variable {τ : Type} {P : RclMessage → Prop} {manager : PublisherManager τ}

/-- Every message the manager or one of its publishers holds is of a kind. -/
structure Holds (P : RclMessage → Prop) (manager : PublisherManager τ) : Prop where
  toPublish : ∀ received ∈ manager.toPublish, P received.message
  message : ∀ received, manager.message = some received → P received.message
  threadedToPublish : ∀ channel, ∀ received ∈ manager.threadedToPublish channel,
    P received.message
  threadedMessage : ∀ channel received, manager.threadedMessage channel = some received →
    P received.message

namespace Holds

theorem start : Holds P (PublisherManager.start : PublisherManager τ) :=
  ⟨nofun, nofun, nofun, nofun⟩

theorem init (h : manager.Holds P) (publisher : List Topic) :
    (manager.init publisher).Holds P :=
  ⟨h.toPublish, h.message, h.threadedToPublish, h.threadedMessage⟩

theorem publish (h : manager.Holds P) {received : Tagged τ} (hreceived : P received.message) :
    (manager.publish received).Holds P where
  toPublish := by
    intro queued hqueued
    rcases List.mem_append.mp hqueued with hold | hnew
    · exact h.toPublish queued hold
    · obtain rfl := List.mem_singleton.mp hnew
      exact hreceived
  message := h.message
  threadedToPublish := h.threadedToPublish
  threadedMessage := h.threadedMessage

theorem onStopThread (h : manager.Holds P) : manager.onStopThread.Holds P :=
  ⟨h.toPublish, nofun, nofun, nofun⟩

theorem take (h : manager.Holds P) : manager.take.Holds P := by
  unfold PublisherManager.take
  cases hqueue : manager.toPublish with
  | nil => exact h
  | cons received rest =>
      have hqueued := h.toPublish
      rw [hqueue] at hqueued
      refine ⟨fun queued hmem => hqueued queued (List.mem_cons_of_mem _ hmem), ?_,
        h.threadedToPublish, h.threadedMessage⟩
      rintro taken ⟨⟩
      exact hqueued received List.mem_cons_self

theorem moved (h : manager.Holds P) : manager.moved.Holds P :=
  ⟨h.toPublish, nofun, h.threadedToPublish, h.threadedMessage⟩

theorem rosPublish (h : manager.Holds P) (channel : UInt8) (data : Bytes) (tag : τ) :
    (manager.rosPublish channel data tag).Holds P :=
  ⟨h.toPublish, h.message, h.threadedToPublish, h.threadedMessage⟩

theorem publishThreaded (h : manager.Holds P) (channel : UInt8) {received : Tagged τ}
    (hreceived : P received.message) : (manager.publishThreaded channel received).Holds P where
  toPublish := h.toPublish
  message := h.message
  threadedToPublish := by
    intro other queued hqueued
    by_cases hchannel : other = channel
    · subst hchannel
      simp only [PublisherManager.publishThreaded, Function.update_self] at hqueued
      rcases List.mem_append.mp hqueued with hold | hnew
      · exact h.threadedToPublish other queued hold
      · obtain rfl := List.mem_singleton.mp hnew
        exact hreceived
    · simp only [PublisherManager.publishThreaded, Function.update_of_ne hchannel] at hqueued
      exact h.threadedToPublish other queued hqueued
  threadedMessage := h.threadedMessage

theorem run (h : manager.Holds P) : manager.run.Holds P := by
  cases hmessage : manager.message with
  | none => simpa [PublisherManager.run, hmessage] using h
  | some received =>
      have hreceived := h.message received hmessage
      have hmoves := run_moves hmessage
      generalize manager.run = next at hmoves ⊢
      cases hmoves with
      | unknown | compressed => exact h.moved
      | threaded => exact h.moved.publishThreaded _ hreceived
      | shared => exact h.moved.rosPublish _ _ _

theorem takeThreaded (h : manager.Holds P) (channel : UInt8) :
    (manager.takeThreaded channel).Holds P := by
  unfold PublisherManager.takeThreaded
  cases hqueue : manager.threadedToPublish channel with
  | nil => exact h
  | cons received rest =>
      have hqueued := h.threadedToPublish channel
      rw [hqueue] at hqueued
      refine ⟨h.toPublish, h.message, ?_, ?_⟩
      · intro other queued hmem
        by_cases hchannel : other = channel
        · subst hchannel
          simp only [Function.update_self] at hmem
          exact hqueued queued (List.mem_cons_of_mem _ hmem)
        · simp only [Function.update_of_ne hchannel] at hmem
          exact h.threadedToPublish other queued hmem
      · intro other taken htaken
        by_cases hchannel : other = channel
        · subst hchannel
          simp only [Function.update_self] at htaken
          cases htaken
          exact hqueued received List.mem_cons_self
        · simp only [Function.update_of_ne hchannel] at htaken
          exact h.threadedMessage other taken htaken

theorem doneThreaded (h : manager.Holds P) (channel : UInt8) :
    (manager.doneThreaded channel).Holds P := by
  refine ⟨h.toPublish, h.message, h.threadedToPublish, ?_⟩
  intro other taken htaken
  by_cases hchannel : other = channel
  · subst hchannel
    simp [PublisherManager.doneThreaded] at htaken
  · simp only [PublisherManager.doneThreaded, Function.update_of_ne hchannel] at htaken
    exact h.threadedMessage other taken htaken

theorem runThreaded (h : manager.Holds P) {codecs : Codecs} {channel : UInt8}
    {next : PublisherManager τ} (hrun : manager.runThreaded codecs channel = .ok next) :
    next.Holds P := by
  cases hmessage : manager.threadedMessage channel with
  | none =>
      simp only [PublisherManager.runThreaded, hmessage, Except.ok.injEq] at hrun
      exact hrun ▸ h
  | some received =>
      cases runThreaded_publishes hmessage hrun with
      | plain => exact (h.doneThreaded channel).rosPublish _ _ _
      | dropped => exact h.doneThreaded channel
      | decompressed => exact (h.doneThreaded channel).rosPublish _ _ _

end Holds

/-- A message no publisher's thread is ended by. -/
def Publishable (codecs : Codecs) (message : RclMessage) : Prop :=
  MessageBase.isCompressed message = true →
    ∃ result, MessageBase.decompress codecs message = .ok result

theorem Holds.exists_runThreaded {codecs : Codecs} (h : manager.Holds (Publishable codecs))
    (channel : UInt8) : ∃ next, manager.runThreaded codecs channel = .ok next := by
  unfold PublisherManager.runThreaded
  cases hmessage : manager.threadedMessage channel with
  | none => exact ⟨_, rfl⟩
  | some received =>
      cases hcompressed : MessageBase.isCompressed received.message with
      | false => exact ⟨_, by simp only [hcompressed]; rfl⟩
      | true =>
          obtain ⟨⟨decompressed, stored⟩, hdecompress⟩ :=
            h.threadedMessage channel received hmessage hcompressed
          simp only [hcompressed, if_true, hdecompress, bind, Except.bind]
          cases decompressed <;> exact ⟨_, rfl⟩

end PublisherManager

namespace SubscriberManager

variable {τ : Type} {config : GlobalConfig} {manager next : SubscriberManager τ}

/-- The subscribers are those of the configuration. -/
def Configured (config : GlobalConfig) (manager : SubscriberManager τ) : Prop :=
  ∀ channel topic, manager.subscribers channel = some topic →
    topicFor config.subscriber channel = some topic

namespace Configured

theorem start : Configured config (SubscriberManager.start : SubscriberManager τ) := nofun

theorem init (h : manager.Configured config) :
    (manager.init config.subscriber).Configured config := by
  intro channel topic htopic
  rw [init_subscribers] at htopic
  rcases Option.or_eq_some_iff.mp htopic with hold | ⟨-, hnew⟩
  · exact h channel topic hold
  · exact (Option.filter_eq_some_iff.mp hnew).1

theorem onStopThread : manager.onStopThread.Configured config := nofun

theorem take (h : manager.Configured config) : manager.take.Configured config := by
  unfold SubscriberManager.take
  split <;> exact h

theorem run (h : manager.Configured config) (hrun : manager.run config = .ok next) :
    next.Configured config := by
  cases hmessage : manager.message with
  | none =>
      simp only [SubscriberManager.run, hmessage, Except.ok.injEq] at hrun
      exact hrun ▸ h
  | some received =>
      rcases run_serves hmessage hrun with ⟨-, rfl⟩ | ⟨-, channel, value, -, hserves⟩
      · exact h
      · intro other topic htopic
        by_cases hother : other = channel
        · subst hother
          exact (hserves.subscribers_eq_some htopic).elim (h _ topic) id
        · rw [hserves.subscribers_of_ne hother] at htopic
          exact h other topic htopic

end Configured

/-- Every message the manager holds can be read. -/
def Readable (manager : SubscriberManager τ) : Prop :=
  ∀ received ∈ manager.pending,
    ∃ subscription, received.message.toSubscription = .ok subscription

namespace Readable

theorem start : Readable (SubscriberManager.start : SubscriberManager τ) := nofun

theorem queue (h : manager.Readable) {received : Tagged τ}
    (hreceived : ∃ subscription, received.message.toSubscription = .ok subscription) :
    (manager.queue received).Readable := by
  unfold Readable
  rw [pending_queue]
  intro other hother
  rcases List.mem_append.mp hother with hold | hnew
  · exact h other hold
  · obtain rfl := List.mem_singleton.mp hnew
    exact hreceived

theorem onStopThread (h : manager.Readable) : manager.onStopThread.Readable :=
  fun received hreceived => h received (List.mem_append_right _ hreceived)

theorem take (h : manager.Readable) (hnone : manager.message = none) :
    manager.take.Readable := by
  unfold Readable
  rw [(manager.take_spec hnone).1]
  exact h

theorem exists_run (h : manager.Readable) (config : GlobalConfig) :
    ∃ next, manager.run config = .ok next := by
  unfold SubscriberManager.run
  cases hmessage : manager.message with
  | none => exact ⟨_, rfl⟩
  | some received =>
      obtain ⟨⟨channel, value⟩, hsubscription⟩ := h received (by simp [pending, hmessage])
      cases hopCode : MessageBase.isOpCode received.message .subscription with
      | false => exact ⟨_, by simp only [hopCode]; rfl⟩
      | true => exact ⟨_, by simp only [hopCode, if_true, hsubscription]; rfl⟩

theorem run (h : manager.Readable) (hrun : manager.run config = .ok next) : next.Readable := by
  have hdone : manager.done.Readable := fun received hreceived =>
    h received (List.mem_append_right _ hreceived)
  cases hmessage : manager.message with
  | none =>
      simp only [SubscriberManager.run, hmessage, Except.ok.injEq] at hrun
      exact hrun ▸ h
  | some received =>
      rcases run_serves hmessage hrun with ⟨-, rfl⟩ | ⟨-, channel, value, -, hserves⟩
      · exact hdone
      · unfold Readable
        rw [hserves.pending_eq]
        exact hdone

end Readable

end SubscriberManager

namespace ServerConnection

variable {Plugin : Type} {config : Config Plugin} {s : State Plugin} {label : Label}

/-- The managers of a connection that has received own messages only. -/
structure OwnTraffic (config : Config Plugin) (managers : Managers Plugin) : Prop where
  publisherManager : managers.publisherManager.Holds
    (PublisherManager.Publishable config.codecs)
  subscriberManager : managers.subscriberManager.Readable

namespace OwnTraffic

theorem start : OwnTraffic config (State.start : State Plugin).toManagers :=
  ⟨.start, .start⟩

/-- A message of the other node that is no user key. -/
theorem processData (h : OwnTraffic config s.toManagers) {message : RclMessage}
    {own : OwnMessage} (harrives : own.Arrives config.codecs message)
    (hkey : MessageBase.isOpCode message .authentication = false) :
    OwnTraffic config (s.processData message).toManagers := by
  unfold State.processData
  cases harrives with
  | authentication value hopCode =>
      rw [hkey] at hopCode
      cases hopCode
  | notification text _ hdestination =>
      rw [hdestination]
      exact h
  | subscription channel value _ hdestination _ hsubscription =>
      rw [hdestination]
      exact ⟨h.publisherManager, h.subscriberManager.queue ⟨_, hsubscription⟩⟩
  | plain channel serializedMessage compression _ hdestination _ hplain =>
      rw [hdestination]
      exact ⟨h.publisherManager.publish (fun hcompressed => by
        rw [hplain] at hcompressed
        cases hcompressed), h.subscriberManager⟩
  | compressed channel serializedMessage compression stored _ hdestination _ _ hdecompress =>
      rw [hdestination]
      exact ⟨h.publisherManager.publish fun _ => ⟨_, hdecompress⟩, h.subscriberManager⟩
  | serviceAction channel opCode data gID compression converted _ hdestination =>
      rw [hdestination]
      exact ⟨h.publisherManager, h.subscriberManager⟩

theorem authorized (h : OwnTraffic config s.toManagers) (spawned : Spawned) :
    OwnTraffic config (s.authorized config spawned).toManagers :=
  ⟨h.publisherManager.init _, h.subscriberManager⟩

theorem stopConnectionInternal (h : OwnTraffic config s.toManagers) :
    OwnTraffic config s.stopConnectionInternal.toManagers :=
  ⟨h.publisherManager.onStopThread, h.subscriberManager.onStopThread⟩

/-- A turn of a manager's thread gets through with the message it has taken. -/
theorem turn (h : OwnTraffic config s.toManagers) (hturn : label.isTurn = true)
    (henabled : enabled s label = true) :
    OwnTraffic config (next config s label).toManagers ∧
      (next config s label).terminated = s.terminated := by
  cases label with
  | publisherTake => exact ⟨⟨h.publisherManager.take, h.subscriberManager⟩, rfl⟩
  | publisherRun => exact ⟨⟨h.publisherManager.run, h.subscriberManager⟩, rfl⟩
  | threadedTake channel =>
      exact ⟨⟨h.publisherManager.takeThreaded channel, h.subscriberManager⟩, rfl⟩
  | threadedRun channel =>
      obtain ⟨manager, hrun⟩ := h.publisherManager.exists_runThreaded channel
      simp only [ServerConnection.next, State.threadedRun, hrun]
      exact ⟨⟨h.publisherManager.runThreaded hrun, h.subscriberManager⟩, trivial⟩
  | subscriberTake =>
      have hnone : s.subscriberManager.message = none := by
        simp only [enabled, Bool.and_eq_true, Option.isNone_iff_eq_none] at henabled
        exact henabled.1.2
      exact ⟨⟨h.publisherManager, h.subscriberManager.take hnone⟩, rfl⟩
  | subscriberRun =>
      obtain ⟨manager, hrun⟩ := h.subscriberManager.exists_run config.toGlobalConfig
      simp only [ServerConnection.next, State.subscriberRun, hrun]
      exact ⟨⟨h.publisherManager, h.subscriberManager.run hrun⟩, trivial⟩
  | serviceActionTake =>
      simp only [ServerConnection.next, State.serviceActionTake]
      split <;> exact ⟨⟨h.publisherManager, h.subscriberManager⟩, rfl⟩
  | serviceActionRun =>
      simp only [ServerConnection.next, State.serviceActionRun]
      split
      · exact ⟨h, rfl⟩
      · rename_i received _
        obtain ⟨converted, hconverted⟩ := ServiceActionMessage.fromMessage_safe received.message
        have hrun : ∃ handled, s.serviceActionManager.run received.message = .ok handled := by
          cases converted <;> exact ⟨_, by simp only [ServiceActionManager.run, hconverted]; rfl⟩
        obtain ⟨handled, hrun⟩ := hrun
        cases handled <;> simp only [hrun] <;>
          exact ⟨⟨h.publisherManager, h.subscriberManager⟩, trivial⟩
  | connect | receive | validAuthenticationCheck | authenticationEnd | stopConnection =>
      simp [Label.isTurn] at hturn

end OwnTraffic

end ServerConnection

/-- What a connection with the subscribers of its configuration sends is no user
key and on no channel that stands for something else. -/
theorem Emission.onChannel_own {Plugin : Type} {config : GlobalConfig}
    {managers : ServerConnection.Managers Plugin}
    (h : managers.subscriberManager.Configured config) {emission : Emission} {own : OwnMessage}
    (hown : emission.own managers = some own) :
    own.OnChannel ∧ ∀ value, own ≠ .authentication value := by
  cases emission with
  | notifyAboutSubscriber channel value =>
      simp only [Emission.own] at hown
      split at hown
      · cases hown
        exact ⟨trivial, by simp⟩
      · cases hown
  | subscriberSends channel serializedMessage =>
      simp only [Emission.own, Option.map_eq_some_iff] at hown
      obtain ⟨topic, htopic, rfl⟩ := hown
      obtain ⟨hmem, rfl⟩ := topicFor_eq_some (h channel topic htopic)
      exact ⟨config.subscriber_ne_opCode hmem, by simp⟩
  | sendClock serializedMessage =>
      simp only [Emission.own] at hown
      split at hown
      · cases hown
        exact ⟨⟨by decide, by decide, by decide, by decide⟩, by simp⟩
      · cases hown
  | pluginSends role channel opCode data gID compression =>
      simp only [Emission.own] at hown
      split at hown
      · cases hown
        exact ⟨trivial, by simp⟩
      · cases hown

end Ros2Connect
