import Ros2Connect.Connection.ServerConnection

/-!
What becomes of a message received before the connection is authorized. It is
put into the queue of a manager like any other, and stays there until
`onAuthorized` starts the thread that reads the queue.
-/

namespace Ros2Connect

open Lib

namespace ServerConnection

variable {Plugin : Type} {config : Config Plugin} {s t : State Plugin} {label : Label}

/-- No message received before `onAuthorized` was executed has been published,
has created or destroyed a subscriber or was handed to a plugin. -/
structure DiscardsEarly (managers : Managers Plugin) : Prop where
  published : ∀ publication ∈ managers.publisherManager.published, publication.tag = false
  changes : ∀ change ∈ managers.subscriberManager.changes, change.2 = false
  handled : ∀ handled ∈ managers.handled, handled.2 = false

/-- A message no plugin of the configuration is handed. -/
def Unhandled (config : Config Plugin) (message : RclMessage) : Prop :=
  ∀ handled, config.serviceActionManager.run message ≠ .ok (some handled)

/-- The early messages in the queues are of no effect. -/
structure OnlyIneffective (config : Config Plugin) (managers : Managers Plugin) : Prop where
  toPublish : ∀ received ∈ managers.publisherManager.toPublish, received.tag = true →
    PublisherManager.Undeliverable config.codecs config.publisher received.message
  toSubscribe : ∀ received ∈ managers.subscriberManager.toSubscribe, received.tag = true →
    SubscriberManager.Ineffective config.toGlobalConfig received.message
  toHandle : ∀ received ∈ managers.toHandle, received.tag = true →
    Unhandled config received.message

/-- A step that executes `onAuthorized`. -/
def Authorizes (config : Config Plugin) (s : State Plugin) : Label → Prop
  | .connect _ => config.authenticationOmit = true
  | .receive frame check _ => Validates config frame ∧ check.user.getD s.user ≠ []
  | _ => False

/-- Before `onAuthorized` the managers do nothing but queue. -/
structure Queues (managers : Managers Plugin) : Prop where
  threadless : managers.Threadless
  publisherManager : managers.publisherManager =
    { PublisherManager.start with toPublish := managers.publisherManager.toPublish }
  subscriberManager : managers.subscriberManager =
    { SubscriberManager.start with toSubscribe := managers.subscriberManager.toSubscribe }
  early : ∀ received ∈ managers.subscriberManager.toSubscribe, received.tag = true
  handling : managers.handling = none
  handled : managers.handled = []

/-- After `onAuthorized` the managers hold no early message of any effect. -/
structure Withheld (config : Config Plugin) (managers : Managers Plugin) : Prop where
  publisherManager : managers.publisherManager.Withholds config.codecs config.publisher
    (fun early => early = true)
  subscriberManager : managers.subscriberManager.Withholds config.toGlobalConfig
    (fun early => early = true)
  subscribers : managers.subscriberManager.Keeps config.toGlobalConfig
      (fun early => early = true) ∨
    (managers.subscriberThread = .null ∧
      managers.subscriberManager.subscribers = KeyMap.empty ∧
      managers.subscriberManager.timerRunning = false)
  serviceActionManager : managers.serviceActionThread = .joinable →
    managers.serviceActionManager = config.serviceActionManager
  serviceActions : ∀ received ∈ managers.handling.toList ++ managers.toHandle,
    received.tag = true → Unhandled config received.message
  handled : ∀ handled ∈ managers.handled, handled.2 = false

/-- The two halves of a run. -/
structure EarlyData (config : Config Plugin) (s : State Plugin) : Prop where
  unauthorized : s.authorizations = [] → Queues s.toManagers
  authorized : s.authorizations ≠ [] → Withheld config s.toManagers

theorem Withheld.discardsEarly {managers : Managers Plugin} (h : Withheld config managers) :
    DiscardsEarly managers where
  published := fun publication hmem => by
    simpa using h.publisherManager.published publication hmem
  changes := fun change hmem => by
    simpa using h.subscriberManager.changes change hmem
  handled := h.handled

theorem Queues.discardsEarly {managers : Managers Plugin} (h : Queues managers) :
    DiscardsEarly managers where
  published := by
    rw [h.publisherManager]
    simp [PublisherManager.start]
  changes := by
    rw [h.subscriberManager]
    simp [SubscriberManager.start]
  handled := by
    rw [h.handled]
    simp

theorem EarlyData.discardsEarly (h : EarlyData config s) : DiscardsEarly s.toManagers := by
  by_cases hnone : s.authorizations = []
  · exact (h.unauthorized hnone).discardsEarly
  · exact (h.authorized hnone).discardsEarly

/-- Managers that only queued, with nothing of an effect in their queues. -/
theorem Queues.withheld {managers : Managers Plugin} (h : Queues managers)
    (hineffective : OnlyIneffective config managers) : Withheld config managers where
  publisherManager := by
    rw [h.publisherManager]
    exact ⟨nofun, hineffective.toPublish, nofun, nofun, nofun, nofun⟩
  subscriberManager := by
    have hall : managers.subscriberManager.toSubscribe.Pairwise
        (fun first second => second.tag = true → first.tag = true) :=
      List.Pairwise.imp_of_mem (fun hfirst _ _ _ => h.early _ hfirst)
        (List.pairwise_of_forall (R := fun _ _ => True) fun _ _ => trivial)
    rw [h.subscriberManager]
    exact ⟨hineffective.toSubscribe, hall, nofun⟩
  subscribers := by
    right
    rw [h.subscriberManager]
    exact ⟨h.threadless.subscriberThread, rfl, rfl⟩
  serviceActionManager := by
    rw [h.threadless.serviceActionThread]
    nofun
  serviceActions := by
    rw [h.handling]
    exact hineffective.toHandle
  handled := by
    rw [h.handled]
    nofun

/-- The managers `onAuthorized` has initialised. -/
theorem Withheld.authorized (h : Withheld config s.toManagers) (spawned : Spawned) :
    Withheld config (s.authorized config spawned).toManagers where
  publisherManager := h.publisherManager.init
  subscriberManager := ⟨h.subscriberManager.ineffective, h.subscriberManager.order,
    h.subscriberManager.changes⟩
  subscribers := by
    left
    rcases h.subscribers with hkeeps | ⟨-, hsubscribers, htimer⟩
    · exact hkeeps.init
    · exact .ofEmpty hsubscribers htimer
  serviceActionManager := fun _ => rfl
  serviceActions := h.serviceActions
  handled := h.handled

theorem EarlyData.onAuthorized (h : EarlyData config s)
    (hineffective : OnlyIneffective config s.toManagers) (cause : Cause) (spawned : Spawned) :
    EarlyData config (s.onAuthorized config cause spawned) := by
  have hwithheld : Withheld config s.toManagers := by
    by_cases hnone : s.authorizations = []
    · exact (h.unauthorized hnone).withheld hineffective
    · exact h.authorized hnone
  rcases s.onAuthorized_cases config cause spawned with ⟨-, heq⟩ | ⟨-, heq⟩
  · rw [heq]
    refine ⟨fun hnone => absurd hnone (by simp [State.authorized, State.logAuthorization]),
      fun _ => ?_⟩
    exact Withheld.authorized (s := s.logAuthorization cause) hwithheld spawned
  · rw [heq]
    exact ⟨fun hnone => absurd hnone (by simp [State.terminate, State.logAuthorization]),
      fun _ => hwithheld⟩

section Receiving

variable {managers : Managers Plugin} {received : Tagged Bool}

theorem Queues.queue (h : Queues managers) (hearly : received.tag = true) :
    Queues { managers with
      subscriberManager := managers.subscriberManager.queue received } where
  threadless := ⟨h.threadless.1, h.threadless.2, h.threadless.3⟩
  publisherManager := h.publisherManager
  subscriberManager := by
    have hmanager := h.subscriberManager
    simp only [SubscriberManager.queue]
    rw [hmanager]
  early := by
    intro queued hqueued
    rcases List.mem_append.mp hqueued with hold | hnew
    · exact h.early queued hold
    · obtain rfl := List.mem_singleton.mp hnew
      exact hearly
  handling := h.handling
  handled := h.handled

theorem Queues.publish (h : Queues managers) :
    Queues { managers with
      publisherManager := managers.publisherManager.publish received } where
  threadless := ⟨h.threadless.1, h.threadless.2, h.threadless.3⟩
  publisherManager := by
    have hmanager := h.publisherManager
    simp only [PublisherManager.publish]
    rw [hmanager]
  subscriberManager := h.subscriberManager
  early := h.early
  handling := h.handling
  handled := h.handled

theorem Queues.handle (h : Queues managers) :
    Queues { managers with toHandle := managers.toHandle ++ [received] } where
  threadless := ⟨h.threadless.1, h.threadless.2, h.threadless.3⟩
  publisherManager := h.publisherManager
  subscriberManager := h.subscriberManager
  early := h.early
  handling := h.handling
  handled := h.handled

theorem Withheld.queue (h : Withheld config managers) (hlate : received.tag = false) :
    Withheld config { managers with
      subscriberManager := managers.subscriberManager.queue received } where
  publisherManager := h.publisherManager
  subscriberManager := h.subscriberManager.queue (by simp [hlate])
  subscribers := h.subscribers.imp (fun hkeeps => hkeeps.queue (by simp [hlate])) id
  serviceActionManager := h.serviceActionManager
  serviceActions := h.serviceActions
  handled := h.handled

theorem Withheld.publish (h : Withheld config managers) (hlate : received.tag = false) :
    Withheld config { managers with
      publisherManager := managers.publisherManager.publish received } where
  publisherManager := h.publisherManager.publish (by simp [hlate])
  subscriberManager := h.subscriberManager
  subscribers := h.subscribers
  serviceActionManager := h.serviceActionManager
  serviceActions := h.serviceActions
  handled := h.handled

theorem Withheld.handle (h : Withheld config managers) (hlate : received.tag = false) :
    Withheld config { managers with toHandle := managers.toHandle ++ [received] } where
  publisherManager := h.publisherManager
  subscriberManager := h.subscriberManager
  subscribers := h.subscribers
  serviceActionManager := h.serviceActionManager
  serviceActions := by
    intro queued hqueued hearly
    rw [← List.append_assoc] at hqueued
    rcases List.mem_append.mp hqueued with hold | hnew
    · exact h.serviceActions queued hold hearly
    · obtain rfl := List.mem_singleton.mp hnew
      rw [hlate] at hearly
      cases hearly
  handled := h.handled

end Receiving

/-- A message put into the queue of a manager. -/
theorem EarlyData.processData (h : EarlyData config s) (message : RclMessage) :
    EarlyData config (s.processData message) := by
  unfold State.processData
  by_cases hnone : s.authorizations = []
  · have hqueues := h.unauthorized hnone
    have hearly : s.authorizations.isEmpty = true := by simp [hnone]
    cases destination message with
    | logger => exact h
    | subscriberManager => exact ⟨fun _ => hqueues.queue hearly, fun hsome => absurd hnone hsome⟩
    | serviceActionManager => exact ⟨fun _ => hqueues.handle, fun hsome => absurd hnone hsome⟩
    | publisherManager => exact ⟨fun _ => hqueues.publish, fun hsome => absurd hnone hsome⟩
  · have hwithheld := h.authorized hnone
    have hlate : s.authorizations.isEmpty = false := by simp [hnone]
    cases destination message with
    | logger => exact h
    | subscriberManager =>
        exact ⟨fun hnil => absurd hnil hnone, fun _ => hwithheld.queue hlate⟩
    | serviceActionManager =>
        exact ⟨fun hnil => absurd hnil hnone, fun _ => hwithheld.handle hlate⟩
    | publisherManager =>
        exact ⟨fun hnil => absurd hnil hnone, fun _ => hwithheld.publish hlate⟩

/-- A step that leaves the managers alone. -/
theorem EarlyData.ofSame (h : EarlyData config s) (hmanagers : t.toManagers = s.toManagers)
    (hauthorizations : t.authorizations = s.authorizations) : EarlyData config t := by
  refine ⟨?_, ?_⟩
  · rw [hauthorizations, hmanagers]
    exact h.unauthorized
  · rw [hauthorizations, hmanagers]
    exact h.authorized

theorem EarlyData.respond (h : EarlyData config s) : EarlyData config s.respond := by
  unfold State.respond
  split <;> exact h.ofSame rfl rfl

theorem EarlyData.enterHandler (h : EarlyData config s) : EarlyData config s.enterHandler := by
  unfold State.enterHandler
  split <;> exact h.ofSame rfl rfl

theorem EarlyData.receive (h : EarlyData config s) {frame : Bytes} {check : KeyCheck}
    {spawned : Spawned} (hineffective : Authorizes config s (.receive frame check spawned) →
      OnlyIneffective config s.toManagers)
    (hreceives : Receives config frame check spawned s t) : EarlyData config t := by
  have hstored : EarlyData config (s.store check) := h.ofSame rfl rfl
  have hauthorized : ∀ userKey, Validates config frame → (s.store check).user ≠ [] →
      EarlyData config ((s.store check).onAuthorized config
        (.userKey userKey check.returned) spawned) := fun userKey hvalidates huser =>
    hstored.onAuthorized (hineffective ⟨hvalidates, huser⟩) _ _
  cases hreceives with
  | fault | omitted | unavailable | invalid => exact h.ofSame rfl rfl
  | valid userKey hvalidates huser => exact (hauthorized userKey hvalidates huser).respond
  | terminated userKey hvalidates huser => exact hauthorized userKey hvalidates huser
  | data message => exact h.processData message

section Threads

variable {managers : Managers Plugin}

theorem Withheld.withPublisher (h : Withheld config managers)
    {publisherManager : PublisherManager Bool}
    (hmanager : publisherManager.Withholds config.codecs config.publisher
      (fun early => early = true)) :
    Withheld config { managers with publisherManager := publisherManager } where
  publisherManager := hmanager
  subscriberManager := h.subscriberManager
  subscribers := h.subscribers
  serviceActionManager := h.serviceActionManager
  serviceActions := h.serviceActions
  handled := h.handled

theorem Withheld.withSubscriber (h : Withheld config managers)
    {subscriberManager : SubscriberManager Bool}
    (hmanager : subscriberManager.Withholds config.toGlobalConfig (fun early => early = true))
    (hkeeps : subscriberManager.Keeps config.toGlobalConfig (fun early => early = true)) :
    Withheld config { managers with subscriberManager := subscriberManager } where
  publisherManager := h.publisherManager
  subscriberManager := hmanager
  subscribers := Or.inl hkeeps
  serviceActionManager := h.serviceActionManager
  serviceActions := h.serviceActions
  handled := h.handled

theorem Withheld.keeps (h : Withheld config managers)
    (hthread : managers.subscriberThread = .joinable) :
    managers.subscriberManager.Keeps config.toGlobalConfig (fun early => early = true) := by
  rcases h.subscribers with hkeeps | ⟨hnull, -⟩
  · exact hkeeps
  · rw [hthread] at hnull
    cases hnull

theorem Queues.stop (h : Queues s.toManagers) : Queues s.stopConnectionInternal.toManagers where
  threadless := ⟨rfl, rfl, rfl⟩
  publisherManager := by
    have hmanager := h.publisherManager
    simp only [State.stopConnectionInternal, PublisherManager.onStopThread]
    rw [hmanager]
    rfl
  subscriberManager := by
    have hmanager := h.subscriberManager
    simp only [State.stopConnectionInternal, SubscriberManager.onStopThread]
    rw [hmanager]
    rfl
  early := h.early
  handling := rfl
  handled := h.handled

/-- A joined manager has lost its subscribers and the message it had taken. -/
theorem Withheld.stop (h : Withheld config s.toManagers) :
    Withheld config s.stopConnectionInternal.toManagers where
  publisherManager := h.publisherManager.onStopThread
  subscriberManager := h.subscriberManager.ofSublist
    (List.sublist_append_right _ _) h.subscriberManager.changes
  subscribers := Or.inr ⟨rfl, rfl, rfl⟩
  serviceActionManager := nofun
  serviceActions := fun received hreceived =>
    h.serviceActions received (List.mem_append_right _ hreceived)
  handled := h.handled

theorem Withheld.serviceActionTake (h : Withheld config s.toManagers)
    (hhandling : s.handling = none) : Withheld config s.serviceActionTake.toManagers := by
  unfold State.serviceActionTake
  cases hqueue : s.toHandle with
  | nil => exact h
  | cons received rest =>
      have hactions := h.serviceActions
      rw [hhandling, hqueue] at hactions
      exact ⟨h.publisherManager, h.subscriberManager, h.subscribers, h.serviceActionManager,
        hactions, h.handled⟩

theorem Withheld.serviceActionRun (h : Withheld config s.toManagers)
    (hthread : s.serviceActionThread = .joinable) :
    Withheld config s.serviceActionRun.toManagers := by
  unfold State.serviceActionRun
  cases hhandling : s.handling with
  | none => exact h
  | some received =>
      have hreceived := h.serviceActions received (by simp [hhandling])
      have hrest : ∀ queued ∈ s.toHandle, queued.tag = true → Unhandled config queued.message :=
        fun queued hqueued => h.serviceActions queued (List.mem_append_right _ hqueued)
      have hmanager := h.serviceActionManager hthread
      cases hrun : s.serviceActionManager.run received.message with
      | error fault =>
          simp only [hrun]
          exact h
      | ok result =>
          simp only [hrun]
          cases result with
          | none =>
              exact ⟨h.publisherManager, h.subscriberManager, h.subscribers,
                h.serviceActionManager, hrest, h.handled⟩
          | some handled =>
              refine ⟨h.publisherManager, h.subscriberManager, h.subscribers,
                h.serviceActionManager, hrest, ?_⟩
              intro other hother
              rcases List.mem_append.mp hother with hold | hnew
              · exact h.handled other hold
              · obtain rfl := List.mem_singleton.mp hnew
                cases htag : received.tag with
                | false => rfl
                | true => exact absurd (hmanager ▸ hrun) (hreceived htag handled)

end Threads

/-- A thread of a manager runs after `onAuthorized` only. -/
theorem EarlyData.withheld (h : EarlyData config s)
    (hruns : ¬ (s.Threadless ∧ ∀ channel, s.publisherManager.threadedToPublish channel = [] ∧
      s.publisherManager.threadedMessage channel = none)) :
    s.authorizations ≠ [] ∧ Withheld config s.toManagers := by
  have hsome : s.authorizations ≠ [] := by
    intro hnone
    have hqueues := h.unauthorized hnone
    refine hruns ⟨hqueues.threadless, fun channel => ?_⟩
    rw [hqueues.publisherManager]
    exact ⟨rfl, rfl⟩
  exact ⟨hsome, h.authorized hsome⟩

/-- What one step keeps. -/
theorem EarlyData.next (h : EarlyData config s) (henabled : enabled s label = true)
    (hineffective : Authorizes config s label → OnlyIneffective config s.toManagers) :
    EarlyData config (next config s label) := by
  have hkept : ∀ {u : State Plugin}, s.authorizations ≠ [] →
      u.authorizations = s.authorizations → Withheld config u.toManagers →
      EarlyData config u := by
    intro u hsome hauthorizations hwithheld
    exact ⟨fun hnone => absurd (hauthorizations.symm.trans hnone) hsome, fun _ => hwithheld⟩
  cases label with
  | connect spawned =>
      simp only [ServerConnection.next, State.onConnected]
      cases homit : config.authenticationOmit with
      | false => exact h.ofSame rfl rfl
      | true =>
          exact EarlyData.onAuthorized (s := { s with connected := true }) (h.ofSame rfl rfl)
            (hineffective homit) _ _
  | receive frame check spawned =>
      have hsame : s.enterHandler.toManagers = s.toManagers ∧ s.enterHandler.user = s.user := by
        unfold State.enterHandler
        split <;> exact ⟨rfl, rfl⟩
      refine h.enterHandler.receive ?_ (receive_receives config frame check spawned s)
      simp only [Authorizes, hsame.1, hsame.2]
      exact hineffective
  | validAuthenticationCheck =>
      simp only [ServerConnection.next, State.validAuthenticationCheckCallback]
      split
      · exact h.ofSame rfl rfl
      · split <;> exact h.ofSame rfl rfl
  | authenticationEnd => exact h.ofSame rfl rfl
  | stopConnection =>
      exact ⟨fun hnone => (h.unauthorized hnone).stop, fun hsome => (h.authorized hsome).stop⟩
  | publisherTake =>
      simp only [enabled, Bool.and_eq_true, beq_iff_eq] at henabled
      obtain ⟨hsome, hwithheld⟩ := h.withheld fun hidle => by
        simp [hidle.1.publisherThread] at henabled
      exact hkept hsome rfl (hwithheld.withPublisher hwithheld.publisherManager.take)
  | publisherRun =>
      simp only [enabled, Bool.and_eq_true, beq_iff_eq] at henabled
      obtain ⟨hsome, hwithheld⟩ := h.withheld fun hidle => by
        simp [hidle.1.publisherThread] at henabled
      exact hkept hsome rfl (hwithheld.withPublisher hwithheld.publisherManager.run)
  | threadedTake channel =>
      simp only [enabled, Bool.and_eq_true] at henabled
      obtain ⟨hsome, hwithheld⟩ := h.withheld fun hidle => by
        simp [(hidle.2 channel).1] at henabled
      exact hkept hsome rfl
        (hwithheld.withPublisher (hwithheld.publisherManager.takeThreaded channel))
  | threadedRun channel =>
      simp only [enabled, Bool.and_eq_true] at henabled
      obtain ⟨hsome, hwithheld⟩ := h.withheld fun hidle => by
        simp [(hidle.2 channel).2] at henabled
      simp only [ServerConnection.next, State.threadedRun]
      split
      next => exact h.ofSame rfl rfl
      next publisherManager hrun =>
        exact hkept hsome rfl
          (hwithheld.withPublisher (hwithheld.publisherManager.runThreaded channel hrun))
  | subscriberTake =>
      simp only [enabled, Bool.and_eq_true, beq_iff_eq, Option.isNone_iff_eq_none] at henabled
      have hthread := henabled.1.1.2
      obtain ⟨hsome, hwithheld⟩ := h.withheld fun hidle => by
        simp [hidle.1.subscriberThread] at hthread
      exact hkept hsome rfl (hwithheld.withSubscriber
        (hwithheld.subscriberManager.take henabled.1.2)
        ((hwithheld.keeps hthread).take henabled.1.2))
  | subscriberRun =>
      simp only [enabled, Bool.and_eq_true, beq_iff_eq] at henabled
      have hthread := henabled.1.2
      obtain ⟨hsome, hwithheld⟩ := h.withheld fun hidle => by
        simp [hidle.1.subscriberThread] at hthread
      simp only [ServerConnection.next, State.subscriberRun]
      split
      next => exact h.ofSame rfl rfl
      next subscriberManager hrun =>
        obtain ⟨hwithholds, hkeeps⟩ :=
          hwithheld.subscriberManager.run (hwithheld.keeps hthread) hrun
        exact hkept hsome rfl (hwithheld.withSubscriber hwithholds hkeeps)
  | serviceActionTake =>
      simp only [enabled, Bool.and_eq_true, beq_iff_eq, Option.isNone_iff_eq_none] at henabled
      have hthread := henabled.1.1.2
      obtain ⟨hsome, hwithheld⟩ := h.withheld fun hidle => by
        simp [hidle.1.serviceActionThread] at hthread
      refine hkept hsome ?_ (hwithheld.serviceActionTake henabled.1.2)
      simp only [ServerConnection.next, State.serviceActionTake]
      split <;> rfl
  | serviceActionRun =>
      simp only [enabled, Bool.and_eq_true, beq_iff_eq] at henabled
      have hthread := henabled.1.2
      obtain ⟨hsome, hwithheld⟩ := h.withheld fun hidle => by
        simp [hidle.1.serviceActionThread] at hthread
      refine hkept hsome ?_ (hwithheld.serviceActionRun hthread)
      simp only [ServerConnection.next, State.serviceActionRun]
      split
      · rfl
      · split <;> rfl

theorem EarlyData.start : EarlyData config .start where
  unauthorized := fun _ => ⟨⟨rfl, rfl, rfl⟩, rfl, rfl, nofun, rfl, rfl⟩
  authorized := fun hsome => absurd rfl hsome

/-- When `onAuthorized` only ever finds messages of no effect in the queues, a
message received before it never takes effect. -/
theorem earlyData_discarded (config : Config Plugin) (s : State Plugin)
    (h : (connection config).ReachableWith
      (fun s label => Authorizes config s label → OnlyIneffective config s.toManagers) s) :
    DiscardsEarly s.toManagers := by
  have hearly : EarlyData config s := h.invariant (EarlyData config) .start
    (fun _ _ hinv henabled hineffective => hinv.next henabled hineffective)
  exact hearly.discardsEarly

/-- A shared publisher on channel 7. -/
private theorem topicConfig_checked :
    GlobalConfig.Checked [⟨7, false, false, ⟨.none, 0⟩⟩] [] :=
  ⟨by decide, by decide, by decide, by decide⟩

private def topicConfig : Config Unit where
  toGlobalConfig := .ofChecked _ _ false topicConfig_checked
  authenticationOmit := false
  authenticationPlugin := true
  serviceServer := []
  serviceClient := []
  actionServer := []
  actionClient := []
  codecs := literalCodecs

private def spawned : Spawned := ⟨true, true, true⟩

/-- An AUTHENTICATION message with the key "k". -/
private def userKey : Bytes := (VectorMessage.forOpCodeAuthentication [107]).combinedVector

private def topicFrame : Bytes := (VectorMessage.fromSerializedMessage 7 [1]).combinedVector

private def check : KeyCheck := ⟨true, some [117], none⟩

/-- A topic message that arrives before the user key is published once the key
is accepted. -/
theorem earlyData_published :
    ¬ ∀ (config : Config Unit) (s : State Unit), config.authenticationOmit = false →
      (connection config).Reachable s → DiscardsEarly s.toManagers := by
  intro hall
  obtain ⟨s, hreachable, hpublished⟩ := Machine.exists_reachable (M := connection topicConfig)
    (fun s : State Unit => s.publisherManager.published = [⟨7, [1], true⟩])
    [.connect spawned, .receive topicFrame check spawned, .receive userKey check spawned,
      .publisherTake, .publisherRun] (by decide)
  have hdiscards := (hall topicConfig s rfl hreachable).published ⟨7, [1], true⟩
    (by simp [hpublished])
  cases hdiscards

/-- A topic message for a channel without a publisher. -/
private def unknownFrame : Bytes := (VectorMessage.fromSerializedMessage 8 [1]).combinedVector

/-- The queues hold nothing but topic messages for channels without a publisher. -/
private def OnlyUnknown (s : State Unit) : Prop :=
  (∀ received ∈ s.publisherManager.toPublish,
    topicFor topicConfig.publisher received.message.channel = none) ∧
    s.subscriberManager.toSubscribe = [] ∧ s.toHandle = []

private instance decidableOnlyUnknown (s : State Unit) : Decidable (OnlyUnknown s) :=
  inferInstanceAs (Decidable (_ ∧ _))

private theorem OnlyUnknown.onlyIneffective {s : State Unit} (h : OnlyUnknown s) :
    OnlyIneffective topicConfig s.toManagers where
  toPublish := fun received hreceived _ topic htopic => by
    rw [h.1 received hreceived] at htopic
    cases htopic
  toSubscribe := by simp [h.2.1]
  toHandle := by simp [h.2.2]

/-- A topic message for a channel without a publisher arrives before the user key,
and one for the publisher after it. -/
theorem earlyData_discarded_late :
    ∃ s : State Unit, s.publisherManager.published = [⟨7, [1], false⟩] ∧
      DiscardsEarly s.toManagers := by
  have hrun : ∃ s : State Unit, (connection topicConfig).ReachableWith
      (fun s label => Authorizes topicConfig s label →
        OnlyIneffective topicConfig s.toManagers) s ∧
      s.publisherManager.published = [⟨7, [1], false⟩] := by
    have hunknown : ∀ (s : State Unit) (label : Label),
        OnlyUnknown s ∨ label = .publisherTake ∨ label = .publisherRun →
        Authorizes topicConfig s label → OnlyIneffective topicConfig s.toManagers := by
      rintro s label (hunknown | rfl | rfl) hauthorizes
      · exact hunknown.onlyIneffective
      · cases hauthorizes
      · cases hauthorizes
    exact Machine.ReachableWith.exists_replay hunknown
      (fun s : State Unit => s.publisherManager.published = [⟨7, [1], false⟩]) .start
      [.connect spawned, .receive unknownFrame check spawned, .receive userKey check spawned,
        .receive topicFrame check spawned, .publisherTake, .publisherRun, .publisherTake,
        .publisherRun] (by decide)
  obtain ⟨s, hreachable, hpublished⟩ := hrun
  exact ⟨s, hpublished, earlyData_discarded topicConfig s hreachable⟩

end ServerConnection

end Ros2Connect
