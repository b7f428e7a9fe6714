import Ros2Connect.Connection.EarlyData
import Ros2Connect.Connection.SendingQueue

/-!
A server connection together with its sending queue, with everything that may
call `send` on it and with what is written to the peer. The entities of the
managers send at any moment at which they exist, and the authentication plugin
may change the user it holds, or throw, at any moment. `handed` and `notified`
log the calls of `send` and the frames `close` has written.
-/

namespace Ros2Connect

open Lib

namespace PeerData

open ServerConnection (Config KeyCheck Spawned Validates Authorizes Queues EarlyData)

variable {Plugin : Type}

structure State (Plugin : Type) where
  connection : ServerConnection.State Plugin
  sendingQueue : SendingQueue.State Bytes
  closed : Bool
  handed : List Bytes
  notified : List Bytes

inductive Label where
  /-- A handler or a turn of a manager's thread. -/
  | connection (label : ServerConnection.Label)
  | pluginSets (user : Bytes) (endTime : Option Bytes)
  | keyCheckThrows (frame : Bytes)
  | notifyAboutSubscriber (channel : UInt8) (value : Bool)
  | subscriberSends (channel : UInt8) (combinedVector : Bytes)
  | sendClock (serializedMessage : Bytes)
  | pluginSends (role : Role) (channel : UInt8) (combinedVector : Bytes)
  | runPosted
  | complete (position : Nat) (error : Bool)
  | setOpen (isOpen : Bool)
  | close (reason : Bytes)
  deriving DecidableEq

namespace State

def start : State Plugin where
  connection := .start
  sendingQueue := .start
  closed := false
  handed := []
  notified := []

def send (s : State Plugin) (runningInStrand : Bool) (combinedVector : Bytes) : State Plugin :=
  { s with
    sendingQueue := s.sendingQueue.send runningInStrand combinedVector
    handed := s.handed ++ [combinedVector] }

/-- What a handler of the connection sends is sent from within the strand. -/
def runConnection (config : Config Plugin) (label : ServerConnection.Label) (s : State Plugin) :
    State Plugin :=
  let connection := ServerConnection.next config s.connection label
  (connection.sent.drop s.connection.sent.length).foldl (fun s => s.send true)
    { s with connection := connection }

/-- The reason that `close` tells the peer. -/
def notification (reason : Bytes) : VectorMessage :=
  .forOpCodeNotification ("Peer closed connection. Reason: ".toUTF8.toList ++ reason)

def close (s : State Plugin) (reason : Bytes) : State Plugin :=
  { s with
    connection := { s.connection with phase := .stopped }
    closed := true
    notified :=
      if s.sendingQueue.isOpen then s.notified ++ [(notification reason).combinedVector]
      else s.notified }

end State

/-- `ioc->stop` lets a handler that is in progress run to its end, and `close` is
called after the thread has been joined. -/
def enabled (config : Config Plugin) (s : State Plugin) : Label → Bool
  | .connection label => ServerConnection.enabled s.connection label
  | .pluginSets _ _ => s.connection.terminated.isNone
  | .keyCheckThrows frame => s.connection.terminated.isNone && s.connection.connected &&
      s.connection.phase != .stopped && decide (Validates config frame)
  | .notifyAboutSubscriber channel _ => s.connection.terminated.isNone &&
      (s.connection.publisherManager.publishers channel).isSome
  | .subscriberSends channel _ => s.connection.terminated.isNone &&
      (s.connection.subscriberManager.subscribers channel).isSome
  | .sendClock _ => s.connection.terminated.isNone && s.connection.subscriberManager.timerRunning
  | .pluginSends role channel _ => s.connection.terminated.isNone &&
      (s.connection.serviceActionManager.plugins role channel).isSome
  | .runPosted => s.connection.terminated.isNone && s.connection.phase != .stopped &&
      !s.sendingQueue.posted.isEmpty
  | .complete position _ => s.connection.terminated.isNone && s.connection.phase != .stopped &&
      decide (position < s.sendingQueue.inFlight.length)
  | .setOpen _ => s.connection.terminated.isNone
  | .close _ => s.connection.terminated.isNone && s.connection.phase != .running && !s.closed

def next (config : Config Plugin) (s : State Plugin) : Label → State Plugin
  | .connection label => s.runConnection config label
  | .pluginSets user endTime =>
      { s with connection := { s.connection with user := user, endTime := endTime } }
  | .keyCheckThrows _ =>
      { s with connection := { s.connection.enterHandler with stopRequested := true } }
  | .notifyAboutSubscriber channel value =>
      s.send false (VectorMessage.forOpCodeSubscription channel value).combinedVector
  | .subscriberSends _ combinedVector => s.send false combinedVector
  | .sendClock serializedMessage =>
      s.send false (VectorMessage.fromSerializedMessage OpCode.clock.toByte
        serializedMessage).combinedVector
  | .pluginSends _ _ combinedVector => s.send false combinedVector
  | .runPosted =>
      { s with
        connection := s.connection.enterHandler
        sendingQueue := s.sendingQueue.runPosted }
  | .complete position error =>
      { s with
        connection := s.connection.enterHandler
        sendingQueue := s.sendingQueue.complete position error }
  | .setOpen isOpen => { s with sendingQueue := { s.sendingQueue with isOpen := isOpen } }
  | .close reason => s.close reason

def connection (config : Config Plugin) : Machine (State Plugin) Label where
  start := .start
  enabled := enabled config
  next := next config

/-- No user key that is received makes `isValid` true. -/
def KeyRejected (config : Config Plugin) (s : State Plugin) : Label → Prop
  | .connection (.receive frame check _) =>
      Validates config frame → check.user.getD s.connection.user = []
  | _ => True

variable {config : Config Plugin} {s t : State Plugin} {label : Label}

/-- Nothing was created, started or sent; the peer may have been told that the
connection is closed. -/
structure Silent (s : State Plugin) : Prop where
  publishers : ∀ channel, s.connection.publisherManager.publishers channel = none
  subscribers : ∀ channel, s.connection.subscriberManager.subscribers channel = none
  clockSubscriber : s.connection.subscriberManager.timerRunning = false
  plugins : ∀ role channel, s.connection.serviceActionManager.plugins role channel = none
  threadless : s.connection.Threadless
  handed : s.handed = []
  written : s.sendingQueue.written = []
  notified : s.notified = [] ∨
    ∃ reason, s.notified = [(State.notification reason).combinedVector]

/-- A step of the connection that neither authorizes it nor sends anything. -/
structure Passive (s t : ServerConnection.State Plugin) : Prop where
  authorizations : t.authorizations = s.authorizations
  sent : t.sent = s.sent
  serviceActionManager : t.serviceActionManager = s.serviceActionManager ∨
    t.serviceActionManager = .init [] [] [] []

theorem passive_enterHandler (s : ServerConnection.State Plugin) : Passive s s.enterHandler := by
  unfold ServerConnection.State.enterHandler
  split <;> exact ⟨rfl, rfl, .inl rfl⟩

/-- A message that does not authorize the connection. -/
theorem passive_receive (homit : config.authenticationOmit = false)
    {c d : ServerConnection.State Plugin} {frame : Bytes} {check : KeyCheck} {spawned : Spawned}
    (hrejected : Validates config frame → (c.store check).user = [])
    (hreceives : ServerConnection.Receives config frame check spawned c d) : Passive c d := by
  cases hreceives with
  | fault | unavailable | invalid => exact ⟨rfl, rfl, .inl rfl⟩
  | omitted homitted =>
      rw [homit] at homitted
      cases homitted
  | valid userKey hvalidates huser => exact absurd (hrejected hvalidates) huser
  | terminated userKey hvalidates huser => exact absurd (hrejected hvalidates) huser
  | data message =>
      unfold ServerConnection.State.processData
      split <;> exact ⟨rfl, rfl, .inl rfl⟩

theorem passive_next (homit : config.authenticationOmit = false)
    {c : ServerConnection.State Plugin} {label : ServerConnection.Label}
    (hrejected : ¬ Authorizes config c label) :
    Passive c (ServerConnection.next config c label) := by
  cases label with
  | connect spawned =>
      simp only [ServerConnection.next, ServerConnection.State.onConnected, homit]
      exact ⟨rfl, rfl, .inl rfl⟩
  | receive frame check spawned =>
      have henter := passive_enterHandler c
      have huser : c.enterHandler.user = c.user := by
        unfold ServerConnection.State.enterHandler
        split <;> rfl
      have hreceived : Passive c.enterHandler (c.receive config frame check spawned) := by
        refine passive_receive homit (fun hvalidates => ?_)
          (ServerConnection.receive_receives config frame check spawned c)
        by_contra hstored
        refine hrejected ⟨hvalidates, ?_⟩
        rw [← huser]
        exact hstored
      refine ⟨hreceived.authorizations.trans henter.authorizations,
        hreceived.sent.trans henter.sent, ?_⟩
      rcases hreceived.serviceActionManager with hsame | hinit
      · rw [ServerConnection.next, hsame]
        exact henter.serviceActionManager
      · exact .inr hinit
  | validAuthenticationCheck =>
      simp only [ServerConnection.next, ServerConnection.State.validAuthenticationCheckCallback]
      split
      · exact ⟨rfl, rfl, .inl rfl⟩
      · split <;> exact ⟨rfl, rfl, .inl rfl⟩
  | stopConnection => exact ⟨rfl, rfl, .inr rfl⟩
  | threadedRun channel =>
      simp only [ServerConnection.next, ServerConnection.State.threadedRun]
      split <;> exact ⟨rfl, rfl, .inl rfl⟩
  | subscriberRun =>
      simp only [ServerConnection.next, ServerConnection.State.subscriberRun]
      split <;> exact ⟨rfl, rfl, .inl rfl⟩
  | serviceActionTake =>
      simp only [ServerConnection.next, ServerConnection.State.serviceActionTake]
      split <;> exact ⟨rfl, rfl, .inl rfl⟩
  | serviceActionRun =>
      simp only [ServerConnection.next, ServerConnection.State.serviceActionRun]
      split
      · exact ⟨rfl, rfl, .inl rfl⟩
      · split <;> exact ⟨rfl, rfl, .inl rfl⟩
  | authenticationEnd | publisherTake | publisherRun | threadedTake | subscriberTake =>
      exact ⟨rfl, rfl, .inl rfl⟩

/-- Where a run without an accepted key leads to. -/
structure Unauthorized (config : Config Plugin) (s : State Plugin) : Prop where
  early : EarlyData config s.connection
  authorizations : s.connection.authorizations = []
  sent : s.connection.sent = []
  serviceActionManager : s.connection.serviceActionManager = .init [] [] [] []
  handed : s.handed = []
  posted : s.sendingQueue.posted = []
  inFlight : s.sendingQueue.inFlight = []
  written : s.sendingQueue.written = []
  notified : if s.closed then
      s.notified = [] ∨ ∃ reason, s.notified = [(State.notification reason).combinedVector]
    else s.notified = []

theorem Unauthorized.queues (h : Unauthorized config s) : Queues s.connection.toManagers :=
  h.early.unauthorized h.authorizations

theorem Unauthorized.silent (h : Unauthorized config s) : Silent s where
  publishers := by
    rw [h.queues.publisherManager]
    exact fun _ => rfl
  subscribers := by
    rw [h.queues.subscriberManager]
    exact fun _ => rfl
  clockSubscriber := by
    rw [h.queues.subscriberManager]
    rfl
  plugins := by
    rw [h.serviceActionManager]
    intro role channel
    cases role <;> rfl
  threadless := h.queues.threadless
  handed := h.handed
  written := h.written
  notified := by
    have hnotified := h.notified
    split at hnotified
    · exact hnotified
    · exact .inl hnotified

theorem Unauthorized.start : Unauthorized config .start where
  early := .start
  authorizations := rfl
  sent := rfl
  serviceActionManager := rfl
  handed := rfl
  posted := rfl
  inFlight := rfl
  written := rfl
  notified := rfl

/-- A step that leaves the queue alone. -/
theorem Unauthorized.setConnection (h : Unauthorized config s)
    {connection : ServerConnection.State Plugin} (hpassive : Passive s.connection connection)
    (hearly : EarlyData config connection) :
    Unauthorized config { s with connection := connection } where
  early := hearly
  authorizations := hpassive.authorizations.trans h.authorizations
  sent := hpassive.sent.trans h.sent
  serviceActionManager := by
    rcases hpassive.serviceActionManager with hsame | hinit
    · exact hsame.trans h.serviceActionManager
    · exact hinit
  handed := h.handed
  posted := h.posted
  inFlight := h.inFlight
  written := h.written
  notified := h.notified

theorem Unauthorized.runConnection (h : Unauthorized config s)
    (homit : config.authenticationOmit = false) {label : ServerConnection.Label}
    (henabled : ServerConnection.enabled s.connection label = true)
    (hrejected : ¬ Authorizes config s.connection label) :
    Unauthorized config (s.runConnection config label) := by
  have hpassive := passive_next homit hrejected
  have hnone : (ServerConnection.next config s.connection label).sent.drop
      s.connection.sent.length = [] := by
    rw [hpassive.sent, List.drop_length]
  simp only [State.runConnection, hnone, List.foldl_nil]
  exact h.setConnection hpassive (h.early.next henabled fun hauthorizes =>
    absurd hauthorizes hrejected)

theorem Unauthorized.close (h : Unauthorized config s) (hopen : s.closed = false)
    (reason : Bytes) : Unauthorized config (s.close reason) where
  early := h.early.ofSame rfl rfl
  authorizations := h.authorizations
  sent := h.sent
  serviceActionManager := h.serviceActionManager
  handed := h.handed
  posted := h.posted
  inFlight := h.inFlight
  written := h.written
  notified := by
    have hnotified : s.notified = [] := by simpa [hopen] using h.notified
    simp only [State.close, if_true, hnotified]
    split
    · exact .inr ⟨reason, rfl⟩
    · exact .inl rfl

/-- What one step keeps: nothing exists that could call `send`. -/
theorem Unauthorized.next (h : Unauthorized config s) (homit : config.authenticationOmit = false)
    (henabled : enabled config s label = true) (hrejected : KeyRejected config s label) :
    Unauthorized config (next config s label) := by
  have hsilent := h.silent
  cases label with
  | connection label =>
      apply h.runConnection homit henabled
      cases label with
      | connect spawned => simp [Authorizes, homit]
      | receive frame check spawned =>
          rintro ⟨hvalidates, huser⟩
          exact huser (hrejected hvalidates)
      | _ => exact id
  | pluginSets user endTime =>
      exact h.setConnection ⟨rfl, rfl, .inl rfl⟩ (h.early.ofSame rfl rfl)
  | keyCheckThrows frame =>
      have hpassive := passive_enterHandler s.connection
      exact h.setConnection ⟨hpassive.authorizations, hpassive.sent, hpassive.serviceActionManager⟩
        (h.early.enterHandler.ofSame rfl rfl)
  | notifyAboutSubscriber channel value =>
      simp [enabled, hsilent.publishers channel] at henabled
  | subscriberSends channel combinedVector =>
      simp [enabled, hsilent.subscribers channel] at henabled
  | sendClock serializedMessage => simp [enabled, hsilent.clockSubscriber] at henabled
  | pluginSends role channel combinedVector =>
      simp [enabled, hsilent.plugins role channel] at henabled
  | runPosted => simp [enabled, h.posted] at henabled
  | complete position error => simp [enabled, h.inFlight] at henabled
  | setOpen isOpen =>
      exact ⟨h.early, h.authorizations, h.sent, h.serviceActionManager, h.handed, h.posted,
        h.inFlight, h.written, h.notified⟩
  | close reason =>
      have hopen : s.closed = false := by
        simp only [enabled, Bool.and_eq_true, Bool.not_eq_true'] at henabled
        exact henabled.2
      exact h.close hopen reason

/-- As long as no user key was accepted, the connection has neither created nor
started nor sent anything, and only `close` has written to the peer. -/
theorem unauthorized_silent (config : Config Plugin) (homit : config.authenticationOmit = false)
    (s : State Plugin) (h : (connection config).ReachableWith (KeyRejected config) s) :
    Silent s := by
  have hunauthorized : Unauthorized config s := h.invariant (Unauthorized config) .start
    (fun _ _ hinv henabled hrejected => hinv.next homit henabled hrejected)
  exact hunauthorized.silent

/-- A configuration with something for every manager to create. -/
private theorem guardedConfig_checked :
    GlobalConfig.Checked [⟨7, false, false, ⟨.none, 0⟩⟩] [⟨8, false, true, ⟨.none, 0⟩⟩] :=
  ⟨by decide, by decide, by decide, by decide⟩

private def guardedConfig : Config Unit where
  toGlobalConfig := .ofChecked _ _ true guardedConfig_checked
  authenticationOmit := false
  authenticationPlugin := true
  serviceServer := [(1, ())]
  serviceClient := []
  actionServer := []
  actionClient := []
  codecs := literalCodecs

instance (config : Config Plugin) (s : State Plugin) : DecidablePred (KeyRejected config s)
  | .connection (.receive frame check _) => inferInstanceAs (Decidable
      (Validates config frame → check.user.getD s.connection.user = []))
  | .connection (.connect _) | .connection .validAuthenticationCheck
  | .connection .authenticationEnd | .connection .stopConnection | .connection .publisherTake
  | .connection .publisherRun | .connection (.threadedTake _) | .connection (.threadedRun _)
  | .connection .subscriberTake | .connection .subscriberRun | .connection .serviceActionTake
  | .connection .serviceActionRun | .pluginSets _ _ | .keyCheckThrows _
  | .notifyAboutSubscriber _ _ | .subscriberSends _ _ | .sendClock _ | .pluginSends _ _ _
  | .runPosted | .complete _ _ | .setOpen _ | .close _ => isTrue trivial

/-- A key is rejected, a topic message follows, and the connection is closed. -/
theorem unauthorized_silent_rejected : ∃ s : State Unit,
    s.connection.stopRequested = true ∧ s.connection.publisherManager.toPublish.length = 1 ∧
      s.notified = [(State.notification []).combinedVector] ∧ Silent s := by
  have hrun : ∃ s : State Unit, (connection guardedConfig).ReachableWith
      (KeyRejected guardedConfig) s ∧ s.connection.stopRequested = true ∧
      s.connection.publisherManager.toPublish.length = 1 ∧
      s.notified = [(State.notification []).combinedVector] :=
    Machine.ReachableWith.exists_replay (fun _ _ h => h)
      (fun s : State Unit => s.connection.stopRequested = true ∧
        s.connection.publisherManager.toPublish.length = 1 ∧
        s.notified = [(State.notification []).combinedVector]) .start
      [.setOpen true, .connection (.connect ⟨true, true, true⟩),
        .connection (.receive (VectorMessage.forOpCodeAuthentication [107]).combinedVector
          ⟨false, none, none⟩ ⟨true, true, true⟩),
        .connection (.receive (VectorMessage.fromSerializedMessage 7 [1]).combinedVector
          ⟨false, none, none⟩ ⟨true, true, true⟩),
        .connection .stopConnection, .close []] (by decide +kernel)
  obtain ⟨s, hreach, hstop, hqueued, hnotified⟩ := hrun
  exact ⟨s, hstop, hqueued, hnotified, unauthorized_silent guardedConfig rfl s hreach⟩

end PeerData

end Ros2Connect
