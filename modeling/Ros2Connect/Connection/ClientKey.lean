import Ros2Connect.Connection.Authorization
import Ros2Connect.Connection.QueueParts

/-!
What a client connection sends, whatever its server does: its user key first,
and no AUTHENTICATION message after it.
-/

namespace Ros2Connect

open Lib

/-- The vector of a message of the program that is no user key but of a kind. -/
def OwnData (P : OwnMessage → Prop) (codecs : Codecs) (frame : Bytes) : Prop :=
  ∃ own : OwnMessage, own.OnChannel ∧ P own ∧ (∀ value, own ≠ .authentication value) ∧
    own.combinedVector codecs = .ok frame

/-- It is no user key for the other node either. -/
theorem OwnData.exists_fromFlatBuffer {P : OwnMessage → Prop} {codecs : Codecs}
    (hcodecs : codecs.RoundTrip) {frame : Bytes} (h : OwnData P codecs frame) :
    ∃ message, RclMessage.fromFlatBuffer frame = .ok message ∧
      MessageBase.isOpCode message .authentication = false := by
  obtain ⟨own, hchannel, -, hkey, hframe⟩ := h
  exact OwnMessage.exists_fromFlatBuffer hcodecs hchannel hkey hframe

namespace ServerConnection

variable {Plugin : Type} {config : Config Plugin} {s : State Plugin} {label : Label}

theorem configured_turn
    (h : s.subscriberManager.Configured config.toGlobalConfig) (hturn : label.isTurn = true) :
    (next config s label).subscriberManager.Configured config.toGlobalConfig := by
  cases label with
  | subscriberTake => exact h.take
  | subscriberRun =>
      simp only [ServerConnection.next, State.subscriberRun]
      split
      · exact h
      · rename_i manager hrun
        exact h.run hrun
  | threadedRun channel =>
      simp only [ServerConnection.next, State.threadedRun]
      split <;> exact h
  | serviceActionTake =>
      simp only [ServerConnection.next, State.serviceActionTake]
      split <;> exact h
  | serviceActionRun =>
      simp only [ServerConnection.next, State.serviceActionRun]
      split
      · exact h
      · split <;> exact h
  | publisherTake | publisherRun | threadedTake => exact h
  | connect | receive | validAuthenticationCheck | authenticationEnd | stopConnection =>
      simp [Label.isTurn] at hturn

theorem frames_turn (hturn : label.isTurn = true) : Frames s (next config s label) :=
  next_frames (by rintro spawned rfl; simp [Label.isTurn] at hturn)
    (by rintro frame check spawned rfl; simp [Label.isTurn] at hturn)

/-- Managers that were never started have nothing to do. -/
theorem not_enabled_turn (hmanagers : s.toManagers = (State.start : State Plugin).toManagers)
    (hturn : label.isTurn = true) : enabled s label = false := by
  have hpublisherThread : s.publisherThread = .null :=
    congrArg Managers.publisherThread hmanagers
  have hsubscriberThread : s.subscriberThread = .null :=
    congrArg Managers.subscriberThread hmanagers
  have hserviceActionThread : s.serviceActionThread = .null :=
    congrArg Managers.serviceActionThread hmanagers
  have hpublisherManager : s.publisherManager = .start :=
    congrArg Managers.publisherManager hmanagers
  cases label with
  | connect | receive | validAuthenticationCheck | authenticationEnd | stopConnection =>
      simp [Label.isTurn] at hturn
  | threadedTake | threadedRun => simp [enabled, hpublisherManager, PublisherManager.start]
  | publisherTake | publisherRun => simp [enabled, hpublisherThread]
  | subscriberTake | subscriberRun => simp [enabled, hsubscriberThread]
  | serviceActionTake | serviceActionRun => simp [enabled, hserviceActionThread]

theorem toManagers_enterHandler (s : State Plugin) : s.enterHandler.toManagers = s.toManagers := by
  unfold State.enterHandler
  split <;> rfl

theorem configured_processData (h : s.subscriberManager.Configured config.toGlobalConfig)
    (message : RclMessage) :
    (s.processData message).subscriberManager.Configured config.toGlobalConfig := by
  unfold State.processData
  split <;> exact h

theorem stopConnectionInternal_start
    (hmanagers : s.toManagers = (State.start : State Plugin).toManagers) :
    s.stopConnectionInternal.toManagers = (State.start : State Plugin).toManagers := by
  have hstopped : s.stopConnectionInternal.toManagers =
      { s.toManagers with
        publisherThread := .null
        subscriberThread := .null
        serviceActionThread := .null
        publisherManager := s.toManagers.publisherManager.onStopThread
        subscriberManager := s.toManagers.subscriberManager.onStopThread
        serviceActionManager := .init [] [] [] []
        handling := none } := rfl
  rw [hstopped, hmanagers]
  rfl

end ServerConnection

/-- Managers that were never started send nothing. -/
theorem Emission.combinedVector_start {Plugin : Type} (codecs : Codecs) (emission : Emission) :
    emission.combinedVector codecs
      (ServerConnection.State.start : ServerConnection.State Plugin).toManagers = none := by
  have hnone : emission.own
      (ServerConnection.State.start : ServerConnection.State Plugin).toManagers = none := by
    cases emission with
    | pluginSends role =>
        cases role <;> rfl
    | _ => rfl
  simp [Emission.combinedVector, hnone]

namespace ClientConnection

open ServerConnection (Spawned)

variable {Plugin : Type} {P : OwnMessage → Prop} {config : Config Plugin} {s : State Plugin}
  {label : Label} {connection : ServerConnection.State Plugin}
  {queue : SendingQueue.State Bytes}

/-- The vector `onConnected` sends. -/
def Config.keyFrame (config : Config Plugin) : Bytes :=
  (VectorMessage.forOpCodeAuthentication config.userKey).combinedVector

/-- A connection before its handshake. -/
structure Fresh (connection : ServerConnection.State Plugin)
    (queue : SendingQueue.State Bytes) : Prop where
  managers : connection.toManagers =
    (ServerConnection.State.start : ServerConnection.State Plugin).toManagers
  sendingQueue : queue = .start
  authorizations : connection.authorizations = []

/-- What a connected client hands to its queue: the key, then data. -/
structure Keyed (P : OwnMessage → Prop) (config : Config Plugin)
    (queue : SendingQueue.State Bytes) : Prop where
  queued : ∃ rest, queue.queued = config.keyFrame :: rest ∧
    ∀ frame ∈ rest ++ queue.posted, OwnData P config.codecs frame
  written : ∃ rest, queue.written = config.keyFrame :: rest

/-- What the steps of a client keep. -/
structure Inv (P : OwnMessage → Prop) (config : Config Plugin)
    (connection : ServerConnection.State Plugin) (queue : SendingQueue.State Bytes) : Prop where
  configured : connection.subscriberManager.Configured config.toGlobalConfig
  fresh : connection.connected = false → Fresh connection queue
  keyed : connection.connected = true → Keyed P config queue
  authorizations : connection.connected = true → connection.authorizations = [.connected]
  alive : connection.terminated ≠ some .unjoinedThread

theorem Inv.start (P : OwnMessage → Prop) (config : Config Plugin) :
    Inv P config .start .start where
  configured := .start
  fresh := fun _ => ⟨rfl, rfl, rfl⟩
  keyed := nofun
  authorizations := nofun
  alive := nofun

/-- The strand hands nothing new to the queue. -/
theorem Keyed.ofSame {after : SendingQueue.State Bytes} (h : Keyed P config queue)
    (hsame : after.queued ++ after.posted = queue.queued ++ queue.posted)
    (hqueued : queue.queued <+: after.queued)
    (hwritten : queue.written <+: after.written) : Keyed P config after := by
  obtain ⟨rest, hkey, hdata⟩ := h.queued
  obtain ⟨written, hfirst⟩ := h.written
  obtain ⟨more, hmore⟩ := hqueued
  obtain ⟨others, hothers⟩ := hwritten
  rw [hkey] at hmore
  refine ⟨⟨rest ++ more, hmore.symm, ?_⟩, ⟨written ++ others, ?_⟩⟩
  · have hrest : rest ++ more ++ after.posted = rest ++ queue.posted := by
      rw [← hmore, hkey] at hsame
      exact (List.cons.inj hsame).2
    rw [hrest]
    exact hdata
  · rw [← hothers, hfirst]
    rfl

theorem Keyed.post (h : Keyed P config queue) {combinedVector : Bytes}
    (hdata : OwnData P config.codecs combinedVector) :
    Keyed P config (queue.send false combinedVector) := by
  obtain ⟨rest, hkey, hrest⟩ := h.queued
  refine ⟨⟨rest, hkey, ?_⟩, h.written⟩
  simp only [SendingQueue.State.send, Bool.false_eq_true, if_false]
  intro frame hframe
  rw [← List.append_assoc] at hframe
  rcases List.mem_append.mp hframe with hold | hnew
  · exact hrest frame hold
  · obtain rfl := List.mem_singleton.mp hnew
    exact hdata

/-- A step that leaves the queue and the authorization alone. -/
theorem Inv.ofConnection (h : Inv P config connection queue)
    {after : ServerConnection.State Plugin} (hframes : ServerConnection.Frames connection after)
    (hconfigured : after.subscriberManager.Configured config.toGlobalConfig)
    (hmanagers : connection.connected = false → after.toManagers =
      (ServerConnection.State.start : ServerConnection.State Plugin).toManagers) :
    Inv P config after queue where
  configured := hconfigured
  fresh := by
    intro hconnected
    have hold : connection.connected = false := hframes.connected.symm.trans hconnected
    have hfresh := h.fresh hold
    exact ⟨hmanagers hold, hfresh.sendingQueue,
      hframes.authorizations.trans hfresh.authorizations⟩
  keyed := fun hconnected => h.keyed (hframes.connected.symm.trans hconnected)
  authorizations := fun hconnected =>
    hframes.authorizations.trans (h.authorizations (hframes.connected.symm.trans hconnected))
  alive := fun hdead => h.alive (hframes.terminated hdead)

/-- A step of a connected client that may hand something to its queue. -/
theorem Inv.ofQueue (h : Inv P config connection queue) (hconnected : connection.connected = true)
    {after : SendingQueue.State Bytes} (hkeyed : Keyed P config after) :
    Inv P config connection after where
  configured := h.configured
  fresh := fun hfresh => by
    rw [hconnected] at hfresh
    cases hfresh
  keyed := fun _ => hkeyed
  authorizations := h.authorizations
  alive := h.alive

theorem Inv.enterHandler (h : Inv P config connection queue) :
    Inv P config connection.enterHandler queue :=
  h.ofConnection .enterHandler
    (by rw [ServerConnection.toManagers_enterHandler]; exact h.configured)
    fun hconnected => by
      rw [ServerConnection.toManagers_enterHandler]
      exact (h.fresh hconnected).managers

/-- The key is the first message of an empty queue of an open stream. -/
theorem keyed_handshake (P : OwnMessage → Prop) (config : Config Plugin) :
    Keyed P config (SendingQueue.State.send { SendingQueue.State.start with isOpen := true } true
      config.keyFrame) :=
  ⟨⟨[], rfl, nofun⟩, ⟨[], rfl⟩⟩

theorem Inv.handshake (h : Inv P config s.connection s.sendingQueue)
    (hconnected : s.connection.connected = false) (spawned : Spawned) :
    Inv P config (s.handshake config spawned).connection
      (s.handshake config spawned).sendingQueue := by
  obtain ⟨hmanagers, hqueue, hnone⟩ := h.fresh hconnected
  have hthreadless : s.connection.Threadless := by
    rw [hmanagers]
    exact ⟨rfl, rfl, rfl⟩
  let connected := { s.connection with connected := true }
  have hauthorized : connected.onAuthorized config.toConfig .connected spawned =
      (connected.logAuthorization .connected).authorized config.toConfig spawned := by
    rcases connected.onAuthorized_cases config.toConfig .connected spawned with
      ⟨-, heq⟩ | ⟨hthread, -⟩
    · exact heq
    · exact absurd ⟨hthreadless.1, hthreadless.2, hthreadless.3⟩ hthread
  have hresult : (s.handshake config spawned).connection =
      (connected.logAuthorization .connected).authorized config.toConfig spawned := hauthorized
  have hsent : (s.handshake config spawned).sendingQueue = SendingQueue.State.send
      { SendingQueue.State.start with isOpen := true } true config.keyFrame := by
    rw [← hqueue]
    rfl
  rw [hresult, hsent]
  refine ⟨h.configured.init, nofun, fun _ => keyed_handshake P config, fun _ => ?_, h.alive⟩
  simp [ServerConnection.State.authorized, ServerConnection.State.logAuthorization, connected,
    hnone]

theorem Inv.receive (h : Inv P config s.connection s.sendingQueue)
    (hconnected : s.connection.connected = true) (frame : Bytes) :
    Inv P config (s.receive frame).connection (s.receive frame).sendingQueue := by
  have hentered := h.enterHandler
  have hnotFresh : ∀ {P : Prop}, s.connection.enterHandler.connected = false → P := by
    intro P hfresh
    have hsame := (ServerConnection.Frames.enterHandler (s := s.connection)).connected
    rw [hsame, hconnected] at hfresh
    cases hfresh
  unfold State.receive
  cases RclMessage.fromFlatBuffer frame with
  | error fault =>
      exact hentered.ofConnection (.terminate (by simp)) hentered.configured hnotFresh
  | ok message =>
      simp only [State.processMessage]
      split
      · exact hentered
      · exact hentered.ofConnection (ServerConnection.processData_frames message)
          (ServerConnection.configured_processData hentered.configured message) hnotFresh

theorem Inv.next (h : Inv P config s.connection s.sendingQueue)
    (henabled : enabled config s label = true) (hemits : Emits P s label) :
    Inv P config (next config s label).connection (next config s label).sendingQueue := by
  cases label with
  | handshake spawned =>
      simp only [enabled, Bool.and_eq_true, Bool.not_eq_true'] at henabled
      exact h.handshake henabled.1.2 spawned
  | receive frame =>
      simp only [enabled, Bool.and_eq_true] at henabled
      exact h.receive henabled.1.2 frame
  | turn label =>
      obtain ⟨hturn, hrun⟩ := Bool.and_eq_true_iff.mp henabled
      refine h.ofConnection (ServerConnection.frames_turn hturn)
        (ServerConnection.configured_turn h.configured hturn) fun hconnected => ?_
      rw [ServerConnection.not_enabled_turn (h.fresh hconnected).managers hturn] at hrun
      cases hrun
  | emit emission =>
      simp only [enabled, Bool.and_eq_true, Option.isSome_iff_exists] at henabled
      obtain ⟨-, combinedVector, hvector⟩ := henabled
      simp only [ClientConnection.next, State.emit, hvector]
      cases hconnected : s.connection.connected with
      | false =>
          rw [(h.fresh hconnected).managers, Emission.combinedVector_start] at hvector
          cases hvector
      | true =>
          obtain ⟨own, hown, hframe⟩ := Emission.exists_own hvector
          obtain ⟨hchannel, hkey⟩ := Emission.onChannel_own h.configured hown
          exact h.ofQueue hconnected
            ((h.keyed hconnected).post ⟨own, hchannel, hemits own hown, hkey, hframe⟩)
  | runPosted =>
      simp only [enabled, Bool.and_eq_true, Bool.not_eq_true'] at henabled
      cases hconnected : s.connection.connected with
      | false =>
          rw [(h.fresh hconnected).sendingQueue] at henabled
          cases henabled.2
      | true =>
          obtain ⟨hsame, hqueued, hwritten⟩ := SendingQueue.queued_runPosted s.sendingQueue
          exact (h.ofQueue hconnected
            ((h.keyed hconnected).ofSame hsame hqueued hwritten)).enterHandler
  | complete position error =>
      simp only [enabled, Bool.and_eq_true, decide_eq_true_eq] at henabled
      cases hconnected : s.connection.connected with
      | false =>
          rw [(h.fresh hconnected).sendingQueue] at henabled
          cases henabled.2
      | true =>
          obtain ⟨hqueued, hposted, hwritten⟩ :=
            SendingQueue.queued_complete s.sendingQueue position error
          exact (h.ofQueue hconnected ((h.keyed hconnected).ofSame (by rw [hqueued, hposted])
            (by rw [hqueued]) hwritten)).enterHandler
  | streamClosed =>
      cases hconnected : s.connection.connected with
      | false =>
          have hfresh := h.fresh hconnected
          have hclosed : (next config s .streamClosed).sendingQueue = .start := by
            simp only [ClientConnection.next, hfresh.sendingQueue]
            rfl
          rw [hclosed, ← hfresh.sendingQueue]
          exact h
      | true =>
          have hkeyed := h.keyed hconnected
          exact h.ofQueue hconnected ⟨hkeyed.queued, hkeyed.written⟩
  | stopConnection =>
      have hframes : ServerConnection.Frames s.connection s.connection.stopConnectionInternal :=
        @ServerConnection.next_frames _ config.toConfig s.connection .stopConnection (by simp)
          (by simp)
      exact h.ofConnection hframes SubscriberManager.Configured.onStopThread fun hconnected =>
        ServerConnection.stopConnectionInternal_start (h.fresh hconnected).managers
  | close reason =>
      exact h.ofConnection ⟨rfl, rfl, rfl, id, id⟩ h.configured fun hconnected =>
        (h.fresh hconnected).managers

theorem inv_of_reachable (h : (ClientConnection.connection config).ReachableWith (Emits P) s) :
    Inv P config s.connection s.sendingQueue :=
  h.invariant (fun s => Inv P config s.connection s.sendingQueue) (.start P config)
    (fun _ _ hinv henabled hemits => hinv.next henabled hemits)

/-- Nothing but the key and data behind it is written. -/
theorem Keyed.written_data (h : Keyed P config queue)
    (hqueue : (SendingQueue.connection Bytes).Reachable queue) :
    ∃ rest, queue.written = config.keyFrame :: rest ∧
      ∀ frame ∈ rest, OwnData P config.codecs frame := by
  obtain ⟨rest, hqueued, hdata⟩ := h.queued
  obtain ⟨written, hwritten⟩ := h.written
  have hsublist := SendingQueue.written_sublist hqueue
  rw [hqueued, hwritten] at hsublist
  exact ⟨written, hwritten, fun frame hframe => hdata frame (List.mem_append_left _
    (List.Sublist.of_cons_cons hsublist |>.subset hframe))⟩

/-- Only the handshake connects. -/
theorem connected_next (henabled : enabled config s label = true)
    (hlabel : ∀ spawned, label ≠ .handshake spawned) :
    (next config s label).connection.connected = s.connection.connected := by
  have hentered : s.connection.enterHandler.connected = s.connection.connected :=
    ServerConnection.Frames.enterHandler.connected
  cases label with
  | handshake spawned => exact absurd rfl (hlabel spawned)
  | receive frame =>
      simp only [ClientConnection.next, State.receive]
      split
      · exact hentered
      · simp only [State.processMessage]
        split
        · exact hentered
        · exact (ServerConnection.processData_frames _).connected.trans hentered
  | turn label =>
      exact (ServerConnection.frames_turn (Bool.and_eq_true_iff.mp henabled).1).connected
  | emit emission =>
      simp only [ClientConnection.next, State.emit]
      split <;> rfl
  | runPosted | complete => exact hentered
  | streamClosed | stopConnection | close => rfl

theorem connected_handshake (spawned : ServerConnection.Spawned) :
    (next config s (.handshake spawned)).connection.connected = true := by
  let connected := { s.connection with connected := true }
  have hcases := connected.onAuthorized_cases config.toConfig .connected spawned
  have hresult : (next config s (.handshake spawned)).connection =
      connected.onAuthorized config.toConfig .connected spawned := rfl
  rw [hresult]
  rcases hcases with ⟨-, heq⟩ | ⟨-, heq⟩ <;> rw [heq] <;> rfl

theorem notified_eq (hlabel : ∀ reason, label ≠ .close reason) :
    (next config s label).notified = s.notified ∧ (next config s label).closed = s.closed := by
  cases label with
  | receive frame =>
      simp only [ClientConnection.next, State.receive]
      split
      · exact ⟨rfl, rfl⟩
      · simp only [State.processMessage]
        split <;> exact ⟨rfl, rfl⟩
  | emit emission =>
      simp only [ClientConnection.next, State.emit]
      split <;> exact ⟨rfl, rfl⟩
  | close reason => exact absurd rfl (hlabel reason)
  | handshake | turn | runPosted | complete | streamClosed | stopConnection => exact ⟨rfl, rfl⟩

/-- `close` tells the server of a stream that is open. -/
theorem notified_next (label : Label) :
    (next config s label).notified = s.notified ∨
      (s.sendingQueue.isOpen = true ∧ ∃ reason, (next config s label).notified =
        s.notified ++ [(PeerData.State.notification reason).combinedVector]) := by
  by_cases hlabel : ∃ reason, label = .close reason
  · obtain ⟨reason, rfl⟩ := hlabel
    cases hopen : s.sendingQueue.isOpen with
    | false => exact .inl (by simp [ClientConnection.next, PeerData.State.close, hopen])
    | true => exact .inr ⟨rfl, reason, by
        simp [ClientConnection.next, PeerData.State.close, hopen]⟩
  · exact .inl (notified_eq (not_exists.mp hlabel)).1

/-- `close` sends a message with the reason. -/
theorem ownData_notification {P : OwnMessage → Prop} (hP : ∀ text, P (.notification text))
    (codecs : Codecs) (reason : Bytes) :
    OwnData P codecs (PeerData.State.notification reason).combinedVector :=
  ⟨.notification ("Peer closed connection. Reason: ".toUTF8.toList ++ reason), trivial, hP _,
    nofun, rfl⟩

/-- What a client has told its server when it was closed. -/
structure Notified (s : State Plugin) : Prop where
  unclosed : s.closed = false → s.notified = []
  disconnected : s.connection.connected = false → s.notified = []
  reason : s.notified = [] ∨
    ∃ reason, s.notified = [(PeerData.State.notification reason).combinedVector]

theorem Notified.start : Notified (.start : State Plugin) :=
  ⟨fun _ => rfl, fun _ => rfl, .inl rfl⟩

/-- It tells it once, and not before the handshake. -/
theorem Notified.next (h : Notified s) (hinv : Inv P config s.connection s.sendingQueue)
    (henabled : enabled config s label = true) : Notified (next config s label) := by
  by_cases hlabel : ∃ reason, label = .close reason
  · obtain ⟨reason, rfl⟩ := hlabel
    simp only [enabled, Bool.and_eq_true, Bool.not_eq_true'] at henabled
    have hnone : s.notified = [] := h.unclosed henabled.2
    rcases @notified_next _ config s (.close reason) with hsame | ⟨hopen, told, htold⟩
    · exact ⟨fun hstill => absurd hstill Bool.true_eq_false.mp, fun _ => hsame.trans hnone,
        .inl (hsame.trans hnone)⟩
    · refine ⟨fun hstill => absurd hstill Bool.true_eq_false.mp, fun hconnected => ?_,
        .inr ⟨told, by rw [htold, hnone, List.nil_append]⟩⟩
      rw [(hinv.fresh hconnected).sendingQueue] at hopen
      cases hopen
  · obtain ⟨hnotified, hclosed⟩ := @notified_eq _ config s label (not_exists.mp hlabel)
    refine ⟨fun hstill => hnotified.trans (h.unclosed (hclosed.symm.trans hstill)),
      fun hconnected => hnotified.trans (h.disconnected ?_), by rw [hnotified]; exact h.reason⟩
    by_cases hhandshake : ∃ spawned, label = .handshake spawned
    · obtain ⟨spawned, rfl⟩ := hhandshake
      rw [connected_handshake] at hconnected
      cases hconnected
    · exact (connected_next henabled (not_exists.mp hhandshake)).symm.trans hconnected

end ClientConnection

end Ros2Connect
