import Ros2Connect.Connection.SessionOrder

/-!
The authorization of a server connection whose peer is the program's own client.
The client writes its user key first and only once, so that no data is early and
no key is validated again.
-/

namespace Ros2Connect

open Lib

namespace ServerConnection

variable {Plugin : Type} {config : Config Plugin} {s : State Plugin} {label : Label}

/-- The managers have received nothing. -/
structure Idle (managers : Managers Plugin) : Prop where
  toPublish : managers.publisherManager.toPublish = []
  toSubscribe : managers.subscriberManager.toSubscribe = []
  toHandle : managers.toHandle = []

theorem Idle.onlyIneffective {managers : Managers Plugin} (h : Idle managers) :
    OnlyIneffective config managers where
  toPublish := by
    rw [h.toPublish]
    nofun
  toSubscribe := by
    rw [h.toSubscribe]
    nofun
  toHandle := by
    rw [h.toHandle]
    nofun

/-- No thread of a manager runs before `onAuthorized`. -/
theorem Queues.not_enabled_turn (h : Queues s.toManagers) (hturn : label.isTurn = true) :
    enabled s label = false := by
  cases label with
  | connect | receive | validAuthenticationCheck | authenticationEnd | stopConnection =>
      simp [Label.isTurn] at hturn
  | threadedTake | threadedRun =>
      rw [enabled, h.publisherManager]
      simp [PublisherManager.start]
  | publisherTake | publisherRun => simp [enabled, h.threadless.publisherThread]
  | subscriberTake | subscriberRun => simp [enabled, h.threadless.subscriberThread]
  | serviceActionTake | serviceActionRun => simp [enabled, h.threadless.serviceActionThread]

/-- Of what an unauthorized connection does, only receiving a message fills a
queue. -/
theorem Idle.next (h : Idle s.toManagers) (hqueues : Queues s.toManagers)
    (henabled : enabled s label = true)
    (hreceive : ∀ frame check spawned, label ≠ .receive frame check spawned) :
    Idle (next config s label).toManagers := by
  have hturn : label.isTurn = true → False := fun hturn => by
    rw [hqueues.not_enabled_turn hturn] at henabled
    cases henabled
  cases label with
  | receive frame check spawned => exact absurd rfl (hreceive frame check spawned)
  | connect spawned =>
      simp only [ServerConnection.next, State.onConnected]
      split
      · let connected := { s with connected := true }
        rcases connected.onAuthorized_cases config .connected spawned with
          ⟨-, heq⟩ | ⟨-, heq⟩ <;>
          exact heq ▸ ⟨h.toPublish, h.toSubscribe, h.toHandle⟩
      · exact ⟨h.toPublish, h.toSubscribe, h.toHandle⟩
  | validAuthenticationCheck =>
      simp only [ServerConnection.next, State.validAuthenticationCheckCallback]
      split
      · exact ⟨h.toPublish, h.toSubscribe, h.toHandle⟩
      · split <;> exact ⟨h.toPublish, h.toSubscribe, h.toHandle⟩
  | authenticationEnd | stopConnection => exact ⟨h.toPublish, h.toSubscribe, h.toHandle⟩
  | publisherTake | publisherRun | threadedTake | threadedRun | subscriberTake | subscriberRun
  | serviceActionTake | serviceActionRun => exact (hturn rfl).elim

/-- Data a server receives goes to one of its managers. -/
theorem receive_ownData (hcodecs : config.codecs.RoundTrip) {P : OwnMessage → Prop}
    {frame : Bytes} (h : OwnData P config.codecs frame) (check : KeyCheck) (spawned : Spawned) :
    ∃ message, s.receive config frame check spawned = s.enterHandler.processData message := by
  obtain ⟨message, hmessage, hkey⟩ := h.exists_fromFlatBuffer hcodecs
  exact ⟨message, by simp [State.receive, hmessage, State.processMessage, hkey]⟩

/-- A user key is validated up to its first NUL. -/
theorem receive_userKey (userKey : Bytes) (check : KeyCheck) (spawned : Spawned) :
    s.receive config (VectorMessage.forOpCodeAuthentication userKey).combinedVector check spawned =
      s.enterHandler.validateUserKeyForAuthentication config (userKey.takeWhile (· != 0)) check
        spawned := by
  have hmessage := OwnMessage.fromFlatBuffer_forOpCodeString .authentication userKey
  have hread := OwnMessage.readString_forOpCodeString .authentication userKey
    (UInt32.ofNat (userKey ++ [0] ++ [0]).length)
  have hstring := ((RclMessage.readString_eq_ok_iff _ _).mp hread).2
  rw [hstring]
  simp only [State.receive, VectorMessage.forOpCodeAuthentication, hmessage]
  rfl

end ServerConnection

namespace Session

open ServerConnection (EarlyData Idle DiscardsEarly Validates Authorizes Cause)

variable {Plugin : Type} {P : OwnMessage → Prop} {config : Config Plugin} {s : State Plugin}
  {label : Label}
  {connection : ServerConnection.State Plugin} {read : List Bytes}

/-- What authorizes the server: the connection itself if authentication is
omitted, and the key of the client otherwise. -/
def Authorizing (config : Config Plugin) (cause : Cause) : Prop :=
  if config.server.authenticationOmit then cause = .connected
  else ∃ returned, cause = .userKey (config.client.userKey.takeWhile (· != 0)) returned

/-- What the steps of a session keep of its server. -/
structure Admitted (config : Config Plugin) (connection : ServerConnection.State Plugin)
    (read : List Bytes) : Prop where
  early : EarlyData config.server connection
  unread : read = [] → connection.authorizations = [] → Idle connection.toManagers
  disconnected : connection.connected = false → read = [] ∧ connection.authorizations = []
  unkeyed : config.server.authenticationOmit = false → read = [] →
    connection.authorizations = []
  threadless : connection.authorizations = [] → connection.Threadless
  once : connection.authorizations.length ≤ 1
  cause : ∀ cause ∈ connection.authorizations, Authorizing config cause
  alive : connection.terminated ≠ some .unjoinedThread

theorem Admitted.start (config : Config Plugin) : Admitted config .start [] where
  early := .start
  unread := fun _ _ => ⟨rfl, rfl, rfl⟩
  disconnected := fun _ => ⟨rfl, rfl⟩
  unkeyed := fun _ _ => rfl
  threadless := fun _ => ⟨rfl, rfl, rfl⟩
  once := Nat.zero_le _
  cause := nofun
  alive := nofun

/-- A step that does not authorize the connection. -/
structure Keeps (connection after : ServerConnection.State Plugin) : Prop where
  connected : after.connected = connection.connected
  authorizations : after.authorizations = connection.authorizations
  threadless : connection.Threadless → after.Threadless
  terminated : after.terminated = some .unjoinedThread →
    connection.terminated = some .unjoinedThread

theorem Keeps.ofFrames {after : ServerConnection.State Plugin}
    (h : ServerConnection.Frames connection after) : Keeps connection after :=
  ⟨h.connected, h.authorizations, h.threadless, h.terminated⟩

theorem Keeps.trans {middle after : ServerConnection.State Plugin}
    (h : Keeps connection middle) (hrest : Keeps middle after) : Keeps connection after :=
  ⟨hrest.connected.trans h.connected, hrest.authorizations.trans h.authorizations,
    fun hnull => hrest.threadless (h.threadless hnull),
    fun hdead => h.terminated (hrest.terminated hdead)⟩

/-- A step that leaves the threads alone. -/
theorem Keeps.ofSame {after : ServerConnection.State Plugin}
    (hconnected : after.connected = connection.connected)
    (hauthorizations : after.authorizations = connection.authorizations)
    (hmanagers : after.toManagers = connection.toManagers)
    (hterminated : after.terminated = connection.terminated) : Keeps connection after where
  connected := hconnected
  authorizations := hauthorizations
  threadless := by
    rw [hmanagers]
    exact id
  terminated := by
    rw [hterminated]
    exact id

/-- A step that neither authorizes the connection nor reads a frame. -/
theorem Admitted.ofFrames (h : Admitted config connection read)
    {after : ServerConnection.State Plugin}
    (hframes : Keeps connection after) (hearly : EarlyData config.server after)
    (hidle : connection.authorizations = [] → Idle connection.toManagers →
      Idle after.toManagers) : Admitted config after read where
  early := hearly
  unread := fun hread hnone =>
    have hold := hframes.authorizations.symm.trans hnone
    hidle hold (h.unread hread hold)
  disconnected := fun hconnected => by
    rw [hframes.authorizations]
    exact h.disconnected (hframes.connected.symm.trans hconnected)
  unkeyed := fun homit hread => hframes.authorizations.trans (h.unkeyed homit hread)
  threadless := fun hnone =>
    hframes.threadless (h.threadless (hframes.authorizations.symm.trans hnone))
  once := by
    rw [hframes.authorizations]
    exact h.once
  cause := by
    rw [hframes.authorizations]
    exact h.cause
  alive := fun hdead => h.alive (hframes.terminated hdead)

/-- A frame that was read and authorizes nobody. -/
theorem Admitted.ofRead (h : Admitted config connection read)
    (hconnected : connection.connected = true) (frame : Bytes)
    {after : ServerConnection.State Plugin}
    (hframes : Keeps connection after)
    (hearly : EarlyData config.server after) : Admitted config after (read ++ [frame]) where
  early := hearly
  unread := fun hread => absurd hread (by simp)
  disconnected := fun hfresh => by
    rw [hframes.connected, hconnected] at hfresh
    cases hfresh
  unkeyed := fun _ hread => absurd hread (by simp)
  threadless := fun hnone =>
    hframes.threadless (h.threadless (hframes.authorizations.symm.trans hnone))
  once := by
    rw [hframes.authorizations]
    exact h.once
  cause := by
    rw [hframes.authorizations]
    exact h.cause
  alive := fun hdead => h.alive (hframes.terminated hdead)

/-- The first authorization. -/
theorem admitted_onAuthorized (hearly : EarlyData config.server connection)
    (hidle : Idle connection.toManagers) (hnone : connection.authorizations = [])
    (hthreadless : connection.Threadless) (halive : connection.terminated ≠ some .unjoinedThread)
    (hconnected : connection.connected = true)
    (hread : config.server.authenticationOmit = false → read ≠ []) {cause : Cause}
    (hcause : Authorizing config cause) (spawned : ServerConnection.Spawned) :
    Admitted config (connection.onAuthorized config.server cause spawned) read := by
  have hafter := hearly.onAuthorized hidle.onlyIneffective cause spawned
  have hauthorized : connection.onAuthorized config.server cause spawned =
      (connection.logAuthorization cause).authorized config.server spawned := by
    rcases connection.onAuthorized_cases config.server cause spawned with ⟨-, heq⟩ | ⟨hthread, -⟩
    · exact heq
    · exact absurd hthreadless hthread
  have hlog : (connection.onAuthorized config.server cause spawned).authorizations = [cause] := by
    rw [hauthorized]
    simp [ServerConnection.State.authorized, ServerConnection.State.logAuthorization, hnone]
  have hstill : (connection.onAuthorized config.server cause spawned).connected = true := by
    rw [hauthorized]
    exact hconnected
  refine ⟨hafter, ?_, ?_, fun homit hempty => absurd hempty (hread homit), ?_, ?_, ?_, ?_⟩
  · rw [hlog]
    intro _ hnil
    cases hnil
  · rw [hstill]
    intro hfalse
    cases hfalse
  · rw [hlog]
    intro hnil
    cases hnil
  · rw [hlog]
    exact Nat.le_refl 1
  · rw [hlog]
    intro other hother
    exact List.mem_singleton.mp hother ▸ hcause
  · rw [hauthorized]
    exact halive

/-- The key of the client is the first frame. -/
theorem Admitted.userKey (h : Admitted config connection [])
    (hconnected : connection.connected = true) (check : ServerConnection.KeyCheck)
    (spawned : ServerConnection.Spawned) :
    Admitted config (connection.validateUserKeyForAuthentication config.server
      (config.client.userKey.takeWhile (· != 0)) check spawned) [config.client.keyFrame] := by
  have hstored : EarlyData config.server (connection.store check) := h.early.ofSame rfl rfl
  have hread : ∀ {after : ServerConnection.State Plugin}, Keeps connection after →
      EarlyData config.server after → Admitted config after [config.client.keyFrame] :=
    fun hkeeps hearly => h.ofRead hconnected _ hkeeps hearly
  unfold ServerConnection.State.validateUserKeyForAuthentication
  cases homit : config.server.authenticationOmit with
  | true => exact hread (.ofSame rfl rfl rfl rfl) (h.early.ofSame rfl rfl)
  | false =>
      have hnone := h.unkeyed homit rfl
      have hcause : Authorizing config
          (.userKey (config.client.userKey.takeWhile (· != 0)) check.returned) := by
        simp [Authorizing, homit]
      simp only [Bool.false_eq_true, if_false]
      split
      · exact hread (.ofSame rfl rfl rfl rfl) (h.early.ofSame rfl rfl)
      · split
        · exact hread (.ofSame rfl rfl rfl rfl) (hstored.ofSame rfl rfl)
        · have hauthorized : Admitted config ((connection.store check).onAuthorized config.server
              (.userKey (config.client.userKey.takeWhile (· != 0)) check.returned) spawned)
              [config.client.keyFrame] :=
            admitted_onAuthorized hstored (h.unread rfl hnone)
              hnone ⟨(h.threadless hnone).1, (h.threadless hnone).2, (h.threadless hnone).3⟩
              h.alive hconnected (fun _ => by simp) hcause spawned
          split
          · exact hauthorized.ofFrames (.ofFrames ServerConnection.respond_frames)
              hauthorized.early.respond fun _ hidle => by
                unfold ServerConnection.State.respond
                split <;> exact ⟨hidle.toPublish, hidle.toSubscribe, hidle.toHandle⟩
          · exact hauthorized

/-- `onConnected` authorizes the connection if authentication is omitted. -/
theorem Admitted.connect (h : Admitted config connection read)
    (hdisconnected : connection.connected = false)
    (spawned : ServerConnection.Spawned) :
    Admitted config (connection.onConnected config.server spawned) read := by
  obtain ⟨hread, hnone⟩ := h.disconnected hdisconnected
  have hnull := h.threadless hnone
  unfold ServerConnection.State.onConnected
  cases homit : config.server.authenticationOmit with
  | true =>
      have hcause : Authorizing config .connected := by simp [Authorizing, homit]
      have hearly : EarlyData config.server { connection with connected := true } :=
        h.early.ofSame rfl rfl
      exact admitted_onAuthorized hearly (h.unread hread hnone) hnone
        ⟨hnull.1, hnull.2, hnull.3⟩ h.alive rfl
        (fun hrequired => by rw [homit] at hrequired; cases hrequired) hcause spawned
  | false =>
      exact ⟨h.early.ofSame rfl rfl, h.unread, nofun, h.unkeyed,
        fun _ => ⟨hnull.1, hnull.2, hnull.3⟩, h.once, h.cause, h.alive⟩

theorem Admitted.enterHandler (h : Admitted config connection read) :
    Admitted config connection.enterHandler read :=
  h.ofFrames (.ofFrames .enterHandler) h.early.enterHandler fun _ hidle => by
    rw [ServerConnection.toManagers_enterHandler]
    exact hidle

/-- The server reads the key of the client first, and data from then on. -/
theorem Admitted.receive (h : Admitted config connection read)
    (hcodecs : config.server.codecs.RoundTrip) (hconnected : connection.connected = true)
    {frame : Bytes} (hfirst : read = [] → frame = config.client.keyFrame)
    (hrest : read ≠ [] → OwnData P config.server.codecs frame)
    (check : ServerConnection.KeyCheck) (spawned : ServerConnection.Spawned) :
    Admitted config (connection.receive config.server frame check spawned) (read ++ [frame]) := by
  have hentered := h.enterHandler
  have hstill : connection.enterHandler.connected = true :=
    ServerConnection.Frames.enterHandler.connected.trans hconnected
  by_cases hread : read = []
  · subst hread
    obtain rfl := hfirst rfl
    rw [ClientConnection.Config.keyFrame, ServerConnection.receive_userKey, List.nil_append]
    exact hentered.userKey hstill check spawned
  · obtain ⟨message, hreceived⟩ := ServerConnection.receive_ownData
      (s := connection) hcodecs (hrest hread) check spawned
    rw [hreceived]
    exact hentered.ofRead hstill frame (.ofFrames (ServerConnection.processData_frames message))
      (hentered.early.processData message)

/-- A step that reads no frame. -/
theorem Admitted.readNone (h : Admitted config connection read) :
    Admitted config connection (read ++ (none : Option Bytes).toList) := by
  rw [Option.toList_none, List.append_nil]
  exact h

/-- A step of the connection itself. -/
theorem Admitted.run (h : Admitted config connection read)
    (hcodecs : config.server.codecs.RoundTrip) {label : ServerConnection.Label}
    (henabled : ServerConnection.enabled connection label = true)
    (hfirst : ∀ frame ∈ frameRead (.connection label), read = [] → frame = config.client.keyFrame)
    (hrest : ∀ frame ∈ frameRead (.connection label), read ≠ [] →
      OwnData P config.server.codecs frame) :
    Admitted config (ServerConnection.next config.server connection label)
      (read ++ (frameRead (.connection label)).toList) := by
  have hquiet : (∀ spawned, label ≠ .connect spawned) →
      (∀ frame check spawned, label ≠ .receive frame check spawned) →
      Admitted config (ServerConnection.next config.server connection label) read := by
    intro hconnect hreceive
    refine h.ofFrames (.ofFrames (ServerConnection.next_frames hconnect hreceive))
      (h.early.next henabled fun hauthorizes => ?_)
      fun hnone hidle => hidle.next (h.early.unauthorized hnone) henabled hreceive
    cases label with
    | connect spawned => exact absurd rfl (hconnect spawned)
    | receive frame check spawned => exact absurd rfl (hreceive frame check spawned)
    | _ => cases hauthorizes
  cases label with
  | connect spawned =>
      simp only [ServerConnection.enabled, Bool.and_eq_true, Bool.not_eq_true'] at henabled
      exact (h.connect henabled.1.2 spawned).readNone
  | receive frame check spawned =>
      simp only [ServerConnection.enabled, Bool.and_eq_true] at henabled
      exact h.receive hcodecs henabled.1.2 (hfirst frame rfl) (hrest frame rfl) check spawned
  | validAuthenticationCheck | authenticationEnd | stopConnection | publisherTake | publisherRun
  | threadedTake | threadedRun | subscriberTake | subscriberRun | serviceActionTake
  | serviceActionRun => exact (hquiet (by simp) (by simp)).readNone

/-- A step of the server, whichever frame it reads. -/
theorem Admitted.stepServer (h : Admitted config s.server.connection s.read)
    (hcodecs : config.server.codecs.RoundTrip) {label : PeerData.Label}
    (henabled : PeerData.enabled config.server s.server label = true)
    (hfirst : ∀ frame ∈ frameRead label, s.read = [] → frame = config.client.keyFrame)
    (hrest : ∀ frame ∈ frameRead label, s.read ≠ [] → OwnData P config.server.codecs frame) :
    Admitted config (s.stepServer config label).server.connection
      (s.stepServer config label).read := by
  cases label with
  | connection label =>
      simp only [State.stepServer, PeerData.next, PeerData.State.runConnection,
        (PeerData.foldl_send _ _).2.1]
      exact h.run hcodecs henabled hfirst hrest
  | keyCheckThrows frame =>
      simp only [PeerData.enabled, Bool.and_eq_true, decide_eq_true_eq] at henabled
      have hkeeps : Keeps s.server.connection s.server.connection.enterHandler :=
        .ofFrames .enterHandler
      exact h.ofRead henabled.1.1.2 frame (hkeeps.trans (.ofSame rfl rfl rfl rfl))
        (h.early.enterHandler.ofSame rfl rfl)
  | pluginSets user endTime =>
      refine Admitted.readNone (h.ofFrames (.ofSame rfl rfl rfl rfl) (h.early.ofSame rfl rfl) ?_)
      exact fun _ hidle => hidle
  | runPosted | complete => exact h.enterHandler.readNone
  | close reason =>
      refine Admitted.readNone (h.ofFrames (.ofSame rfl rfl rfl rfl) (h.early.ofSame rfl rfl) ?_)
      exact fun _ hidle => hidle
  | notifyAboutSubscriber | subscriberSends | sendClock | pluginSends | setOpen =>
      exact h.readNone

/-- What a session keeps of its server. -/
theorem admitted_of_reachable (hcodecs : config.server.codecs.RoundTrip)
    (h : (session config).Reachable s) : Admitted config s.server.connection s.read := by
  refine h.layered (fun s => Admitted config s.server.connection s.read) (.start config) ?_
  intro s label hreach hinv henabled _
  have hkey := keyFirst_of_reachable hreach
  cases label with
  | server label =>
      simp only [session, enabled, Bool.and_eq_true] at henabled
      have hread := hkey.frameRead henabled.2
      exact hinv.stepServer hcodecs henabled.1.1 (fun frame hframe => (hread frame hframe).1)
        fun frame hframe => (hread frame hframe).2
  | serverEmits emission =>
      simp only [session, next, State.emitServer]
      split
      · exact hinv
      · rename_i combinedVector hvector
        simp only [session, enabled, Bool.and_eq_true] at henabled
        refine hinv.stepServer (P := fun _ => True) hcodecs
          (enabled_emissionLabel henabled.1 hvector) ?_ ?_ <;>
          simp [frameRead_emissionLabel]
  | client label => exact hinv

/-- Between two of the program's own nodes, whatever the authentication plugin
does, the server is authorized once at most, by the key of the client or by
itself, starts no thread over one that exists, and lets no message take effect that
it has received before. -/
theorem server_authorizedOnce (config : Config Plugin)
    (hcodecs : config.server.codecs.RoundTrip) (s : State Plugin)
    (h : (session config).Reachable s) :
    s.server.connection.authorizations.length ≤ 1 ∧
      (∀ cause ∈ s.server.connection.authorizations, Authorizing config cause) ∧
      s.server.connection.terminated ≠ some .unjoinedThread ∧
      DiscardsEarly s.server.connection.toManagers := by
  have hadmitted := admitted_of_reachable hcodecs h
  exact ⟨hadmitted.once, hadmitted.cause, hadmitted.alive, hadmitted.early.discardsEarly⟩

private theorem keyedSession_checked :
    GlobalConfig.Checked [⟨7, false, false, ⟨.none, 0⟩⟩] [] :=
  ⟨by decide, by decide, by decide, by decide⟩

/-- Two nodes with a shared publisher. -/
private def keyedSession : Config Unit where
  server := {
    toGlobalConfig := .ofChecked _ _ false keyedSession_checked
    authenticationOmit := false
    authenticationPlugin := true
    serviceServer := []
    serviceClient := []
    actionServer := []
    actionClient := []
    codecs := literalCodecs }
  client := {
    toGlobalConfig := .ofChecked _ _ false keyedSession_checked
    authenticationOmit := false
    authenticationPlugin := false
    serviceServer := []
    serviceClient := []
    actionServer := []
    actionClient := []
    codecs := literalCodecs
    userKey := [107] }
  sameCodecs := rfl

/-- The key "k" is read and sets the user "u". -/
theorem server_authorizedOnce_userKey : ∃ s : State Unit,
    s.server.connection.authorizations = [.userKey [107] true] ∧
      s.server.connection.authorizations.length ≤ 1 ∧
      (∀ cause ∈ s.server.connection.authorizations, Authorizing keyedSession cause) ∧
      s.server.connection.terminated ≠ some .unjoinedThread ∧
      DiscardsEarly s.server.connection.toManagers := by
  obtain ⟨s, hreach, hcauses⟩ := Machine.exists_reachable (M := session keyedSession)
    (fun s => s.server.connection.authorizations = [.userKey [107] true])
    [.client (.handshake ⟨true, true, true⟩), .server (.connection (.connect ⟨true, true, true⟩)),
      .server (.connection (.receive keyedSession.client.keyFrame ⟨true, some [117], none⟩
        ⟨true, true, true⟩))] (by decide +kernel)
  exact ⟨s, hcauses, server_authorizedOnce keyedSession literalCodecs_roundTrip s hreach⟩

end Session

end Ros2Connect
