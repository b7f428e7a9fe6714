import Ros2Connect.Connection.SessionTraffic

/-!
The answer of the server to the user key of its client. The server sends one
answer, the client logs what is in it, and none gets lost as long as frames are
written and read.
-/

namespace Ros2Connect

open Lib

namespace ServerConnection

variable {Plugin : Type} {config : Config Plugin} {s t : State Plugin} {label : Label}

theorem holdsUserKey_forOpCodeAuthentication (value : Bytes) :
    holdsUserKey (VectorMessage.forOpCodeAuthentication value).combinedVector = true := by
  simp only [holdsUserKey, VectorMessage.forOpCodeAuthentication,
    OwnMessage.fromFlatBuffer_forOpCodeString .authentication value]
  rfl

theorem not_holdsUserKey_ownData {P : OwnMessage → Prop} {codecs : Codecs}
    (hcodecs : codecs.RoundTrip) {frame : Bytes} (h : OwnData P codecs frame) :
    holdsUserKey frame = false := by
  obtain ⟨message, hmessage, hkey⟩ := h.exists_fromFlatBuffer hcodecs
  simpa [holdsUserKey, hmessage] using hkey

/-- A connection creates the subscribers of its configuration. -/
theorem configured_next (h : s.subscriberManager.Configured config.toGlobalConfig) :
    (next config s label).subscriberManager.Configured config.toGlobalConfig := by
  have hauthorized : ∀ {t : State Plugin} (cause : Cause) (spawned : Spawned),
      t.subscriberManager.Configured config.toGlobalConfig →
      (t.onAuthorized config cause spawned).subscriberManager.Configured
        config.toGlobalConfig := by
    intro t cause spawned hconfigured
    rcases t.onAuthorized_cases config cause spawned with ⟨-, heq⟩ | ⟨-, heq⟩ <;> rw [heq]
    · exact hconfigured.init
    · exact hconfigured
  have hentered : s.enterHandler.subscriberManager.Configured config.toGlobalConfig := by
    rw [toManagers_enterHandler]
    exact h
  cases label with
  | connect spawned =>
      simp only [ServerConnection.next, State.onConnected]
      split
      · exact @hauthorized { s with connected := true } .connected spawned h
      · exact h
  | receive frame check spawned =>
      simp only [ServerConnection.next]
      have hreceives := receive_receives config frame check spawned s
      generalize s.receive config frame check spawned = after at hreceives
      have hstored : (s.enterHandler.store check).subscriberManager.Configured
          config.toGlobalConfig := hentered
      cases hreceives with
      | fault | omitted | unavailable | invalid => exact hentered
      | valid userKey hvalidates huser =>
          unfold State.respond
          split <;> exact hauthorized _ _ hstored
      | terminated userKey hvalidates huser => exact hauthorized _ _ hstored
      | data message => exact configured_processData hentered message
  | validAuthenticationCheck =>
      simp only [ServerConnection.next, State.validAuthenticationCheckCallback]
      split
      · exact h
      · split <;> exact h
  | authenticationEnd => exact h
  | stopConnection => exact SubscriberManager.Configured.onStopThread
  | publisherTake | publisherRun | threadedTake | threadedRun | subscriberTake | subscriberRun
  | serviceActionTake | serviceActionRun => exact configured_turn h rfl

/-- A step that neither answers nor takes a request to stop back. -/
structure Mute (s t : State Plugin) : Prop where
  connected : s.connected = true → t.connected = true
  authorizations : s.authorizations ≠ [] → t.authorizations ≠ []
  sent : t.sent = s.sent
  stopRequested : s.stopRequested = true → t.stopRequested = true

theorem Mute.enterHandler (s : State Plugin) : Mute s s.enterHandler := by
  unfold State.enterHandler
  split <;> exact ⟨id, id, rfl, id⟩

theorem Mute.processData (s : State Plugin) (message : RclMessage) :
    Mute s (s.processData message) := by
  unfold State.processData
  split <;> exact ⟨id, id, rfl, id⟩

theorem Mute.trans {middle : State Plugin} (h : Mute s middle) (hrest : Mute middle t) :
    Mute s t :=
  ⟨fun hconnected => hrest.connected (h.connected hconnected),
    fun hauthorized => hrest.authorizations (h.authorizations hauthorized),
    hrest.sent.trans h.sent, fun hstopped => hrest.stopRequested (h.stopRequested hstopped)⟩

theorem Mute.onAuthorized (config : Config Plugin) (s : State Plugin) (cause : Cause)
    (spawned : Spawned) :
    Mute s (s.onAuthorized config cause spawned) ∧
      (s.onAuthorized config cause spawned).authorizations ≠ [] := by
  rcases s.onAuthorized_cases config cause spawned with ⟨-, heq⟩ | ⟨-, heq⟩ <;> rw [heq] <;>
    exact ⟨⟨id, fun _ => by simp [State.authorized, State.terminate, State.logAuthorization],
      rfl, id⟩, by simp [State.authorized, State.terminate, State.logAuthorization]⟩

/-- Only a message that is received is answered. -/
theorem Mute.next (hreceive : ∀ frame check spawned, label ≠ .receive frame check spawned) :
    Mute s (next config s label) := by
  cases label with
  | connect spawned =>
      simp only [ServerConnection.next, State.onConnected]
      split
      · obtain ⟨hmute, -⟩ := Mute.onAuthorized config
          { s with connected := true } .connected spawned
        exact ⟨fun _ => hmute.connected rfl, hmute.authorizations, hmute.sent,
          hmute.stopRequested⟩
      · exact ⟨fun _ => rfl, id, rfl, id⟩
  | receive frame check spawned => exact absurd rfl (hreceive frame check spawned)
  | validAuthenticationCheck =>
      simp only [ServerConnection.next, State.validAuthenticationCheckCallback]
      split
      · exact ⟨id, id, rfl, id⟩
      · split
        · exact ⟨id, id, rfl, fun _ => rfl⟩
        · exact ⟨id, id, rfl, id⟩
  | authenticationEnd => exact ⟨id, id, rfl, fun _ => rfl⟩
  | threadedRun channel =>
      simp only [ServerConnection.next, State.threadedRun]
      split <;> exact ⟨id, id, rfl, id⟩
  | subscriberRun =>
      simp only [ServerConnection.next, State.subscriberRun]
      split <;> exact ⟨id, id, rfl, id⟩
  | serviceActionTake =>
      simp only [ServerConnection.next, State.serviceActionTake]
      split <;> exact ⟨id, id, rfl, id⟩
  | serviceActionRun =>
      simp only [ServerConnection.next, State.serviceActionRun]
      split
      · exact ⟨id, id, rfl, id⟩
      · split <;> exact ⟨id, id, rfl, id⟩
  | stopConnection | publisherTake | publisherRun | threadedTake | subscriberTake =>
      exact ⟨id, id, rfl, id⟩

/-- The answer to the user key that was read, once it was read. -/
structure Answering (config : Config Plugin) (s : State Plugin) (read : List Bytes) : Prop where
  once : s.sent.length ≤ 1
  values : ∀ frame ∈ s.sent,
    ∃ value, frame = (VectorMessage.forOpCodeAuthentication value).combinedVector
  unread : read = [] → s.sent = []
  authorized : s.sent ≠ [] → s.authorizations ≠ []
  answered : read ≠ [] → s.sent ≠ [] ∨ s.stopRequested = true
  omitted : config.authenticationOmit = true → s.connected = true → s.authorizations ≠ []

theorem Answering.start : Answering config .start [] where
  once := Nat.zero_le _
  values := nofun
  unread := fun _ => rfl
  authorized := fun hsent => absurd rfl hsent
  answered := fun hread => absurd rfl hread
  omitted := fun _ hconnected => by cases hconnected

/-- A step that reads data or nothing. -/
theorem Answering.ofMute {read more : List Bytes} (h : Answering config s read)
    (hmute : Mute s t) (hread : read = [] → more = [])
    (homitted : config.authenticationOmit = true → t.connected = true → t.authorizations ≠ []) :
    Answering config t (read ++ more) where
  once := by
    rw [hmute.sent]
    exact h.once
  values := by
    rw [hmute.sent]
    exact h.values
  unread := fun hempty => hmute.sent.trans (h.unread (List.append_eq_nil_iff.mp hempty).1)
  authorized := fun hsent => hmute.authorizations (h.authorized (hmute.sent ▸ hsent))
  answered := fun hfull => by
    have hold : read ≠ [] := fun hempty => hfull (by rw [hempty, hread hempty]; rfl)
    rw [hmute.sent]
    exact (h.answered hold).imp id hmute.stopRequested
  omitted := homitted

/-- A key is answered, unless the connection is stopped. -/
theorem Answering.userKey (h : Answering config s []) (hconnected : s.connected = true)
    (halive : s.terminated = none) {userKey : Bytes} {check : KeyCheck} {spawned : Spawned}
    (hthread : (s.validateUserKeyForAuthentication config userKey check spawned).terminated ≠
      some .unjoinedThread) (frame : Bytes) :
    Answering config (s.validateUserKeyForAuthentication config userKey check spawned) [frame] := by
  have hsent := h.unread rfl
  have hstop : ∀ {t : State Plugin}, Mute s t → t.stopRequested = true →
      (config.authenticationOmit = true → t.authorizations ≠ []) →
      Answering config t [frame] := fun hmute hstopped homitted =>
    ⟨by rw [hmute.sent]; exact h.once, by rw [hmute.sent]; exact h.values, nofun,
      fun hmore => absurd (hmute.sent.trans hsent) hmore, fun _ => .inr hstopped,
      fun homit _ => homitted homit⟩
  have hanswer : ∀ (t : State Plugin) (value : Bytes), Mute s t → t.authorizations ≠ [] →
      Answering config (t.send (VectorMessage.forOpCodeAuthentication value)) [frame] := by
    intro t value hmute hauthorized
    have honly : (t.send (VectorMessage.forOpCodeAuthentication value)).sent =
        [(VectorMessage.forOpCodeAuthentication value).combinedVector] := by
      simp [State.send, hmute.sent, hsent]
    refine ⟨?_, ?_, nofun, fun _ => hauthorized, fun _ => ?_, fun _ _ => hauthorized⟩
    · rw [honly]
      exact Nat.le_refl 1
    · rw [honly]
      intro other hother
      exact ⟨value, List.mem_singleton.mp hother⟩
    · rw [honly]
      exact .inl (List.cons_ne_nil _ _)
  unfold State.validateUserKeyForAuthentication at hthread ⊢
  cases homit : config.authenticationOmit with
  | true => exact hanswer s [] ⟨id, id, rfl, id⟩ (h.omitted homit hconnected)
  | false =>
      have hrequired : ∀ {P : Prop}, config.authenticationOmit = true → P := by
        rw [homit]
        nofun
      simp only [homit, Bool.false_eq_true, if_false] at hthread ⊢
      split at hthread
      next hplugin =>
        rw [if_pos hplugin]
        exact hstop ⟨id, id, rfl, fun _ => rfl⟩ rfl hrequired
      next hplugin =>
        rw [if_neg hplugin]
        split at hthread
        next huser =>
          rw [if_pos huser]
          exact hstop ⟨id, id, rfl, fun _ => rfl⟩ rfl hrequired
        next huser =>
          rw [if_neg huser]
          obtain ⟨hmute, hauthorized⟩ := Mute.onAuthorized config (s.store check)
            (.userKey userKey check.returned) spawned
          have hlive : ((s.store check).onAuthorized config (.userKey userKey check.returned)
              spawned).terminated = none := by
            rcases (s.store check).onAuthorized_cases config (.userKey userKey check.returned)
              spawned with ⟨-, heq⟩ | ⟨-, heq⟩
            · rw [heq]
              exact halive
            · rw [heq] at hthread
              exact absurd rfl hthread
          rw [if_pos hlive]
          have hafter : Mute s ((s.store check).onAuthorized config
              (.userKey userKey check.returned) spawned) :=
            ⟨hmute.connected, hmute.authorizations, hmute.sent, hmute.stopRequested⟩
          unfold State.respond
          split
          next time _ =>
            exact hanswer { (s.store check).onAuthorized config (.userKey userKey check.returned)
              spawned with endTimer := true } time
              ⟨hafter.connected, hafter.authorizations, hafter.sent, hafter.stopRequested⟩
              hauthorized
          next => exact hanswer _ [] hafter hauthorized

/-- A step that reads nothing. -/
theorem Answering.ofFrames {read : List Bytes} (h : Answering config s read) (hmute : Mute s t)
    (hconnected : t.connected = s.connected)
    (hauthorizations : t.authorizations = s.authorizations) :
    Answering config t (read ++ []) :=
  h.ofMute hmute (fun _ => rfl) fun homit hthere => by
    rw [hauthorizations]
    exact h.omitted homit (hconnected.symm.trans hthere)

/-- The connection is stopped because of what it has read. -/
theorem Answering.stop {read : List Bytes} (h : Answering config s read) (hmute : Mute s t)
    (hstopped : t.stopRequested = true) (hconnected : t.connected = s.connected)
    (hauthorizations : t.authorizations = s.authorizations) (frame : Bytes) :
    Answering config t (read ++ [frame]) where
  once := by
    rw [hmute.sent]
    exact h.once
  values := by
    rw [hmute.sent]
    exact h.values
  unread := fun hempty => absurd hempty (by simp)
  authorized := fun hsent => hmute.authorizations (h.authorized (hmute.sent ▸ hsent))
  answered := fun _ => .inr hstopped
  omitted := fun homit hthere => by
    rw [hauthorizations]
    exact h.omitted homit (hconnected.symm.trans hthere)

theorem Answering.enterHandler {read : List Bytes} (h : Answering config s read) :
    Answering config s.enterHandler read := by
  have hframes : Frames s s.enterHandler := .enterHandler
  simpa using h.ofFrames (.enterHandler s) hframes.connected hframes.authorizations

end ServerConnection

namespace Session

open ServerConnection (Answering Mute holdsUserKey)

variable {Plugin : Type} {P : OwnMessage → Prop} {config : Config Plugin} {s : State Plugin}
  {label : Label}

/-- The answers among what a server hands to its queue. -/
structure Answers (server : PeerData.State Plugin) : Prop where
  count : (server.sendingQueue.queued ++ server.sendingQueue.posted).countP holdsUserKey =
    server.connection.sent.length
  members : ∀ frame ∈ server.sendingQueue.queued ++ server.sendingQueue.posted,
    holdsUserKey frame = true → frame ∈ server.connection.sent
  notified : ∀ frame ∈ server.notified, holdsUserKey frame = false

theorem Answers.ofSame {server after : PeerData.State Plugin} (h : Answers server)
    (hsent : after.connection.sent = server.connection.sent)
    (hqueue : after.sendingQueue.queued ++ after.sendingQueue.posted =
      server.sendingQueue.queued ++ server.sendingQueue.posted)
    (hnotified : after.notified = server.notified) : Answers after where
  count := by
    rw [hqueue, hsent]
    exact h.count
  members := by
    rw [hqueue, hsent]
    exact h.members
  notified := by
    rw [hnotified]
    exact h.notified

/-- What the managers send is no answer. -/
theorem Answers.post {server : PeerData.State Plugin} (h : Answers server) {frame : Bytes}
    (hframe : holdsUserKey frame = false) : Answers (server.send false frame) where
  count := by
    simp only [PeerData.State.send, SendingQueue.State.send, Bool.false_eq_true, if_false]
    rw [← List.append_assoc, List.countP_append, h.count]
    simp [hframe]
  members := by
    intro other hother hkey
    simp only [PeerData.State.send, SendingQueue.State.send, Bool.false_eq_true, if_false,
      ← List.append_assoc] at hother
    rcases List.mem_append.mp hother with hold | hnew
    · exact h.members other hold hkey
    · obtain rfl := List.mem_singleton.mp hnew
      rw [hframe] at hkey
      cases hkey
  notified := h.notified

/-- The queue of a server, after what a handler has sent. -/
theorem queued_foldl_send (vectors : List Bytes) (server : PeerData.State Plugin) :
    let after := vectors.foldl (fun server => server.send true) server
    after.sendingQueue.queued = server.sendingQueue.queued ++ vectors ∧
      after.sendingQueue.posted = server.sendingQueue.posted := by
  induction vectors generalizing server with
  | nil => exact ⟨(List.append_nil _).symm, rfl⟩
  | cons vector rest ih =>
      obtain ⟨hqueued, hposted, -⟩ :=
        SendingQueue.queued_queueMessage server.sendingQueue vector
      obtain ⟨hrest, hmore⟩ := ih (server.send true vector)
      refine ⟨?_, hmore.trans hposted⟩
      have hfirst : (server.send true vector).sendingQueue.queued =
          server.sendingQueue.queued ++ [vector] := hqueued
      rw [List.foldl_cons, hrest, hfirst, List.append_assoc, List.singleton_append]

/-- What a handler of the connection sends is an answer. -/
theorem Answers.runConnection {server : PeerData.State Plugin} (h : Answers server)
    {label : ServerConnection.Label} {serverConfig : ServerConnection.Config Plugin}
    {answers : List Bytes}
    (hsent : (ServerConnection.next serverConfig server.connection label).sent =
      server.connection.sent ++ answers)
    (hvalues : ∀ frame ∈ answers, holdsUserKey frame = true) :
    Answers (server.runConnection serverConfig label) := by
  let connection := ServerConnection.next serverConfig server.connection label
  obtain ⟨-, hconnection, hnotified⟩ :=
    PeerData.foldl_send answers { server with connection := connection }
  obtain ⟨hqueued, hposted⟩ := queued_foldl_send answers { server with connection := connection }
  have hafter : server.runConnection serverConfig label =
      answers.foldl (fun server => server.send true) { server with connection := connection } := by
    rw [PeerData.State.runConnection, hsent, List.drop_left]
  rw [hafter]
  refine ⟨?_, fun frame hframe hkey => ?_, ?_⟩
  · have hall : answers.countP holdsUserKey = answers.length := List.countP_eq_length.mpr hvalues
    have hold := h.count
    rw [hqueued, hposted, hconnection, hsent]
    simp only [List.countP_append, List.length_append] at hold ⊢
    omega
  · rw [hconnection, hsent]
    rw [hqueued, hposted] at hframe
    rcases List.mem_append.mp hframe with hfront | hback
    · rcases List.mem_append.mp hfront with hold | hnew
      · exact List.mem_append_left _ (h.members frame (List.mem_append_left _ hold) hkey)
      · exact List.mem_append_right _ hnew
    · exact List.mem_append_left _ (h.members frame (List.mem_append_right _ hback) hkey)
  · rw [hnotified]
    exact h.notified

/-- The answers of a session: sent, on their way or logged by the client. -/
structure Answered (config : Config Plugin) (s : State Plugin) : Prop where
  answering : Answering config.server s.server.connection s.read
  answers : Answers s.server
  wire : s.client.authenticated.length + s.toClient.countP holdsUserKey =
    (s.server.sendingQueue.written ++ s.server.notified).countP holdsUserKey
  values : ∀ value ∈ s.client.authenticated, ∃ text, value = text.takeWhile (· != 0) ∧
    (VectorMessage.forOpCodeAuthentication text).combinedVector ∈ s.server.connection.sent
  toClient : ∀ frame ∈ s.toClient, frame ∈ s.server.sendingQueue.written ++ s.server.notified

/-- The server of a session has the subscribers of its configuration. -/
theorem configured_of_reachable (h : (PeerData.connection config.server).Reachable s.server) :
    s.server.connection.subscriberManager.Configured config.server.toGlobalConfig := by
  refine h.invariant (fun server : PeerData.State Plugin =>
    server.connection.subscriberManager.Configured config.server.toGlobalConfig) .start ?_
  intro server label hconfigured _ _
  have hentered : server.connection.enterHandler.subscriberManager.Configured
      config.server.toGlobalConfig := by
    rw [ServerConnection.toManagers_enterHandler]
    exact hconfigured
  cases label with
  | connection label =>
      simp only [PeerData.connection, PeerData.next, PeerData.State.runConnection,
        (PeerData.foldl_send _ _).2.1]
      exact ServerConnection.configured_next hconfigured
  | keyCheckThrows | runPosted | complete => exact hentered
  | pluginSets | notifyAboutSubscriber | subscriberSends | sendClock | pluginSends | setOpen
  | close => exact hconfigured

/-- What a step of the connection answers. -/
theorem answering_run {connection : ServerConnection.State Plugin} {read : List Bytes}
    (h : Answering config.server connection read) (hcodecs : config.server.codecs.RoundTrip)
    {label : ServerConnection.Label} (henabled : ServerConnection.enabled connection label = true)
    (hfirst : ∀ frame ∈ frameRead (.connection label), read = [] → frame = config.client.keyFrame)
    (hrest : ∀ frame ∈ frameRead (.connection label), read ≠ [] →
      OwnData P config.server.codecs frame)
    (hthread : (ServerConnection.next config.server connection label).terminated ≠
      some .unjoinedThread) :
    Answering config.server (ServerConnection.next config.server connection label)
        (read ++ (frameRead (.connection label)).toList) ∧
      connection.sent <+: (ServerConnection.next config.server connection label).sent := by
  have hquiet : (∀ spawned, label ≠ .connect spawned) →
      (∀ frame check spawned, label ≠ .receive frame check spawned) →
      Answering config.server (ServerConnection.next config.server connection label)
        (read ++ []) ∧
        connection.sent <+: (ServerConnection.next config.server connection label).sent := by
    intro hconnect hreceive
    have hframes := @ServerConnection.next_frames _ config.server connection label hconnect hreceive
    have hmute := @Mute.next _ config.server connection label hreceive
    exact ⟨h.ofFrames hmute hframes.connected hframes.authorizations,
      hmute.sent ▸ List.prefix_refl _⟩
  cases label with
  | connect spawned =>
      have hmute := @Mute.next _ config.server connection (.connect spawned) (by simp)
      refine ⟨h.ofMute hmute (fun _ => rfl) fun homit _ => ?_, hmute.sent ▸ List.prefix_refl _⟩
      simp only [ServerConnection.next, ServerConnection.State.onConnected, homit, if_true]
      exact (Mute.onAuthorized _ _ _ _).2
  | receive frame check spawned =>
      simp only [ServerConnection.enabled, Bool.and_eq_true, Option.isNone_iff_eq_none] at henabled
      have hframes : ServerConnection.Frames connection connection.enterHandler := .enterHandler
      have hentered := h.enterHandler
      have halive : connection.enterHandler.terminated = none := by
        unfold ServerConnection.State.enterHandler
        split <;> exact henabled.1.1
      by_cases hread : read = []
      · subst hread
        obtain rfl := hfirst frame rfl rfl
        simp only [ServerConnection.next] at hthread ⊢
        rw [ClientConnection.Config.keyFrame, ServerConnection.receive_userKey] at hthread ⊢
        refine ⟨hentered.userKey (hframes.connected.trans henabled.1.2) halive hthread _, ?_⟩
        rw [h.unread rfl]
        exact List.nil_prefix
      · obtain ⟨message, hreceived⟩ := ServerConnection.receive_ownData
          (s := connection) hcodecs (hrest frame rfl hread) check spawned
        have hdata := ServerConnection.processData_frames (s := connection.enterHandler) message
        have hmute := Mute.processData connection.enterHandler message
        simp only [ServerConnection.next, hreceived]
        refine ⟨hentered.ofMute hmute (fun hempty => absurd hempty hread) fun homit hthere => ?_,
          ((Mute.enterHandler connection).trans hmute).sent ▸ List.prefix_refl _⟩
        rw [hdata.authorizations]
        exact hentered.omitted homit (hdata.connected.symm.trans hthere)
  | validAuthenticationCheck | authenticationEnd | stopConnection | publisherTake | publisherRun
  | threadedTake | threadedRun | subscriberTake | subscriberRun | serviceActionTake
  | serviceActionRun => exact hquiet (by simp) (by simp)

/-- What a step of the server answers, and what it hands to its queue. -/
theorem answers_next {server : PeerData.State Plugin} {read : List Bytes}
    (h : Answering config.server server.connection read) (hanswers : Answers server)
    (hcodecs : config.server.codecs.RoundTrip) {label : PeerData.Label}
    (henabled : PeerData.enabled config.server server label = true)
    (hinternal : isInternal label = true)
    (hfirst : ∀ frame ∈ frameRead label, read = [] → frame = config.client.keyFrame)
    (hrest : ∀ frame ∈ frameRead label, read ≠ [] → OwnData P config.server.codecs frame)
    (hthread : (PeerData.next config.server server label).connection.terminated ≠
      some .unjoinedThread) :
    Answering config.server (PeerData.next config.server server label).connection
        (read ++ (frameRead label).toList) ∧
      Answers (PeerData.next config.server server label) ∧
      server.connection.sent <+: (PeerData.next config.server server label).connection.sent := by
  have hsame : Answering config.server server.connection (read ++ []) := by
    rw [List.append_nil]
    exact h
  have hentered : Answering config.server server.connection.enterHandler (read ++ []) := by
    rw [List.append_nil]
    exact h.enterHandler
  have hsent := (Mute.enterHandler server.connection).sent
  cases label with
  | connection label =>
      simp only [PeerData.next, PeerData.State.runConnection, (PeerData.foldl_send _ _).2.1]
        at hthread ⊢
      obtain ⟨hanswering, hprefix⟩ := answering_run h hcodecs henabled hfirst hrest hthread
      obtain ⟨answers, hnew⟩ := hprefix
      refine ⟨hanswering, hanswers.runConnection hnew.symm fun frame hframe => ?_, ⟨answers, hnew⟩⟩
      obtain ⟨value, rfl⟩ := hanswering.values frame (hnew ▸ List.mem_append_right _ hframe)
      exact ServerConnection.holdsUserKey_forOpCodeAuthentication value
  | pluginSets user endTime =>
      exact ⟨h.ofFrames ⟨id, id, rfl, id⟩ rfl rfl, hanswers.ofSame rfl rfl rfl, List.prefix_refl _⟩
  | keyCheckThrows frame =>
      have hframes : ServerConnection.Frames server.connection server.connection.enterHandler :=
        .enterHandler
      exact ⟨h.stop (t := { server.connection.enterHandler with stopRequested := true })
        ((Mute.enterHandler server.connection).trans ⟨id, id, rfl, fun _ => rfl⟩) rfl
        hframes.connected hframes.authorizations frame, hanswers.ofSame hsent rfl rfl,
        hsent ▸ List.prefix_refl _⟩
  | notifyAboutSubscriber | subscriberSends | sendClock | pluginSends =>
      simp [isInternal] at hinternal
  | runPosted =>
      exact ⟨hentered, hanswers.ofSame hsent
        (SendingQueue.queued_runPosted server.sendingQueue).1 rfl, hsent ▸ List.prefix_refl _⟩
  | complete position error =>
      obtain ⟨hqueued, hposted, -⟩ :=
        SendingQueue.queued_complete server.sendingQueue position error
      refine ⟨hentered, hanswers.ofSame hsent ?_ rfl, hsent ▸ List.prefix_refl _⟩
      simp only [PeerData.next, hqueued, hposted]
  | setOpen isOpen => exact ⟨hsame, hanswers.ofSame rfl rfl rfl, List.prefix_refl _⟩
  | close reason =>
      refine ⟨h.ofFrames ⟨id, id, rfl, id⟩ rfl rfl, ⟨hanswers.count, hanswers.members, ?_⟩,
        List.prefix_refl _⟩
      intro frame hframe
      simp only [PeerData.next, PeerData.State.close] at hframe
      split at hframe
      · rcases List.mem_append.mp hframe with hold | hnew
        · exact hanswers.notified frame hold
        · obtain rfl := List.mem_singleton.mp hnew
          exact ServerConnection.not_holdsUserKey_ownData (P := fun _ => True) hcodecs
            (ClientConnection.ownData_notification (fun _ => trivial) config.server.codecs reason)
      · exact hanswers.notified frame hframe

/-- `close` is the only step that adds a frame of its own. -/
theorem notified_mono {server : PeerData.State Plugin} (label : PeerData.Label) :
    server.notified <+: (PeerData.next config.server server label).notified := by
  cases label with
  | connection label =>
      simp only [PeerData.next, PeerData.State.runConnection, (PeerData.foldl_send _ _).2.2]
      exact List.prefix_refl _
  | close reason =>
      simp only [PeerData.next, PeerData.State.close]
      split
      · exact List.prefix_append _ _
      · exact List.prefix_refl _
  | pluginSets | keyCheckThrows | notifyAboutSubscriber | subscriberSends | sendClock
  | pluginSends | runPosted | complete | setOpen => exact List.prefix_refl _

/-- What the server writes is on its way to the client. -/
theorem Answered.stepServer (h : Answered config s) {label : PeerData.Label}
    (hanswering : Answering config.server
      (PeerData.next config.server s.server label).connection
      (s.read ++ (frameRead label).toList))
    (hanswers : Answers (PeerData.next config.server s.server label))
    (hsent : s.server.connection.sent <+:
      (PeerData.next config.server s.server label).connection.sent)
    (hwritten : s.server.sendingQueue.written <+:
      (PeerData.next config.server s.server label).sendingQueue.written) :
    Answered config (s.stepServer config label) := by
  have hnewWritten := List.prefix_iff_eq_append.mp hwritten
  have hnewNotified := List.prefix_iff_eq_append.mp
    (@notified_mono _ config s.server label)
  refine ⟨hanswering, hanswers, ?_, ?_, ?_⟩
  · have hcount := h.wire
    have hold := congrArg (List.countP holdsUserKey) hnewWritten
    have hnotice := congrArg (List.countP holdsUserKey) hnewNotified
    simp only [State.stepServer, writtenSince, List.countP_append] at hcount hold hnotice ⊢
    omega
  · intro value hvalue
    obtain ⟨text, htext, hframe⟩ := h.values value hvalue
    exact ⟨text, htext, hsent.subset hframe⟩
  · intro frame hframe
    rcases List.mem_append.mp hframe with hold | hnew
    · rcases List.mem_append.mp (h.toClient frame hold) with hfirst | hsecond
      · exact List.mem_append_left _ (hwritten.subset hfirst)
      · exact List.mem_append_right _ ((notified_mono label).subset hsecond)
    · rcases List.mem_append.mp hnew with hfirst | hsecond
      · exact List.mem_append_left _ (List.mem_of_mem_drop hfirst)
      · exact List.mem_append_right _ (List.mem_of_mem_drop hsecond)

/-- A manager of the server sends no answer. -/
theorem answers_emission {server : PeerData.State Plugin} (h : Answers server)
    (hcodecs : config.server.codecs.RoundTrip)
    (hconfigured : server.connection.subscriberManager.Configured config.server.toGlobalConfig)
    {emission : Emission} {combinedVector : Bytes}
    (hvector : emission.combinedVector config.server.codecs server.connection.toManagers =
      some combinedVector) :
    Answers (PeerData.next config.server server (emissionLabel combinedVector emission)) ∧
      (PeerData.next config.server server (emissionLabel combinedVector emission)).connection =
        server.connection := by
  obtain ⟨own, hown, hframe⟩ := Emission.exists_own hvector
  obtain ⟨hchannel, hkey⟩ := Emission.onChannel_own hconfigured hown
  have hdata : ∀ {frame : Bytes}, OwnData (fun _ => True) config.server.codecs frame →
      Answers (server.send false frame) := fun hown =>
    h.post (ServerConnection.not_holdsUserKey_ownData hcodecs hown)
  cases emission with
  | notifyAboutSubscriber channel value =>
      exact ⟨hdata ⟨.subscription channel value, trivial, trivial, nofun, rfl⟩, rfl⟩
  | subscriberSends | pluginSends => exact ⟨hdata ⟨own, hchannel, trivial, hkey, hframe⟩, rfl⟩
  | sendClock serializedMessage =>
      exact ⟨hdata ⟨.topic OpCode.clock.toByte serializedMessage ⟨.none, 0⟩,
        ⟨by decide, by decide, by decide, by decide⟩, trivial, nofun, rfl⟩, rfl⟩

/-- Only a frame that is read is logged. -/
theorem authenticated_next {client : ClientConnection.State Plugin}
    {label : ClientConnection.Label} (hreceive : ∀ frame, label ≠ .receive frame) :
    (ClientConnection.next config.client client label).authenticated = client.authenticated := by
  cases label with
  | receive frame => exact absurd rfl (hreceive frame)
  | emit emission =>
      simp only [ClientConnection.next, ClientConnection.State.emit]
      split <;> rfl
  | handshake | turn | runPosted | complete | streamClosed | stopConnection | close => rfl

/-- The client logs what is in an answer. -/
theorem authenticated_receive (client : ClientConnection.State Plugin) (frame : Bytes) :
    (holdsUserKey frame = false ∧ (client.receive frame).authenticated = client.authenticated) ∨
      (holdsUserKey frame = true ∧ ∃ message : RclMessage,
        RclMessage.fromFlatBuffer frame = .ok message ∧
          (client.receive frame).authenticated = client.authenticated ++ [message.toString]) := by
  unfold holdsUserKey ClientConnection.State.receive
  cases hmessage : RclMessage.fromFlatBuffer frame with
  | error fault => exact .inl ⟨rfl, rfl⟩
  | ok message =>
      simp only [ClientConnection.State.processMessage]
      cases hkey : MessageBase.isOpCode message .authentication with
      | false => exact .inl ⟨rfl, rfl⟩
      | true => exact .inr ⟨rfl, message, rfl, rfl⟩

theorem toString_forOpCodeAuthentication {value : Bytes} {message : RclMessage}
    (h : RclMessage.fromFlatBuffer (VectorMessage.forOpCodeAuthentication value).combinedVector =
      .ok message) : message.toString = value.takeWhile (· != 0) := by
  simp only [VectorMessage.forOpCodeAuthentication,
    OwnMessage.fromFlatBuffer_forOpCodeString .authentication value] at h
  obtain rfl := Except.ok.inj h
  exact ((RclMessage.readString_eq_ok_iff _ _).mp
    (OwnMessage.readString_forOpCodeString .authentication value _)).2.symm

theorem Answered.stepClient (h : Answered config s)
    (hqueue : (SendingQueue.connection Bytes).Reachable s.server.sendingQueue)
    {label : ClientConnection.Label}
    (hnext : (frameReceived label).all (fun frame => s.toClient.head? == some frame) = true) :
    Answered config (s.stepClient config label) := by
  by_cases hlabel : ∃ frame, label = .receive frame
  · obtain ⟨frame, rfl⟩ := hlabel
    rw [frameReceived, Option.all_some, beq_iff_eq] at hnext
    obtain ⟨rest, hwire⟩ := List.head?_eq_some_iff.mp hnext
    have htail : (s.stepClient config (.receive frame)).toClient = rest := by
      simp [State.stepClient, frameReceived, hwire]
    have hrest : ∀ other ∈ rest, other ∈ s.server.sendingQueue.written ++ s.server.notified :=
      fun other hother => h.toClient other (by rw [hwire]; exact List.mem_cons_of_mem _ hother)
    have hcount := h.wire
    rw [hwire, List.countP_cons] at hcount
    rcases authenticated_receive s.client frame with ⟨hkey, hlog⟩ | ⟨hkey, message, hmessage, hlog⟩
    · have hsame : (s.stepClient config (.receive frame)).client.authenticated =
          s.client.authenticated := hlog
      refine ⟨h.answering, h.answers, ?_, ?_, ?_⟩
      · rw [htail, hsame]
        simpa [hkey, State.stepClient] using hcount
      · rw [hsame]
        exact h.values
      · rw [htail]
        exact hrest
    · have hmore : (s.stepClient config (.receive frame)).client.authenticated =
          s.client.authenticated ++ [message.toString] := hlog
      have hsent : frame ∈ s.server.connection.sent := by
        rcases List.mem_append.mp (h.toClient frame (by simp [hwire])) with hwritten | hnotified
        · exact h.answers.members frame (List.mem_append_left _
            ((SendingQueue.written_sublist hqueue).subset hwritten)) hkey
        · rw [h.answers.notified frame hnotified] at hkey
          cases hkey
      refine ⟨h.answering, h.answers, ?_, ?_, ?_⟩
      · rw [htail, hmore, List.length_append, List.length_singleton]
        simp only [hkey, if_true] at hcount
        simp only [State.stepClient]
        omega
      · rw [hmore]
        intro value hvalue
        rcases List.mem_append.mp hvalue with hold | hnew
        · exact h.values value hold
        · obtain rfl := List.mem_singleton.mp hnew
          obtain ⟨text, rfl⟩ := h.answering.values frame hsent
          exact ⟨text, toString_forOpCodeAuthentication hmessage, hsent⟩
      · rw [htail]
        exact hrest
  · have hsame : (s.stepClient config label).client.authenticated = s.client.authenticated :=
      authenticated_next (not_exists.mp hlabel)
    have hnone : frameReceived label = none := by
      cases label with
      | receive frame => exact absurd ⟨frame, rfl⟩ hlabel
      | handshake | turn | emit | runPosted | complete | streamClosed | stopConnection
      | close => rfl
    have hwire : (s.stepClient config label).toClient = s.toClient := by
      simp [State.stepClient, hnone]
    refine ⟨h.answering, h.answers, ?_, ?_, ?_⟩
    · rw [hsame, hwire]
      exact h.wire
    · rw [hsame]
      exact h.values
    · rw [hwire]
      exact h.toClient

theorem Answers.start : Answers (.start : PeerData.State Plugin) where
  count := rfl
  members := fun _ hframe => by cases hframe
  notified := fun _ hframe => by cases hframe

theorem Answered.start : Answered config .start where
  answering := .start
  answers := .start
  wire := rfl
  values := fun _ hvalue => by cases hvalue
  toClient := fun _ hframe => by cases hframe

theorem answered_of_reachable (hcodecs : config.server.codecs.RoundTrip)
    (h : (session config).Reachable s) : Answered config s := by
  refine h.layered (Answered config) .start ?_
  intro s label hreach hinv henabled _
  have hafter : (session config).Reachable (next config s label) :=
    Machine.ReachableWith.step hreach henabled trivial
  have hthread := (admitted_of_reachable hcodecs hafter).alive
  have hserver := (server_projection config).reachable hreach
  have hwritten := SendingQueue.written_runs (((server_projection config).comp
    (PeerData.queue_projection config.server)).step henabled trivial)
  cases label with
  | server label =>
      simp only [session, enabled, Bool.and_eq_true] at henabled
      have hread := (keyFirst_of_reachable hreach).frameRead henabled.2
      obtain ⟨hanswering, hanswers, hsent⟩ := answers_next hinv.answering hinv.answers hcodecs
        henabled.1.1 henabled.1.2 (fun frame hframe => (hread frame hframe).1)
        (fun frame hframe => (hread frame hframe).2) hthread
      exact hinv.stepServer hanswering hanswers hsent hwritten
  | serverEmits emission =>
      simp only [session, next, State.emitServer] at hwritten ⊢
      cases hvector : emission.combinedVector config.server.codecs
          s.server.connection.toManagers with
      | none => exact hinv
      | some combinedVector =>
          simp only [hvector] at hwritten
          obtain ⟨hanswers, hsame⟩ := answers_emission hinv.answers hcodecs
            (configured_of_reachable hserver) hvector
          refine hinv.stepServer ?_ hanswers (by rw [hsame]) hwritten
          rw [hsame, frameRead_emissionLabel, Option.toList_none, List.append_nil]
          exact hinv.answering
  | client label =>
      simp only [session, enabled, Bool.and_eq_true] at henabled
      exact hinv.stepClient ((PeerData.queue_projection config.server).reachable hserver)
        henabled.2

/-- `close` writes no answer. -/
theorem Answered.countP_written (h : Answered config s) :
    s.client.authenticated.length + s.toClient.countP holdsUserKey =
      s.server.sendingQueue.written.countP holdsUserKey := by
  have hnotified : s.server.notified.countP holdsUserKey = 0 :=
    List.countP_eq_zero.mpr fun frame hframe => by simp [h.answers.notified frame hframe]
  rw [h.wire, List.countP_append, hnotified, Nat.add_zero]

theorem Answered.length_le (h : Answered config s)
    (hqueue : (SendingQueue.connection Bytes).Reachable s.server.sendingQueue) :
    s.client.authenticated.length ≤ s.server.connection.sent.length := by
  have hwritten := (SendingQueue.written_sublist hqueue).countP_le (p := holdsUserKey)
  have hlogged := h.countP_written
  have hcount := h.answers.count
  rw [List.countP_append] at hcount
  omega

/-- What was answered was authorized once. -/
theorem length_authorizations (hcodecs : config.server.codecs.RoundTrip)
    (h : (session config).Reachable s) (hsent : s.server.connection.sent ≠ []) :
    s.server.connection.authorizations.length = 1 := by
  have hauthorized := (answered_of_reachable hcodecs h).answering.authorized hsent
  exact Nat.le_antisymm (admitted_of_reachable hcodecs h).once (List.length_pos_iff.mpr hauthorized)

/-- A client logs one answer at most, and only one that its server has sent
after executing `onAuthorized`. -/
theorem client_authenticatedOnce (config : Config Plugin)
    (hcodecs : config.server.codecs.RoundTrip) (s : State Plugin)
    (h : (session config).Reachable s) :
    s.client.authenticated.length ≤ 1 ∧
      (s.client.authenticated ≠ [] → s.server.connection.authorizations.length = 1) ∧
      ∀ value ∈ s.client.authenticated, ∃ text, value = text.takeWhile (· != 0) ∧
        s.server.connection.sent =
          [(VectorMessage.forOpCodeAuthentication text).combinedVector] := by
  have hanswered := answered_of_reachable hcodecs h
  have hlogged := hanswered.length_le ((PeerData.queue_projection config.server).reachable
    ((server_projection config).reachable h))
  have honce := hanswered.answering.once
  refine ⟨hlogged.trans honce, fun hsome => ?_, fun value hvalue => ?_⟩
  · have hpos := List.length_pos_iff.mpr hsome
    exact length_authorizations hcodecs h (List.length_pos_iff.mp (hpos.trans_le hlogged))
  · obtain ⟨text, htext, hframe⟩ := hanswered.values value hvalue
    refine ⟨text, htext, ?_⟩
    obtain ⟨only, honly⟩ := List.length_eq_one_iff.mp
      (Nat.le_antisymm honce (List.length_pos_of_mem hframe))
    rw [honly] at hframe ⊢
    rw [List.mem_singleton.mp hframe]

private theorem answeringSession_checked :
    GlobalConfig.Checked [⟨7, false, false, ⟨.none, 0⟩⟩] [] :=
  ⟨by decide, by decide, by decide, by decide⟩

private def answeringNode : ServerConnection.Config Unit where
  toGlobalConfig := .ofChecked _ _ false answeringSession_checked
  authenticationOmit := false
  authenticationPlugin := true
  serviceServer := []
  serviceClient := []
  actionServer := []
  actionClient := []
  codecs := literalCodecs

private def answeringSession : Config Unit where
  server := answeringNode
  client := { answeringNode with userKey := [107] }
  sameCodecs := rfl

/-- The key "k" sets the user "u" until the end "20", which the client is told. -/
private def answeringRun : List Label :=
  [.client (.handshake ⟨true, true, true⟩), .server (.setOpen true),
    .server (.connection (.connect ⟨true, true, true⟩)),
    .server (.connection (.receive answeringSession.client.keyFrame
      ⟨true, some [117], some (some [50, 48])⟩ ⟨true, true, true⟩)),
    .client (.receive (VectorMessage.forOpCodeAuthentication [50, 48]).combinedVector)]

theorem client_authenticatedOnce_logged : ∃ s : State Unit,
    s.client.authenticated = [[50, 48]] ∧ s.client.authenticated.length ≤ 1 ∧
      (s.client.authenticated ≠ [] → s.server.connection.authorizations.length = 1) ∧
      ∀ value ∈ s.client.authenticated, ∃ text, value = text.takeWhile (· != 0) ∧
        s.server.connection.sent =
          [(VectorMessage.forOpCodeAuthentication text).combinedVector] := by
  obtain ⟨s, hreach, hlogged⟩ := Machine.exists_reachable (M := session answeringSession)
    (fun s => s.client.authenticated = [[50, 48]]) answeringRun (by decide +kernel)
  exact ⟨s, hlogged, client_authenticatedOnce answeringSession literalCodecs_roundTrip s hreach⟩

/-- Everything a connected client and its server have handed to `send` was
written, and read by the other. -/
structure Settled (s : State Plugin) : Prop where
  connected : s.client.connection.connected = true
  posted : s.server.sendingQueue.posted = []
  written : s.server.sendingQueue.written = s.server.sendingQueue.queued
  toServer : s.toServer = []
  toClient : s.toClient = []

/-- A session that has settled is authorized on both sides, or the server has
asked to stop the connection. -/
theorem settled_authenticated (config : Config Plugin)
    (hcodecs : config.server.codecs.RoundTrip) (s : State Plugin)
    (h : (session config).Reachable s) (hsettled : Settled s) :
    (s.client.authenticated.length = 1 ∧ s.server.connection.authorizations.length = 1) ∨
      s.server.connection.stopRequested = true := by
  have hanswered := answered_of_reachable hcodecs h
  have hread : s.read ≠ [] := by
    obtain ⟨rest, hwire, -⟩ := (keyFirst_of_reachable h).keyed hsettled.connected
    rw [hsettled.toServer, List.append_nil] at hwire
    rw [hwire]
    exact List.cons_ne_nil _ _
  rcases hanswered.answering.answered hread with hsent | hstopped
  · have hcount := hanswered.answers.count
    have hlogged := hanswered.countP_written
    rw [hsettled.posted, List.append_nil, ← hsettled.written] at hcount
    rw [hsettled.toClient, List.countP_nil, Nat.add_zero, hcount] at hlogged
    have hone := Nat.le_antisymm hanswered.answering.once (List.length_pos_iff.mpr hsent)
    exact .inl ⟨hlogged.trans hone, length_authorizations hcodecs h hsent⟩
  · exact .inr hstopped

theorem settled_authenticated_answered : ∃ s : State Unit, Settled s ∧
    ((s.client.authenticated.length = 1 ∧ s.server.connection.authorizations.length = 1) ∨
      s.server.connection.stopRequested = true) := by
  obtain ⟨s, hreach, hconnected, hposted, hwritten, htoServer, htoClient⟩ :=
    Machine.exists_reachable (M := session answeringSession)
      (fun s => s.client.connection.connected = true ∧ s.server.sendingQueue.posted = [] ∧
        s.server.sendingQueue.written = s.server.sendingQueue.queued ∧ s.toServer = [] ∧
        s.toClient = []) answeringRun (by decide +kernel)
  have hsettled : Settled s := ⟨hconnected, hposted, hwritten, htoServer, htoClient⟩
  exact ⟨s, hsettled,
    settled_authenticated answeringSession literalCodecs_roundTrip s hreach hsettled⟩

end Session

end Ros2Connect
