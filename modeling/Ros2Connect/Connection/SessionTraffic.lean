import Ros2Connect.Connection.SessionAuthorization

/-!
What two of the program's own nodes send each other ends neither of them: a
frame of one is decoded by the other, and no manager is stopped by what is in
it.
-/

namespace Ros2Connect

open Lib

/-- The vector of a filled message of the program. -/
def OwnFrame (codecs : Codecs) (frame : Bytes) : Prop :=
  ∃ own : OwnMessage, own.OnChannel ∧ own.Filled ∧ own.combinedVector codecs = .ok frame

theorem OwnData.ownFrame {codecs : Codecs} {frame : Bytes}
    (h : OwnData OwnMessage.Filled codecs frame) : OwnFrame codecs frame := by
  obtain ⟨own, hchannel, hfilled, -, hframe⟩ := h
  exact ⟨own, hchannel, hfilled, hframe⟩

theorem ownFrame_forOpCodeAuthentication (codecs : Codecs) (value : Bytes) :
    OwnFrame codecs (VectorMessage.forOpCodeAuthentication value).combinedVector :=
  ⟨.authentication value, trivial, trivial, rfl⟩

theorem OwnFrame.arrives {codecs : Codecs} (hcodecs : codecs.RoundTrip) {frame : Bytes}
    (h : OwnFrame codecs frame) :
    ∃ own message, RclMessage.fromFlatBuffer frame = .ok message ∧
      OwnMessage.Arrives codecs message own := by
  obtain ⟨own, hchannel, hfilled, hframe⟩ := h
  obtain ⟨vector, message, hvector, hmessage, harrives⟩ :=
    own.exists_arrives hcodecs hchannel hfilled
  obtain rfl := Except.ok.inj (hvector.symm.trans hframe)
  exact ⟨own, message, hmessage, harrives⟩

namespace ServerConnection

variable {Plugin : Type} {config : Config Plugin} {s t : State Plugin} {label : Label}

/-- A connection that has received own messages only. -/
structure Traffic (config : Config Plugin) (s : State Plugin) : Prop where
  alive : s.terminated = none
  managers : OwnTraffic config s.toManagers
  configured : s.subscriberManager.Configured config.toGlobalConfig
  checkTimer : s.checkTimer = true → config.authenticationOmit = false
  sent : ∀ frame ∈ s.sent, OwnFrame config.codecs frame

theorem Traffic.start : Traffic config .start where
  alive := rfl
  managers := .start
  configured := .start
  checkTimer := nofun
  sent := nofun

theorem Traffic.ofSame (h : Traffic config s) (halive : t.terminated = s.terminated)
    (hmanagers : t.toManagers = s.toManagers) (htimer : t.checkTimer = s.checkTimer)
    (hsent : t.sent = s.sent) : Traffic config t where
  alive := halive.trans h.alive
  managers := by
    rw [hmanagers]
    exact h.managers
  configured := by
    rw [hmanagers]
    exact h.configured
  checkTimer := by
    rw [htimer]
    exact h.checkTimer
  sent := by
    rw [hsent]
    exact h.sent

theorem Traffic.enterHandler (h : Traffic config s) : Traffic config s.enterHandler := by
  unfold State.enterHandler
  split
  · exact h.ofSame rfl rfl rfl rfl
  · exact h

theorem Traffic.send (h : Traffic config s) (value : Bytes) :
    Traffic config (s.send (VectorMessage.forOpCodeAuthentication value)) where
  alive := h.alive
  managers := h.managers
  configured := h.configured
  checkTimer := h.checkTimer
  sent := by
    intro frame hframe
    rcases List.mem_append.mp hframe with hold | hnew
    · exact h.sent frame hold
    · obtain rfl := List.mem_singleton.mp hnew
      exact ownFrame_forOpCodeAuthentication config.codecs value

theorem Traffic.respond (h : Traffic config s) : Traffic config s.respond := by
  unfold State.respond
  split
  · exact Traffic.send (h.ofSame (t := { s with endTimer := true }) rfl rfl rfl rfl) _
  · exact h.send []

/-- An authorization that finds no thread of a manager. -/
theorem Traffic.onAuthorized (h : Traffic config s) {cause : Cause} {spawned : Spawned}
    (halive : (s.onAuthorized config cause spawned).terminated ≠ some .unjoinedThread) :
    Traffic config (s.onAuthorized config cause spawned) := by
  rcases s.onAuthorized_cases config cause spawned with ⟨-, heq⟩ | ⟨-, heq⟩
  · rw [heq]
    exact ⟨h.alive, OwnTraffic.authorized (s := s.logAuthorization cause) h.managers spawned,
      h.configured.init, h.checkTimer, h.sent⟩
  · rw [heq] at halive
    exact absurd rfl halive

theorem Traffic.processData (h : Traffic config s) {message : RclMessage} {own : OwnMessage}
    (harrives : own.Arrives config.codecs message)
    (hkey : MessageBase.isOpCode message .authentication = false) :
    Traffic config (s.processData message) := by
  have hrest : (s.processData message).terminated = s.terminated ∧
      (s.processData message).checkTimer = s.checkTimer ∧
      (s.processData message).sent = s.sent := by
    unfold State.processData
    split <;> exact ⟨rfl, rfl, rfl⟩
  exact ⟨hrest.1.trans h.alive, h.managers.processData harrives hkey,
    configured_processData h.configured message, hrest.2.1 ▸ h.checkTimer, hrest.2.2 ▸ h.sent⟩

/-- An own frame is a user key or data. -/
theorem Traffic.receive (h : Traffic config s) (hcodecs : config.codecs.RoundTrip)
    {frame : Bytes} (hframe : OwnFrame config.codecs frame) {check : KeyCheck}
    {spawned : Spawned} (hreceives : Receives config frame check spawned s t)
    (halive : t.terminated ≠ some .unjoinedThread) : Traffic config t := by
  obtain ⟨own, message, hmessage, harrives⟩ := hframe.arrives hcodecs
  have hstored : Traffic config (s.store check) := h.ofSame rfl rfl rfl rfl
  cases hreceives with
  | fault fault hfault =>
      rw [hmessage] at hfault
      cases hfault
  | omitted => exact h.send []
  | unavailable => exact h.ofSame rfl rfl rfl rfl
  | invalid => exact hstored.ofSame rfl rfl rfl rfl
  | valid userKey hvalidates huser hlive =>
      exact (hstored.onAuthorized (by rw [hlive]; nofun)).respond
  | terminated userKey hvalidates huser hdead => exact hstored.onAuthorized halive
  | data other hother hkey =>
      obtain rfl := Except.ok.inj (hmessage.symm.trans hother)
      exact h.processData harrives hkey

theorem Traffic.turn (h : Traffic config s) (hturn : label.isTurn = true)
    (henabled : enabled s label = true) : Traffic config (next config s label) := by
  obtain ⟨hmanagers, halive⟩ := h.managers.turn hturn henabled
  have hrest : (next config s label).checkTimer = s.checkTimer ∧
      (next config s label).sent = s.sent := by
    cases label with
    | threadedRun channel =>
        simp only [ServerConnection.next, State.threadedRun]
        split <;> exact ⟨rfl, rfl⟩
    | subscriberRun =>
        simp only [ServerConnection.next, State.subscriberRun]
        split <;> exact ⟨rfl, rfl⟩
    | serviceActionTake =>
        simp only [ServerConnection.next, State.serviceActionTake]
        split <;> exact ⟨rfl, rfl⟩
    | serviceActionRun =>
        simp only [ServerConnection.next, State.serviceActionRun]
        split
        · exact ⟨rfl, rfl⟩
        · split <;> exact ⟨rfl, rfl⟩
    | publisherTake | publisherRun | threadedTake | subscriberTake => exact ⟨rfl, rfl⟩
    | connect | receive | validAuthenticationCheck | authenticationEnd | stopConnection =>
        simp [Label.isTurn] at hturn
  exact ⟨halive.trans h.alive, hmanagers, configured_turn h.configured hturn,
    hrest.1 ▸ h.checkTimer, hrest.2 ▸ h.sent⟩

theorem Traffic.stopConnectionInternal (h : Traffic config s) :
    Traffic config s.stopConnectionInternal :=
  ⟨h.alive, h.managers.stopConnectionInternal, SubscriberManager.Configured.onStopThread,
    h.checkTimer, h.sent⟩

/-- What one step keeps. -/
theorem Traffic.next (h : Traffic config s) (hcodecs : config.codecs.RoundTrip)
    (hplugin : config.authenticationOmit = false → config.authenticationPlugin = true)
    (henabled : enabled s label = true)
    (hframe : ∀ frame check spawned, label = .receive frame check spawned →
      OwnFrame config.codecs frame)
    (halive : (next config s label).terminated ≠ some .unjoinedThread) :
    Traffic config (next config s label) := by
  cases label with
  | connect spawned =>
      simp only [ServerConnection.next, State.onConnected] at halive ⊢
      cases homit : config.authenticationOmit with
      | true =>
          rw [homit, if_pos rfl] at halive
          exact Traffic.onAuthorized (s := { s with connected := true })
            (h.ofSame rfl rfl rfl rfl) halive
      | false => exact ⟨h.alive, h.managers, h.configured, fun _ => homit, h.sent⟩
  | receive frame check spawned =>
      exact h.enterHandler.receive hcodecs (hframe frame check spawned rfl)
        (receive_receives config frame check spawned s) halive
  | validAuthenticationCheck =>
      simp only [enabled, Bool.and_eq_true] at henabled
      have havailable := hplugin (h.checkTimer henabled.1.2)
      simp only [ServerConnection.next, State.validAuthenticationCheckCallback, havailable,
        Bool.true_eq_false, if_false]
      split <;> exact ⟨h.alive, h.managers, h.configured, by simp, h.sent⟩
  | authenticationEnd => exact h.ofSame rfl rfl rfl rfl
  | stopConnection => exact h.stopConnectionInternal
  | publisherTake | publisherRun | threadedTake | threadedRun | subscriberTake | subscriberRun
  | serviceActionTake | serviceActionRun => exact h.turn rfl henabled

end ServerConnection

namespace PeerData

variable {Plugin : Type} {config : ServerConnection.Config Plugin} {s : State Plugin}

/-- A server that has read own frames only, and what it hands to its queue. -/
structure Traffic (config : ServerConnection.Config Plugin) (s : State Plugin) : Prop where
  connection : ServerConnection.Traffic config s.connection
  handed : ∀ frame ∈ s.sendingQueue.queued ++ s.sendingQueue.posted,
    OwnFrame config.codecs frame
  notified : ∀ frame ∈ s.notified, OwnFrame config.codecs frame

theorem Traffic.start : Traffic config .start :=
  ⟨.start, nofun, nofun⟩

/-- A step of the queue that hands it nothing new. -/
theorem Traffic.ofConnection (h : Traffic config s)
    {connection : ServerConnection.State Plugin} {queue : SendingQueue.State Bytes}
    (hconnection : ServerConnection.Traffic config connection)
    (hqueue : queue.queued ++ queue.posted = s.sendingQueue.queued ++ s.sendingQueue.posted) :
    Traffic config { s with connection := connection, sendingQueue := queue } where
  connection := hconnection
  handed := by
    rw [hqueue]
    exact h.handed
  notified := h.notified

theorem Traffic.send (h : Traffic config s) (runningInStrand : Bool) {combinedVector : Bytes}
    (hframe : OwnFrame config.codecs combinedVector) :
    Traffic config (s.send runningInStrand combinedVector) := by
  refine ⟨h.connection, fun frame hmem => ?_, h.notified⟩
  have hcases : frame ∈ s.sendingQueue.queued ++ s.sendingQueue.posted ∨
      frame = combinedVector := by
    cases runningInStrand with
    | true =>
        obtain ⟨hqueued, hposted, -⟩ :=
          SendingQueue.queued_queueMessage s.sendingQueue combinedVector
        simp only [State.send, SendingQueue.State.send, if_true, hqueued, hposted,
          List.mem_append, List.mem_singleton] at hmem ⊢
        tauto
    | false =>
        simp only [State.send, SendingQueue.State.send, Bool.false_eq_true, if_false,
          List.mem_append, List.mem_singleton] at hmem ⊢
        tauto
  rcases hcases with hold | rfl
  · exact h.handed frame hold
  · exact hframe

theorem Traffic.foldl_send (h : Traffic config s) {vectors : List Bytes}
    (hvectors : ∀ frame ∈ vectors, OwnFrame config.codecs frame) :
    Traffic config (vectors.foldl (fun s => s.send true) s) := by
  induction vectors generalizing s with
  | nil => exact h
  | cons vector rest ih =>
      exact ih (h.send true (hvectors vector List.mem_cons_self))
        fun frame hframe => hvectors frame (List.mem_cons_of_mem vector hframe)

theorem Traffic.runConnection (h : Traffic config s) {label : ServerConnection.Label}
    (hconnection : ServerConnection.Traffic config
      (ServerConnection.next config s.connection label)) :
    Traffic config (s.runConnection config label) :=
  (h.ofConnection hconnection rfl).foldl_send fun frame hframe =>
    hconnection.sent frame (List.mem_of_mem_drop hframe)

/-- `close` tells the peer in a message of its own. -/
theorem Traffic.close (h : Traffic config s) (reason : Bytes) :
    Traffic config (s.close reason) := by
  refine ⟨h.connection.ofSame rfl rfl rfl rfl, h.handed, fun frame hframe => ?_⟩
  simp only [State.close] at hframe
  split at hframe
  · rcases List.mem_append.mp hframe with hold | hnew
    · exact h.notified frame hold
    · obtain rfl := List.mem_singleton.mp hnew
      exact (ClientConnection.ownData_notification (fun _ => trivial) config.codecs reason).ownFrame
  · exact h.notified frame hframe

/-- What one step keeps, if no thread is started over another. -/
theorem Traffic.next (h : Traffic config s) (hcodecs : config.codecs.RoundTrip)
    (hplugin : config.authenticationOmit = false → config.authenticationPlugin = true)
    {label : Label} (henabled : enabled config s label = true)
    (hinternal : Session.isInternal label = true)
    (hframe : ∀ frame ∈ Session.frameRead label, OwnFrame config.codecs frame)
    (halive : (next config s label).connection.terminated ≠ some .unjoinedThread) :
    Traffic config (next config s label) := by
  cases label with
  | connection label =>
      refine h.runConnection (h.connection.next hcodecs hplugin henabled ?_ ?_)
      · rintro frame check spawned rfl
        exact hframe frame rfl
      · simpa only [PeerData.next, State.runConnection, (PeerData.foldl_send _ _).2.1] using halive
  | pluginSets user endTime => exact h.ofConnection (h.connection.ofSame rfl rfl rfl rfl) rfl
  | keyCheckThrows frame =>
      exact h.ofConnection (h.connection.enterHandler.ofSame rfl rfl rfl rfl) rfl
  | notifyAboutSubscriber | subscriberSends | sendClock | pluginSends =>
      simp [Session.isInternal] at hinternal
  | runPosted =>
      exact h.ofConnection h.connection.enterHandler
        (SendingQueue.queued_runPosted s.sendingQueue).1
  | complete position error =>
      obtain ⟨hqueued, hposted, -⟩ := SendingQueue.queued_complete s.sendingQueue position error
      exact h.ofConnection h.connection.enterHandler (by rw [hqueued, hposted])
  | setOpen isOpen => exact h.ofConnection h.connection rfl
  | close reason => exact h.close reason

/-- All a server has written to its peer. -/
theorem Traffic.written (h : Traffic config s)
    (hqueue : (SendingQueue.connection Bytes).Reachable s.sendingQueue) :
    ∀ frame ∈ s.sendingQueue.written ++ s.notified, OwnFrame config.codecs frame := by
  intro frame hframe
  rcases List.mem_append.mp hframe with hwritten | hnotified
  · exact h.handed frame (List.mem_append_left _
      ((SendingQueue.written_sublist hqueue).subset hwritten))
  · exact h.notified frame hnotified

end PeerData

namespace ClientConnection

variable {Plugin : Type} {config : Config Plugin} {s : State Plugin} {label : Label}

/-- A client that has received own frames only. -/
theorem traffic_next (h : ServerConnection.Traffic config.toConfig s.connection)
    (hcodecs : config.codecs.RoundTrip) (henabled : enabled config s label = true)
    (hframe : ∀ frame, label = .receive frame → OwnFrame config.codecs frame)
    (halive : (next config s label).connection.terminated ≠ some .unjoinedThread) :
    ServerConnection.Traffic config.toConfig (next config s label).connection := by
  cases label with
  | handshake spawned =>
      exact ServerConnection.Traffic.onAuthorized
        (s := { s.connection with connected := true }) (h.ofSame rfl rfl rfl rfl) halive
  | receive frame =>
      obtain ⟨own, message, hmessage, harrives⟩ := (hframe frame rfl).arrives hcodecs
      simp only [ClientConnection.next, State.receive, hmessage, State.processMessage]
      cases hkey : MessageBase.isOpCode message .authentication with
      | true => exact h.enterHandler
      | false => exact h.enterHandler.processData harrives hkey
  | turn label =>
      obtain ⟨hturn, hrun⟩ := Bool.and_eq_true_iff.mp henabled
      exact h.turn hturn hrun
  | emit emission =>
      simp only [ClientConnection.next, State.emit]
      split <;> exact h
  | runPosted | complete => exact h.enterHandler
  | streamClosed => exact h
  | stopConnection => exact h.stopConnectionInternal
  | close reason => exact h.ofSame rfl rfl rfl rfl

end ClientConnection

namespace Session

variable {Plugin : Type} {config : Config Plugin} {s : State Plugin} {label : Label}

/-- What is on its way to the server is own. -/
theorem KeyFirst.ownFrame (h : KeyFirst OwnMessage.Filled config s) :
    ∀ frame ∈ s.read ++ s.toServer, OwnFrame config.server.codecs frame := by
  intro frame hframe
  cases hconnected : s.client.connection.connected with
  | false =>
      rw [(h.silent hconnected).1] at hframe
      cases hframe
  | true =>
      obtain ⟨rest, hwire, hdata⟩ := h.keyed hconnected
      rw [hwire] at hframe
      rcases List.mem_cons.mp hframe with rfl | hrest
      · exact ownFrame_forOpCodeAuthentication _ _
      · exact (hdata frame hrest).ownFrame

theorem keyFirst_of_filled (h : (session config).ReachableWith (fun _ label => label.Filled) s) :
    KeyFirst OwnMessage.Filled config s :=
  keyFirst_of_emits (fun _ => trivial) (h.mono fun s _ hlabel => hlabel.emits s)

/-- Two nodes that have received own frames only. -/
structure Clean (config : Config Plugin) (s : State Plugin) : Prop where
  server : PeerData.Traffic config.server s.server
  client : ServerConnection.Traffic config.client.toConfig s.client.connection
  toClient : ∀ frame ∈ s.toClient, OwnFrame config.server.codecs frame

/-- What a manager of the server sends. -/
theorem traffic_emission {server : PeerData.State Plugin}
    (h : PeerData.Traffic config.server server) {emission : Emission} (hfilled : emission.Filled)
    {combinedVector : Bytes}
    (hvector : emission.combinedVector config.server.codecs server.connection.toManagers =
      some combinedVector) :
    PeerData.Traffic config.server
      (PeerData.next config.server server (emissionLabel combinedVector emission)) := by
  obtain ⟨own, hown, hframe⟩ := Emission.exists_own hvector
  obtain ⟨hchannel, -⟩ := Emission.onChannel_own h.connection.configured hown
  cases emission with
  | notifyAboutSubscriber channel value =>
      exact h.send false ⟨.subscription channel value, trivial, trivial, rfl⟩
  | subscriberSends | pluginSends => exact h.send false ⟨own, hchannel, hfilled.own hown, hframe⟩
  | sendClock serializedMessage =>
      exact h.send false ⟨.topic OpCode.clock.toByte serializedMessage ⟨.none, 0⟩,
        ⟨by decide, by decide, by decide, by decide⟩, hfilled, rfl⟩

/-- The server writes own frames. -/
theorem Clean.stepServer (h : Clean config s) {label : PeerData.Label}
    (hserver : PeerData.Traffic config.server (PeerData.next config.server s.server label))
    (hreach : (PeerData.connection config.server).Reachable
      (PeerData.next config.server s.server label)) :
    Clean config (s.stepServer config label) := by
  refine ⟨hserver, h.client, fun frame hframe => ?_⟩
  rcases List.mem_append.mp hframe with hold | hnew
  · exact h.toClient frame hold
  · refine hserver.written ((PeerData.queue_projection config.server).reachable hreach) frame ?_
    rcases List.mem_append.mp hnew with hwritten | hnotified
    · exact List.mem_append_left _ (List.mem_of_mem_drop hwritten)
    · exact List.mem_append_right _ (List.mem_of_mem_drop hnotified)

theorem Clean.next (h : Clean config s) (hcodecs : config.server.codecs.RoundTrip)
    (hplugin : config.server.authenticationOmit = false →
      config.server.authenticationPlugin = true)
    (hreach : (session config).ReachableWith (fun _ label => label.Filled) s)
    (henabled : enabled config s label = true) (hfilled : label.Filled) :
    Clean config (next config s label) := by
  have hafter : (session config).ReachableWith (fun _ label => label.Filled)
      (Session.next config s label) := .step hreach henabled hfilled
  have hserver := (server_projection config).reachable (hafter.mono fun _ _ _ => trivial)
  have hclient := (client_projection OwnMessage.Filled config).reachable
    (hafter.mono fun s label hlabel => hlabel.emits s)
  have hthread := (admitted_of_reachable hcodecs (hafter.mono fun _ _ _ => trivial)).alive
  cases label with
  | server label =>
      simp only [enabled, Bool.and_eq_true] at henabled
      refine h.stepServer (h.server.next hcodecs hplugin henabled.1.1 henabled.1.2 ?_ hthread)
        hserver
      intro frame hframe
      have hhead := henabled.2
      rw [hframe, Option.all_some, beq_iff_eq] at hhead
      exact (keyFirst_of_filled hreach).ownFrame frame
        (List.mem_append_right _ (List.mem_of_mem_head? hhead))
  | serverEmits emission =>
      simp only [Session.next, State.emitServer] at hserver ⊢
      cases hvector : emission.combinedVector config.server.codecs
          s.server.connection.toManagers with
      | none => exact h
      | some combinedVector =>
          simp only [hvector] at hserver
          exact h.stepServer (traffic_emission h.server hfilled hvector) hserver
  | client label =>
      simp only [enabled, Bool.and_eq_true] at henabled
      have halive := (ClientConnection.inv_of_reachable hclient).alive
      refine ⟨h.server, ClientConnection.traffic_next h.client (config.sameCodecs ▸ hcodecs)
        henabled.1 ?_ halive, ?_⟩
      · rintro frame rfl
        have hhead := henabled.2
        rw [frameReceived, Option.all_some, beq_iff_eq] at hhead
        rw [config.sameCodecs]
        exact h.toClient frame (List.mem_of_mem_head? hhead)
      · intro frame hframe
        simp only [Session.next, State.stepClient] at hframe
        split at hframe
        · exact h.toClient frame (List.mem_of_mem_tail hframe)
        · exact h.toClient frame hframe

theorem clean_of_reachable (hcodecs : config.server.codecs.RoundTrip)
    (hplugin : config.server.authenticationOmit = false →
      config.server.authenticationPlugin = true)
    (h : (session config).ReachableWith (fun _ label => label.Filled) s) : Clean config s :=
  h.layered (Clean config) ⟨.start, .start, fun _ hframe => by cases hframe⟩
    fun _ _ hreach hinv henabled hfilled => hinv.next hcodecs hplugin hreach henabled hfilled

/-- Neither of two nodes that send nothing empty ends the other: each frame on its
way is decoded, no accessor leaves it, and no thread is started over another. -/
theorem alive_of_plugin (hcodecs : config.server.codecs.RoundTrip)
    (hplugin : config.server.authenticationOmit = false →
      config.server.authenticationPlugin = true)
    (h : (session config).ReachableWith (fun _ label => label.Filled) s) :
    s.server.connection.terminated = none ∧ s.client.connection.terminated = none ∧
      ∀ frame ∈ s.read ++ s.toServer ++ s.toClient, ∃ message : RclMessage,
        RclMessage.fromFlatBuffer frame = .ok message ∧ message.Safe := by
  have hclean := clean_of_reachable hcodecs hplugin h
  refine ⟨hclean.server.connection.alive, hclean.client.alive, fun frame hframe => ?_⟩
  have hown : OwnFrame config.server.codecs frame := by
    rcases List.mem_append.mp hframe with hserver | hclient
    · exact (keyFirst_of_filled h).ownFrame frame hserver
    · exact hclean.toClient frame hclient
  obtain ⟨own, message, hmessage, harrives⟩ := hown.arrives hcodecs
  exact ⟨message, hmessage, harrives.safe⟩

end Session

end Ros2Connect
