import Ros2Connect.Connection.Session

/-!
What is on its way to the server of a session, or was read by it: nothing before
the handshake of the client, and then the client's user key and data behind it.
-/

namespace Ros2Connect

open Lib

namespace Session

open ClientConnection (Keyed)

variable {Plugin : Type} {P : OwnMessage → Prop} {config : Config Plugin} {s : State Plugin}
  {label : Label}

/-- What was written to the server, read or not, in its order. -/
structure KeyFirst (P : OwnMessage → Prop) (config : Config Plugin) (s : State Plugin) : Prop where
  silent : s.client.connection.connected = false →
    s.read ++ s.toServer = [] ∧ s.client.notified = []
  keyed : s.client.connection.connected = true →
    ∃ rest, s.read ++ s.toServer = config.client.keyFrame :: rest ∧
      ∀ frame ∈ rest, OwnData P config.server.codecs frame

theorem KeyFirst.ofSame (h : KeyFirst P config s) {t : State Plugin}
    (hwire : t.read ++ t.toServer = s.read ++ s.toServer)
    (hclient : t.client = s.client) : KeyFirst P config t := by
  refine ⟨?_, ?_⟩
  · rw [hclient, hwire]
    exact h.silent
  · rw [hclient, hwire]
    exact h.keyed

/-- The server reads what comes next. -/
theorem read_stepServer {label : PeerData.Label}
    (hnext : (frameRead label).all (fun frame => s.toServer.head? == some frame) = true) :
    (s.stepServer config label).read ++ (s.stepServer config label).toServer =
      s.read ++ s.toServer := by
  simp only [State.stepServer]
  cases hframe : frameRead label with
  | none => simp
  | some frame =>
      rw [hframe, Option.all_some, beq_iff_eq] at hnext
      obtain ⟨rest, hwire⟩ := List.head?_eq_some_iff.mp hnext
      simp [hwire]

theorem frameRead_emissionLabel (combinedVector : Bytes) (emission : Emission) :
    frameRead (emissionLabel combinedVector emission) = none := by
  cases emission <;> rfl

/-- What a connected client writes is data. -/
theorem ownData_writtenSince (hP : ∀ text, P (.notification text))
    {label : ClientConnection.Label} {client : ClientConnection.State Plugin}
    (hreach : (ClientConnection.connection config.client).ReachableWith (ClientConnection.Emits P)
      client)
    (henabled : ClientConnection.enabled config.client client label = true)
    (hemits : ClientConnection.Emits P client label)
    (hconnected : client.connection.connected = true)
    (hafter : (ClientConnection.next config.client client label).connection.connected = true) :
    ∀ frame ∈ writtenSince client.toState
        (ClientConnection.next config.client client label).toState,
      OwnData P config.server.codecs frame := by
  have hstep := Machine.ReachableWith.step hreach henabled hemits
  have hqueue := ClientConnection.queue_projection config.client
  obtain ⟨before, hbefore, -⟩ := ((ClientConnection.inv_of_reachable hreach).keyed
    hconnected).written_data (hqueue.reachable (hreach.mono fun _ _ _ => trivial))
  obtain ⟨rest, hwritten, hdata⟩ := ((ClientConnection.inv_of_reachable hstep).keyed
    hafter).written_data (hqueue.reachable (hstep.mono fun _ _ _ => trivial))
  rw [← config.sameCodecs]
  intro frame hframe
  rcases List.mem_append.mp hframe with hnew | hnotice
  · have hwritten : (ClientConnection.next config.client client label).sendingQueue.written =
        config.client.keyFrame :: rest := hwritten
    rw [hbefore, hwritten, List.length_cons, List.drop_succ_cons] at hnew
    exact hdata frame (List.mem_of_mem_drop hnew)
  · rcases @ClientConnection.notified_next _ config.client client label with
      hsame | ⟨-, reason, hnotified⟩
    · rw [hsame, List.drop_length] at hnotice
      cases hnotice
    · rw [hnotified, List.drop_left] at hnotice
      obtain rfl := List.mem_singleton.mp hnotice
      exact ClientConnection.ownData_notification hP _ reason

/-- The handshake writes the key. -/
theorem writtenSince_handshake {client : ClientConnection.State Plugin}
    (hqueue : client.sendingQueue = .start) (hnotified : client.notified = [])
    {spawned : ServerConnection.Spawned} :
    writtenSince client.toState
        (ClientConnection.next config.client client (.handshake spawned)).toState =
      [config.client.keyFrame] := by
  have hsent : (ClientConnection.next config.client client (.handshake spawned)).sendingQueue =
      SendingQueue.State.send { client.sendingQueue with isOpen := true } true
        config.client.keyFrame := rfl
  have hsame : (ClientConnection.next config.client client (.handshake spawned)).notified =
      client.notified := rfl
  rw [writtenSince, hsent, hsame, hqueue, hnotified]
  rfl

theorem KeyFirst.stepClient (h : KeyFirst P config s) (hP : ∀ text, P (.notification text))
    {label : ClientConnection.Label}
    (hreach : (ClientConnection.connection config.client).ReachableWith (ClientConnection.Emits P)
      s.client)
    (henabled : ClientConnection.enabled config.client s.client label = true)
    (hemits : ClientConnection.Emits P s.client label) :
    KeyFirst P config (s.stepClient config label) := by
  have hinv := ClientConnection.inv_of_reachable hreach
  have hafter := ClientConnection.inv_of_reachable
    (Machine.ReachableWith.step hreach henabled hemits)
  have hwire : (s.stepClient config label).read ++ (s.stepClient config label).toServer =
      s.read ++ s.toServer ++ writtenSince s.client.toState
        (ClientConnection.next config.client s.client label).toState := by
    simp [State.stepClient]
  cases hconnected : s.client.connection.connected with
  | true =>
      have hstill : (ClientConnection.next config.client s.client label).connection.connected =
          true := by
        by_cases hlabel : ∃ spawned, label = .handshake spawned
        · obtain ⟨spawned, rfl⟩ := hlabel
          exact ClientConnection.connected_handshake spawned
        · rw [ClientConnection.connected_next henabled (not_exists.mp hlabel)]
          exact hconnected
      refine ⟨fun hfresh => ?_, fun _ => ?_⟩
      · rw [State.stepClient, hstill] at hfresh
        cases hfresh
      · obtain ⟨rest, hkey, hdata⟩ := h.keyed hconnected
        refine ⟨rest ++ writtenSince s.client.toState
          (ClientConnection.next config.client s.client label).toState, ?_, ?_⟩
        · rw [hwire, hkey, List.cons_append]
        · intro frame hframe
          rcases List.mem_append.mp hframe with hold | hnew
          · exact hdata frame hold
          · exact ownData_writtenSince hP hreach henabled hemits hconnected hstill frame hnew
  | false =>
      obtain ⟨hempty, hnotified⟩ := h.silent hconnected
      have hfresh := hinv.fresh hconnected
      by_cases hlabel : ∃ spawned, label = .handshake spawned
      · obtain ⟨spawned, rfl⟩ := hlabel
        refine ⟨fun hstill => ?_, fun _ => ⟨[], ?_, nofun⟩⟩
        · rw [State.stepClient, ClientConnection.connected_handshake] at hstill
          cases hstill
        · rw [hwire, hempty, writtenSince_handshake hfresh.sendingQueue hnotified, List.nil_append]
      · have hstill : (ClientConnection.next config.client s.client label).connection.connected =
            false := by
          rw [ClientConnection.connected_next henabled (not_exists.mp hlabel)]
          exact hconnected
        have hqueue : (ClientConnection.next config.client s.client label).sendingQueue =
            .start := (hafter.fresh hstill).sendingQueue
        have hnotice : (ClientConnection.next config.client s.client label).notified = [] := by
          rcases @ClientConnection.notified_next _ config.client s.client label with
            hsame | ⟨hopen, -⟩
          · exact hsame.trans hnotified
          · rw [hfresh.sendingQueue] at hopen
            cases hopen
        refine ⟨fun _ => ⟨?_, hnotice⟩, fun hthere => ?_⟩
        · rw [hwire, hempty, writtenSince, hqueue, hnotice]
          simp [SendingQueue.State.start]
        · rw [State.stepClient, hstill] at hthere
          cases hthere

theorem KeyFirst.next (h : KeyFirst P config s) (hP : ∀ text, P (.notification text))
    (hreach : (session config).ReachableWith (Emits P) s)
    (henabled : enabled config s label = true) (hemits : Emits P s label) :
    KeyFirst P config (next config s label) := by
  cases label with
  | server label =>
      simp only [enabled, Bool.and_eq_true] at henabled
      exact h.ofSame (read_stepServer henabled.2) rfl
  | serverEmits emission =>
      simp only [Session.next, State.emitServer]
      split
      · exact h
      · rename_i combinedVector _
        exact h.ofSame (read_stepServer (by simp [frameRead_emissionLabel])) rfl
  | client label =>
      simp only [enabled, Bool.and_eq_true] at henabled
      exact h.stepClient hP ((client_projection P config).reachable hreach) henabled.1 hemits

theorem keyFirst_of_emits (hP : ∀ text, P (.notification text))
    (h : (session config).ReachableWith (Emits P) s) : KeyFirst P config s :=
  h.layered (KeyFirst P config) ⟨fun _ => ⟨rfl, rfl⟩, fun hconnected => by cases hconnected⟩
    fun _ _ hreach hinv henabled hemits => hinv.next hP hreach henabled hemits

theorem keyFirst_of_reachable (h : (session config).Reachable s) :
    KeyFirst (fun _ => True) config s :=
  keyFirst_of_emits (fun _ => trivial) (h.mono fun s label _ => emits_true s label)

/-- The server reads the key of the client first, and data from then on. -/
theorem KeyFirst.frameRead (h : KeyFirst P config s) {label : PeerData.Label}
    (hnext : (frameRead label).all (fun frame => s.toServer.head? == some frame) = true) :
    ∀ frame ∈ frameRead label, (s.read = [] → frame = config.client.keyFrame) ∧
      (s.read ≠ [] → OwnData P config.server.codecs frame) := by
  intro frame hframe
  rw [hframe, Option.all_some, beq_iff_eq] at hnext
  obtain ⟨wire, hwire⟩ := List.head?_eq_some_iff.mp hnext
  have hconnected : s.client.connection.connected = true := by
    cases hconnected : s.client.connection.connected with
    | true => rfl
    | false => simpa [hwire] using (h.silent hconnected).1
  obtain ⟨rest, hordered, hdata⟩ := h.keyed hconnected
  rw [hwire] at hordered
  refine ⟨fun hread => ?_, fun hread => ?_⟩
  · rw [hread, List.nil_append] at hordered
    exact (List.cons.inj hordered).1
  · obtain ⟨first, old, hold⟩ := List.exists_cons_of_ne_nil hread
    rw [hold, List.cons_append] at hordered
    refine hdata frame ?_
    rw [← (List.cons.inj hordered).2]
    simp

end Session

end Ros2Connect
