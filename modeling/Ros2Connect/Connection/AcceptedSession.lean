import Ros2Connect.Connection.SessionTraffic
import Ros2Connect.Parameters.Accepted

/-!
A session of two nodes that `initializeParameters` has let start.
-/

namespace Ros2Connect

open Lib

namespace Parameters

variable {env : Environment} {parameters : Parameters} {authentication : Bool}
  {accepted : Accepted}

/-- A server that starts has a plugin, unless it omits the authentication. -/
theorem authenticationPlugin_of_accepted
    (h : initializeParameters env parameters true = .ok accepted)
    (homit : parameters.authenticationOmit = false) : parameters.authenticationPlugin ≠ "" := by
  simp only [initializeParameters, bind_eq_ok, if_true] at h
  obtain ⟨_, -, _, -, _, -, _, -, _, -, _, -, _, -, _, -, _, -, _, -, _, -, _, hchecked, -⟩ := h
  simp only [checkAuthentication, bind_eq_ok] at hchecked
  obtain ⟨_, -, hchecked⟩ := hchecked
  have hplugin : parameters.authenticationOmit = true ∨ parameters.authenticationPlugin ≠ "" := by
    split at hchecked
    · split at hchecked
      · cases hchecked
      · exact check_eq_ok hchecked
    · exact check_eq_ok hchecked
  rcases hplugin with homitted | hplugin
  · rw [homit] at homitted
    cases homitted
  · exact hplugin

/-- The configuration of a connection of the node. -/
def nodeConfig (h : initializeParameters env parameters authentication = .ok accepted)
    (codecs : Codecs) : ServerConnection.Config ServiceActionDefinition where
  toGlobalConfig := globalConfig h
  authenticationOmit := parameters.authenticationOmit
  authenticationPlugin := parameters.authenticationPlugin != ""
  serviceServer := accepted.serviceServer.map fun entry => (entry.channel, entry)
  serviceClient := accepted.serviceClient.map fun entry => (entry.channel, entry)
  actionServer := accepted.actionServer.map fun entry => (entry.channel, entry)
  actionClient := accepted.actionClient.map fun entry => (entry.channel, entry)
  codecs := codecs

end Parameters

namespace Session

open Parameters (nodeConfig authenticationPlugin_of_accepted)

variable {serverEnv clientEnv : Environment} {serverParameters clientParameters : Parameters}
  {serverAccepted clientAccepted : Accepted}

/-- A server and a client that were started with their parameters. -/
def ofAccepted
    (hserver : initializeParameters serverEnv serverParameters true = .ok serverAccepted)
    (hclient : initializeParameters clientEnv clientParameters false = .ok clientAccepted)
    (codecs : Codecs) (userKey : Bytes) : Config ServiceActionDefinition where
  server := nodeConfig hserver codecs
  client := { nodeConfig hclient codecs with userKey := userKey }
  sameCodecs := rfl

/-- No message of one of two nodes whose parameters are accepted ends a thread of a
connection or of a manager of the other, as long as no serialized message is empty
and every gid fits its size byte: each frame on its way is decoded, and no
accessor leaves it. -/
theorem alive_of_accepted
    (hserver : initializeParameters serverEnv serverParameters true = .ok serverAccepted)
    (hclient : initializeParameters clientEnv clientParameters false = .ok clientAccepted)
    (codecs : Codecs) (hcodecs : codecs.RoundTrip) (userKey : Bytes)
    (s : State ServiceActionDefinition)
    (h : (session (ofAccepted hserver hclient codecs userKey)).ReachableWith
      (fun _ label => label.Filled) s) :
    s.server.connection.terminated = none ∧ s.client.connection.terminated = none ∧
      ∀ frame ∈ s.read ++ s.toServer ++ s.toClient, ∃ message : RclMessage,
        RclMessage.fromFlatBuffer frame = .ok message ∧ message.Safe := by
  refine alive_of_plugin hcodecs (fun homit => ?_) h
  have hplugin := authenticationPlugin_of_accepted hserver homit
  simpa [ofAccepted, nodeConfig] using hplugin

private theorem eq_ok_of_isSome {ε α : Type} {result : Except ε α}
    (h : result.toOption.isSome = true) : result = .ok (result.toOption.get h) := by
  cases result with
  | error failure => cases h
  | ok value => rfl

private theorem sample_isSome (authentication : Bool) :
    (initializeParameters Sample.env (Sample.parameters false) authentication).toOption.isSome =
      true := by
  cases authentication <;> decide +kernel

private def sampleAccepted (authentication : Bool) : Accepted :=
  (initializeParameters Sample.env (Sample.parameters false) authentication).toOption.get
    (sample_isSome authentication)

private theorem sample_accepted (authentication : Bool) :
    initializeParameters Sample.env (Sample.parameters false) authentication =
      .ok (sampleAccepted authentication) :=
  eq_ok_of_isSome (sample_isSome authentication)

private def sampleSession : Config ServiceActionDefinition :=
  ofAccepted (sample_accepted true) (sample_accepted false) literalCodecs [107]

/-- The server reads the key and a message of the permanent subscriber. -/
theorem alive_of_accepted_sample : ∃ s : State ServiceActionDefinition,
    s.read = [sampleSession.client.keyFrame, [1, 0, 5]] ∧
    s.server.connection.terminated = none ∧ s.client.connection.terminated = none ∧
      ∀ frame ∈ s.read ++ s.toServer ++ s.toClient, ∃ message : RclMessage,
        RclMessage.fromFlatBuffer frame = .ok message ∧ message.Safe := by
  obtain ⟨s, hreach, hread⟩ := @Machine.ReachableWith.exists_replay _ _ (session sampleSession) _
    (fun _ label => label.Filled) (fun _ label => inferInstanceAs (Decidable label.Filled))
    (fun _ _ hlabel => hlabel) (fun s => s.read = [sampleSession.client.keyFrame, [1, 0, 5]])
    _ _ .start
    [.client (.handshake ⟨true, true, true⟩), .server (.connection (.connect ⟨true, true, true⟩)),
      .client (.complete 0 false), .client (.emit (.subscriberSends 1 [5])), .client .runPosted,
      .server (.connection (.receive sampleSession.client.keyFrame ⟨false, none, none⟩
        ⟨true, true, true⟩)),
      .server (.connection (.receive [1, 0, 5] ⟨false, none, none⟩ ⟨true, true, true⟩))]
    (by decide +kernel)
  exact ⟨s, hread, alive_of_accepted (sample_accepted true) (sample_accepted false) literalCodecs
    literalCodecs_roundTrip [107] s hreach⟩

end Session

end Ros2Connect
