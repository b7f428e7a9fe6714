import Ros2Connect.Connection.ClientKey

/-!
A client connection and the server connection at its other end. Each side is its
own machine; what one writes, the other reads in the same order. A connection
that breaks delivers no more: a frame on its way need not be read.
-/

namespace Ros2Connect

open Lib

namespace Session

variable {Plugin : Type}

/-- Two nodes with the same compression libraries. -/
structure Config (Plugin : Type) where
  server : ServerConnection.Config Plugin
  client : ClientConnection.Config Plugin
  sameCodecs : client.codecs = server.codecs

/-- `read` logs the frames the server has read; no step looks at it. -/
structure State (Plugin : Type) where
  server : PeerData.State Plugin
  client : ClientConnection.State Plugin
  toServer : List Bytes
  toClient : List Bytes
  read : List Bytes

/-- A step of one side. What the managers of the server send is what they
build. -/
inductive Label where
  | server (label : PeerData.Label)
  | serverEmits (emission : Emission)
  | client (label : ClientConnection.Label)
  deriving DecidableEq

/-- The frame a step of the server reads. -/
def frameRead : PeerData.Label → Option Bytes
  | .connection (.receive frame _ _) | .keyCheckThrows frame => some frame
  | _ => none

/-- The frame a step of the client reads. -/
def frameReceived : ClientConnection.Label → Option Bytes
  | .receive frame => some frame
  | _ => none

/-- A step of the server that is not left to `serverEmits`. -/
def isInternal : PeerData.Label → Bool
  | .notifyAboutSubscriber _ _ | .subscriberSends _ _ | .sendClock _ | .pluginSends _ _ _ => false
  | _ => true

/-- The step of the server by which one of its managers sends. -/
def emissionLabel (combinedVector : Bytes) : Emission → PeerData.Label
  | .notifyAboutSubscriber channel value => .notifyAboutSubscriber channel value
  | .subscriberSends channel _ => .subscriberSends channel combinedVector
  | .sendClock serializedMessage => .sendClock serializedMessage
  | .pluginSends role channel _ _ _ _ => .pluginSends role channel combinedVector

/-- What a step has written to the peer. -/
def writtenSince (before after : PeerData.State Plugin) : List Bytes :=
  after.sendingQueue.written.drop before.sendingQueue.written.length ++
    after.notified.drop before.notified.length

namespace State

def start : State Plugin where
  server := .start
  client := .start
  toServer := []
  toClient := []
  read := []

def stepServer (config : Config Plugin) (label : PeerData.Label) (s : State Plugin) :
    State Plugin :=
  let server := PeerData.next config.server s.server label
  { s with
    server := server
    toServer := if (frameRead label).isSome then s.toServer.tail else s.toServer
    toClient := s.toClient ++ writtenSince s.server server
    read := s.read ++ (frameRead label).toList }

def emitServer (config : Config Plugin) (emission : Emission) (s : State Plugin) :
    State Plugin :=
  match emission.combinedVector config.server.codecs s.server.connection.toManagers with
  | none => s
  | some combinedVector => s.stepServer config (emissionLabel combinedVector emission)

def stepClient (config : Config Plugin) (label : ClientConnection.Label) (s : State Plugin) :
    State Plugin :=
  let client := ClientConnection.next config.client s.client label
  { s with
    client := client
    toServer := s.toServer ++ writtenSince s.client.toState client.toState
    toClient := if (frameReceived label).isSome then s.toClient.tail else s.toClient }

end State

/-- A frame is read when it is the next one. -/
def enabled (config : Config Plugin) (s : State Plugin) : Label → Bool
  | .server label => PeerData.enabled config.server s.server label && isInternal label &&
      (frameRead label).all fun frame => s.toServer.head? == some frame
  | .serverEmits emission => s.server.connection.terminated.isNone &&
      (emission.combinedVector config.server.codecs s.server.connection.toManagers).isSome
  | .client label => ClientConnection.enabled config.client s.client label &&
      (frameReceived label).all fun frame => s.toClient.head? == some frame

def next (config : Config Plugin) (s : State Plugin) : Label → State Plugin
  | .server label => s.stepServer config label
  | .serverEmits emission => s.emitServer config emission
  | .client label => s.stepClient config label

def session (config : Config Plugin) : Machine (State Plugin) Label where
  start := .start
  enabled := enabled config
  next := next config

/-- What the managers of both sides send in a step is of a kind. -/
def Emits (P : OwnMessage → Prop) (s : State Plugin) : Label → Prop
  | .server _ => True
  | .serverEmits emission =>
      ∀ own, emission.own s.server.connection.toManagers = some own → P own
  | .client label => ClientConnection.Emits P s.client label

/-- What they send is not empty. -/
def Label.Filled : Label → Prop
  | .server _ => True
  | .serverEmits emission => emission.Filled
  | .client label => label.Filled

instance : DecidablePred Label.Filled
  | .server _ => isTrue trivial
  | .serverEmits emission => inferInstanceAs (Decidable emission.Filled)
  | .client label => inferInstanceAs (Decidable label.Filled)

variable {config : Config Plugin} {s : State Plugin}

theorem Label.Filled.emits {label : Label} (h : label.Filled) (s : State Plugin) :
    Emits OwnMessage.Filled s label := by
  cases label with
  | server label => trivial
  | serverEmits emission => exact fun own hown => Emission.Filled.own h hown
  | client label => exact ClientConnection.Label.Filled.emits h s.client

theorem emits_true (s : State Plugin) (label : Label) : Emits (fun _ => True) s label := by
  cases label with
  | server label => trivial
  | serverEmits emission => exact fun _ _ => trivial
  | client label =>
      cases label with
      | emit emission => exact fun _ _ => trivial
      | handshake | receive | turn | runPosted | complete | streamClosed | stopConnection
      | close => trivial

/-- A manager that sends exists. -/
theorem enabled_emissionLabel {codecs : Codecs} {server : PeerData.State Plugin}
    (halive : server.connection.terminated.isNone = true) {emission : Emission}
    {combinedVector : Bytes}
    (h : emission.combinedVector codecs server.connection.toManagers = some combinedVector) :
    PeerData.enabled config.server server (emissionLabel combinedVector emission) = true := by
  obtain ⟨own, hown, -⟩ := Emission.exists_own h
  cases emission with
  | notifyAboutSubscriber channel value =>
      simp only [Emission.own] at hown
      split at hown
      · simp_all [emissionLabel, PeerData.enabled]
      · cases hown
  | subscriberSends channel serializedMessage =>
      simp only [Emission.own, Option.map_eq_some_iff] at hown
      obtain ⟨topic, htopic, -⟩ := hown
      simp [emissionLabel, PeerData.enabled, halive, htopic]
  | sendClock serializedMessage =>
      simp only [Emission.own] at hown
      split at hown
      · simp_all [emissionLabel, PeerData.enabled]
      · cases hown
  | pluginSends role channel opCode data gID compression =>
      simp only [Emission.own] at hown
      split at hown
      · simp_all [emissionLabel, PeerData.enabled]
      · cases hown

/-- The server of a session is a server connection. -/
theorem server_projection (config : Config Plugin) :
    Machine.Projection (session config) (PeerData.connection config.server) (fun _ _ => True)
      (fun _ _ => True) State.server where
  start := rfl
  step := by
    intro s label henabled _
    cases label with
    | server label =>
        simp only [session, enabled, Bool.and_eq_true] at henabled
        exact .single henabled.1.1 trivial
    | serverEmits emission =>
        simp only [session, enabled, Bool.and_eq_true, Option.isSome_iff_exists] at henabled
        obtain ⟨halive, combinedVector, hvector⟩ := henabled
        simp only [session, next, State.emitServer, hvector]
        exact .single (enabled_emissionLabel halive hvector) trivial
    | client label => exact .refl

/-- The client of a session is a client connection. -/
theorem client_projection (P : OwnMessage → Prop) (config : Config Plugin) :
    Machine.Projection (session config) (ClientConnection.connection config.client)
      (Emits P) (ClientConnection.Emits P) State.client where
  start := rfl
  step := by
    intro s label henabled hemits
    cases label with
    | server label => exact .refl
    | serverEmits emission =>
        simp only [session, next, State.emitServer]
        split <;> exact .refl
    | client label =>
        simp only [session, enabled, Bool.and_eq_true] at henabled
        exact .single henabled.1 hemits

end Session

end Ros2Connect
