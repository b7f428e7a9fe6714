import Ros2Connect.Message.ServiceActionMessage

/-!
`ServiceActionManager`: which plugin a received message is handed to, and that
a message of any role reaches the complementary plugin of the other node
unchanged.
-/

namespace Ros2Connect

open Lib

/-- The four kinds of plugins. -/
inductive Role where
  | serviceServer
  | serviceClient
  | actionServer
  | actionClient
  deriving Repr, DecidableEq

namespace Role

/-- The op-codes the plugins of a role send. -/
def emits : Role → List ServiceActionOpCode
  | serviceServer => [.serviceToClient, .serviceToClientCancel]
  | serviceClient => [.serviceToServer]
  | actionServer => [.actionToClientGoal, .actionToClientCancel]
  | actionClient => [.actionToServerGoalReject, .actionToServerGoalAccept,
      .actionToServerCancelReject, .actionToServerCancelAccept, .actionToServerFeedback,
      .actionToServerResultSucceeded, .actionToServerResultAborted,
      .actionToServerResultCanceled]

/-- The role of the plugin at the other end of a channel. -/
def complement : Role → Role
  | serviceServer => serviceClient
  | serviceClient => serviceServer
  | actionServer => actionClient
  | actionClient => actionServer

end Role

/-- The plugin maps, each keyed by the service or action channel. -/
structure ServiceActionManager (Plugin : Type) where
  serviceServers : UInt8 → Option Plugin
  serviceClients : UInt8 → Option Plugin
  actionServers : UInt8 → Option Plugin
  actionClients : UInt8 → Option Plugin
  stopping : Bool

namespace ServiceActionManager

variable {Plugin : Type}

/-- The map of a configuration: `insert` keeps the plugin a channel already
has. -/
def registered (plugins : List (UInt8 × Plugin)) (channel : UInt8) : Option Plugin :=
  plugins.lookup channel

def init (serviceServer serviceClient actionServer actionClient : List (UInt8 × Plugin)) :
    ServiceActionManager Plugin where
  serviceServers := registered serviceServer
  serviceClients := registered serviceClient
  actionServers := registered actionServer
  actionClients := registered actionClient
  stopping := false

/-- The map of a role. -/
def plugins (manager : ServiceActionManager Plugin) : Role → UInt8 → Option Plugin
  | .serviceServer => manager.serviceServers
  | .serviceClient => manager.serviceClients
  | .actionServer => manager.actionServers
  | .actionClient => manager.actionClients

/-- A call of a plugin's `handle`. -/
structure Handled (Plugin : Type) where
  role : Role
  plugin : Plugin
  message : ServiceActionMessage

/-- The plugin of a role and the message's channel gets the message, unless
there is none or the manager is stopping. -/
def handOver (manager : ServiceActionManager Plugin) (role : Role)
    (message : ServiceActionMessage) : Option (Handled Plugin) :=
  match manager.plugins role message.serviceActionChannel with
  | none => none
  | some plugin => if manager.stopping then none else some ⟨role, plugin, message⟩

def dispatch (manager : ServiceActionManager Plugin) (message : ServiceActionMessage) :
    Option (Handled Plugin) :=
  if message.isServiceActionOpCode .serviceToServer then
    manager.handOver .serviceServer message
  else if message.isServiceActionOpCode .serviceToClient ||
      message.isServiceActionOpCode .serviceToClientCancel then
    manager.handOver .serviceClient message
  else if message.isServiceActionOpCode .actionToClientGoal ||
      message.isServiceActionOpCode .actionToClientCancel then
    manager.handOver .actionClient message
  else
    manager.handOver .actionServer message

/-- One turn of the run loop with the next message of the queue. -/
def run (manager : ServiceActionManager Plugin) (message : RclMessage) :
    Except Fault (Option (Handled Plugin)) := do
  match ← ServiceActionMessage.fromMessage message with
  | none => return none
  | some converted => return manager.dispatch converted

/-- A message is looked up among the plugins of the role its sender's role
complements. -/
theorem dispatch_emitted (manager : ServiceActionManager Plugin)
    (message : ServiceActionMessage) (role : Role)
    (hemits : message.serviceActionOpCode ∈ role.emits) :
    manager.dispatch message = manager.handOver role.complement message := by
  unfold dispatch ServiceActionMessage.isServiceActionOpCode
  cases role with
  | serviceServer | actionServer =>
      simp only [Role.emits, List.mem_cons, List.not_mem_nil, or_false] at hemits
      rcases hemits with hopCode | hopCode <;> simp [hopCode, Role.complement]
  | serviceClient =>
      simp only [Role.emits, List.mem_cons, List.not_mem_nil, or_false] at hemits
      simp [hemits, Role.complement]
  | actionClient =>
      cases hopCode : message.serviceActionOpCode <;> simp [hopCode, Role.emits] at hemits <;>
        simp [Role.complement]

end ServiceActionManager

namespace ServiceActionMessage

/-- `message` is what a node is to hand to its plugin for a message of these
contents: the data is there, or `decompress` puts it there. -/
structure Delivers (codecs : Codecs) (message : ServiceActionMessage) (s : UInt8)
    (o : ServiceActionOpCode) (d gid : Bytes) : Prop where
  serviceActionChannel : message.serviceActionChannel = s
  serviceActionOpCode : message.serviceActionOpCode = o
  gID : message.getGID = gid
  data : (MessageBase.isCompressed message = false ∧ message.getData = d) ∨
    (MessageBase.isCompressed message = true ∧
      ∃ stored, MessageBase.decompress codecs message = .ok (true, stored) ∧
        stored.serviceActionChannel = s ∧ stored.serviceActionOpCode = o ∧
        stored.getGID = gid ∧ stored.getData = d)

/-- The uncompressed frame is converted back to the message it was written
from. -/
theorem delivers_uncompressed (codecs : Codecs) (s : UInt8) (o : ServiceActionOpCode)
    (data gID : Bytes) (hgid : 1 ≤ gID.length) (hsize : gID.length ≤ 255) :
    ∃ received converted,
      RclMessage.fromFlatBuffer ([OpCode.serviceAction.toByte, Compressor.none.toByte] ++
        extendedHeader s o gID ++ gID ++ data) = .ok received ∧
      fromMessage received = .ok (some converted) ∧
      converted.Delivers codecs s o data gID := by
  let frame := [OpCode.serviceAction.toByte, Compressor.none.toByte] ++
    extendedHeader s o gID ++ gID ++ data
  let received : RclMessage := ⟨OpCode.serviceAction.toByte, .none,
    UInt32.ofNat (extendedHeader s o gID ++ gID ++ data).length,
    extendedHeader s o gID ++ gID ++ data⟩
  have hreceived : RclMessage.fromFlatBuffer frame = .ok received := by
    have h := RclMessage.fromFlatBuffer_uncompressed OpCode.serviceAction.toByte
      (extendedHeader s o gID ++ gID ++ data)
    simpa only [frame, received, List.append_assoc] using h
  have hvector : received.getCombinedVector =
      [OpCode.serviceAction.toByte, Compressor.none.toByte] ++ extendedHeader s o gID ++
        gID ++ data := by
    simp [received, RclMessage.getCombinedVector]
  obtain ⟨size, -, hconverted⟩ := fromMessage_ok received s o _ gID data rfl hvector hgid hsize
  refine ⟨received, _, hreceived, hconverted, rfl, rfl, ?_, Or.inl ⟨rfl, ?_⟩⟩
  · exact Span.bytes_append ([OpCode.serviceAction.toByte, Compressor.none.toByte] ++
      extendedHeader s o gID) gID data
  · have hspan := Span.bytes_append_end ([OpCode.serviceAction.toByte,
      Compressor.none.toByte] ++ extendedHeader s o gID ++ gID) data
    rw [List.length_append] at hspan
    exact hspan

/-- A compressed frame whose body inverts to `data` is converted to a message
that decompresses to it. -/
theorem delivers_compressed {codecs : Codecs} (compressor : Compressor) (s : UInt8)
    (o : ServiceActionOpCode) (data gID dst : Bytes) (hgid : 1 ≤ gID.length)
    (hsize : gID.length ≤ 255) (hinverts : MessageBase.Inverts codecs compressor dst data) :
    ∃ received converted,
      RclMessage.fromFlatBuffer ([OpCode.serviceAction.toByte, compressor.toByte] ++
        Bytes.encodeWord (UInt32.ofNat data.length) ++ extendedHeader s o gID ++ gID ++ dst) =
          .ok received ∧
      fromMessage received = .ok (some converted) ∧
      converted.Delivers codecs s o data gID := by
  have hcompressed : compressor ≠ .none := by
    intro hnone
    rw [hnone] at hinverts
    exact hinverts
  let front := [OpCode.serviceAction.toByte, compressor.toByte] ++
    Bytes.encodeWord (UInt32.ofNat data.length)
  let received : RclMessage := ⟨OpCode.serviceAction.toByte, compressor,
    UInt32.ofNat data.length, extendedHeader s o gID ++ gID ++ dst⟩
  have hreceived : RclMessage.fromFlatBuffer (front ++ extendedHeader s o gID ++ gID ++ dst) =
      .ok received := by
    have h := RclMessage.fromFlatBuffer_compressed OpCode.serviceAction.toByte compressor
      (UInt32.ofNat data.length) (extendedHeader s o gID ++ gID ++ dst) hcompressed
    simpa only [front, received, List.append_assoc] using h
  have hvector : received.getCombinedVector =
      front ++ extendedHeader s o gID ++ gID ++ dst := by
    cases compressor with
    | none => exact absurd rfl hcompressed
    | lz4Default | lz4Hc | zlib => simp [received, RclMessage.getCombinedVector, front]
  have hoffset : gidOffset compressor = 9 := by
    cases compressor with
    | none => exact absurd rfl hcompressed
    | lz4Default | lz4Hc | zlib => rfl
  have hfront : front.length + 3 = gidOffset received.compressor := by
    simp [front, received, hoffset]
  obtain ⟨size, huncompressed, hconverted⟩ :=
    fromMessage_ok received s o front gID dst hfront hvector hgid hsize
  have hheader : (front ++ extendedHeader s o gID).length = 9 := by
    simp [front, extendedHeader]
  have hdst : (Span.mk (9 + gID.length) dst.length).bytes
      (front ++ extendedHeader s o gID ++ gID ++ dst) = dst := by
    have h := Span.bytes_append_end (front ++ extendedHeader s o gID ++ gID) dst
    rwa [List.length_append, hheader] at h
  have hgID : (Span.mk 9 gID.length).bytes
      (front ++ extendedHeader s o gID ++ gID ++ dst) = gID := by
    have h := Span.bytes_append (front ++ extendedHeader s o gID) gID dst
    rwa [hheader] at h
  rw [show received.compressor = compressor from rfl, hoffset] at hconverted
  refine ⟨received, _, hreceived, hconverted, rfl, rfl, hgID, Or.inr ⟨?_, ?_⟩⟩
  · simpa [MessageBase.isCompressed, MessageBase.compressor] using hcompressed
  · let converted : ServiceActionMessage := ⟨received.channel, compressor, size,
      front ++ extendedHeader s o gID ++ gID ++ dst, s, o, ⟨9, gID.length⟩,
      ⟨9 + gID.length, dst.length⟩⟩
    have hsource : MessageBase.getSrc converted = dst := hdst
    have hdecompress := MessageBase.decompress_of_inverts converted data
      (by rw [hsource]; exact hinverts) (huncompressed hcompressed)
    have hstored := store_compressed converted (front ++ extendedHeader s o gID) gID dst data
      rfl hheader rfl
    exact ⟨converted.store data, hdecompress, rfl, rfl, hstored.2, hstored.1⟩

/-- The frame of a message, for any profile, is decoded and converted to a
message that delivers its contents. -/
theorem delivers_frame {codecs : Codecs} (hcodecs : codecs.RoundTrip) (s : UInt8)
    (o : ServiceActionOpCode) (data gID : Bytes) (hgid : 1 ≤ gID.length)
    (hsize : gID.length ≤ 255) (compression : Compression) :
    ∃ message received converted,
      forServiceAction s o data gID = .ok message ∧
      RclMessage.fromFlatBuffer
        (MessageBase.getCompressedCombinedVector codecs message compression) = .ok received ∧
      fromMessage received = .ok (some converted) ∧
      converted.Delivers codecs s o data gID := by
  obtain ⟨message, hmessage, hgetSrc, hgetGID, hplain, hheader⟩ : ∃ message,
      forServiceAction s o data gID = .ok message ∧
      MessageBase.getSrc message = data ∧ message.getGID = gID ∧
      MessageBase.getCombinedVector message = [OpCode.serviceAction.toByte,
        Compressor.none.toByte] ++ extendedHeader s o gID ++ gID ++ data ∧
      ∀ compressor size, MessageBase.compressedHeader message compressor size =
        [OpCode.serviceAction.toByte, compressor.toByte] ++ Bytes.encodeWord size ++
          [s, o.toByte, UInt8.ofNat message.getGID.length] ++ message.getGID := by
    refine ⟨_, forServiceAction_ok s o data gID hsize, ?_, ?_, rfl, fun _ _ => rfl⟩
    · have hspan := Span.bytes_append_end ([OpCode.serviceAction.toByte,
        Compressor.none.toByte] ++ extendedHeader s o gID ++ gID) data
      rw [List.length_append] at hspan
      exact hspan
    · exact Span.bytes_append ([OpCode.serviceAction.toByte, Compressor.none.toByte] ++
        extendedHeader s o gID) gID data
  obtain ⟨received, converted, hreceived, hconverted, hdelivers⟩ : ∃ received converted,
      RclMessage.fromFlatBuffer
        (MessageBase.getCompressedCombinedVector codecs message compression) = .ok received ∧
      fromMessage received = .ok (some converted) ∧
      converted.Delivers codecs s o data gID := by
    rcases MessageBase.getCompressedCombinedVector_cases hcodecs message compression with
      huncompressed | ⟨dst, hinverts, hframe⟩
    · rw [huncompressed, hplain]
      exact delivers_uncompressed codecs s o data gID hgid hsize
    · rw [hgetSrc] at hinverts hframe
      rw [hframe, hheader, hgetGID]
      exact delivers_compressed compression.compressor s o data gID dst hgid hsize hinverts
  exact ⟨message, received, converted, hmessage, hreceived, hconverted, hdelivers⟩

end ServiceActionMessage

/-- A message of any role arrives with its channel, op-code, gid and data at the
plugin of the complementary role registered on its channel. -/
theorem run_getCompressedCombinedVector {codecs : Codecs} (hcodecs : codecs.RoundTrip)
    {Plugin : Type} (manager : ServiceActionManager Plugin) (hrunning : manager.stopping = false)
    (role : Role) (s : UInt8) (o : ServiceActionOpCode) (ho : o ∈ role.emits)
    (plugin : Plugin) (hplugin : manager.plugins role.complement s = some plugin)
    (data gID : Bytes) (hgid : 1 ≤ gID.length) (hsize : gID.length ≤ 255)
    (compression : Compression) :
    ∃ message received converted,
      ServiceActionMessage.forServiceAction s o data gID = .ok message ∧
      RclMessage.fromFlatBuffer
        (MessageBase.getCompressedCombinedVector codecs message compression) = .ok received ∧
      ServiceActionMessage.fromMessage received = .ok (some converted) ∧
      converted.Delivers codecs s o data gID ∧
      manager.run received = .ok (some ⟨role.complement, plugin, converted⟩) := by
  obtain ⟨message, received, converted, hmessage, hreceived, hconverted, hdelivers⟩ :=
    ServiceActionMessage.delivers_frame hcodecs s o data gID hgid hsize compression
  refine ⟨message, received, converted, hmessage, hreceived, hconverted, hdelivers, ?_⟩
  have hemits : converted.serviceActionOpCode ∈ role.emits := by
    rw [hdelivers.serviceActionOpCode]
    exact ho
  have hhandOver : manager.handOver role.complement converted =
      some ⟨role.complement, plugin, converted⟩ := by
    simp [ServiceActionManager.handOver, hdelivers.serviceActionChannel, hplugin, hrunning]
  simp only [ServiceActionManager.run, hconverted, bind, Except.bind, pure, Except.pure,
    manager.dispatch_emitted converted role hemits, hhandOver]

/-- A response of three bytes to a request of a ROS client, compressed with
LZ4. -/
theorem run_getCompressedCombinedVector_response :
    ∃ message received converted,
      ServiceActionMessage.forServiceAction 4 .serviceToServer [1, 2, 3] [9, 9] =
        .ok message ∧
      RclMessage.fromFlatBuffer (MessageBase.getCompressedCombinedVector literalCodecs message
        ⟨.lz4Default, 1⟩) = .ok received ∧
      ServiceActionMessage.fromMessage received = .ok (some converted) ∧
      converted.Delivers literalCodecs 4 .serviceToServer [1, 2, 3] [9, 9] ∧
      (ServiceActionManager.init [(4, "plugin")] [] [] []).run received =
        .ok (some ⟨.serviceServer, "plugin", converted⟩) :=
  run_getCompressedCombinedVector literalCodecs_roundTrip
    (ServiceActionManager.init [(4, "plugin")] [] [] []) rfl .serviceClient 4 .serviceToServer
    (by decide) "plugin" rfl [1, 2, 3] [9, 9] (by decide) (by decide) ⟨.lz4Default, 1⟩

end Ros2Connect
