import Ros2Connect.Message.RclMessage

/-!
`VectorMessage`, the message a node sends for a topic or for one of its own
op-codes, and its round trip through the decoder of the other node.
-/

namespace Ros2Connect

open Lib

structure VectorMessage where
  channel : UInt8
  compressor : Compressor
  uncompressedSize : UInt32
  combinedVector : Bytes
  deriving Repr, DecidableEq

namespace VectorMessage

def fromSerializedMessage (channel : UInt8) (serializedMessage : Bytes) : VectorMessage :=
  ⟨channel, .none, UInt32.ofNat serializedMessage.length,
    [channel, Compressor.none.toByte] ++ serializedMessage⟩

def forOpCodeSubscription (channel : UInt8) (value : Bool) : VectorMessage :=
  ⟨OpCode.subscription.toByte, .none, 2,
    [OpCode.subscription.toByte, Compressor.none.toByte, channel, if value then 1 else 0]⟩

/-- The vector is allocated one byte longer than header and string, and a
terminating zero is pushed behind that byte. -/
def forOpCodeString (opCode : OpCode) (value : Bytes) : VectorMessage :=
  ⟨opCode.toByte, .none, UInt32.ofNat (value.length + 1),
    [opCode.toByte, Compressor.none.toByte] ++ value ++ [0] ++ [0]⟩

def forOpCodeAuthentication (value : Bytes) : VectorMessage :=
  forOpCodeString .authentication value

def forOpCodeNotification (message : Bytes) : VectorMessage :=
  forOpCodeString .notification message

def getSrc (message : VectorMessage) : Bytes :=
  match message.compressor with
  | .none => message.combinedVector.drop 2
  | _ => message.combinedVector.drop 6

def store (message : VectorMessage) (data : Bytes) : Except RclError VectorMessage :=
  let resized := message.combinedVector.resize (2 + data.length)
  let uncompressed := resized.overlay 1 [Compressor.none.toByte]
  .ok { message with compressor := .none, combinedVector := uncompressed.overlay 2 data }

instance : MessageBase VectorMessage where
  channel := VectorMessage.channel
  compressor := VectorMessage.compressor
  uncompressedSize := VectorMessage.uncompressedSize
  getSrc := VectorMessage.getSrc
  getCombinedVector := VectorMessage.combinedVector
  compressedHeader := fun message compressor size =>
    [message.channel, compressor.toByte] ++ Bytes.encodeWord size
  store := VectorMessage.store

/-- The stored vector holds the first byte of the old one. -/
theorem store_cons (message : VectorMessage) (channel : UInt8) (rest data : Bytes)
    (hvector : message.combinedVector = channel :: rest) :
    message.store data = .ok { message with
      compressor := .none
      combinedVector := [channel, Compressor.none.toByte] ++ data } := by
  have hresized : message.combinedVector.resize (2 + data.length) =
      [channel] ++ rest.resize (1 + data.length) := by
    rw [hvector, show 2 + data.length = [channel].length + (1 + data.length) by simp; omega]
    exact Bytes.resize_append_of_le [channel] rest _
  have hmarked := Bytes.overlay_append [channel] (rest.resize (1 + data.length))
    [Compressor.none.toByte]
  have hwritten := Bytes.overlay_append [channel, Compressor.none.toByte]
    ((rest.resize (1 + data.length)).drop 1) data
  have hbehind : ((rest.resize (1 + data.length)).drop 1).drop data.length = [] := by
    rw [List.drop_drop]
    exact List.drop_eq_nil_of_le (by rw [Bytes.length_resize])
  rw [hbehind, List.append_nil] at hwritten
  unfold store
  simp only [hresized]
  exact congrArg (fun combinedVector => Except.ok { message with
    compressor := .none, combinedVector }) (hmarked ▸ hwritten)

@[simp] theorem getCombinedVector_fromSerializedMessage (channel : UInt8) (data : Bytes) :
    MessageBase.getCombinedVector (fromSerializedMessage channel data) =
      [channel, Compressor.none.toByte] ++ data := rfl

end VectorMessage

/-- The frame of a payload is decoded to its channel and, when it arrives
compressed, decompressed to the bytes that are then stored. -/
theorem VectorMessage.fromFlatBuffer_frame {codecs : Codecs} (hcodecs : codecs.RoundTrip)
    (channel : UInt8) (data : Bytes) (compression : Compression) :
    ∃ message : RclMessage,
      RclMessage.fromFlatBuffer (MessageBase.getCompressedCombinedVector codecs
        (fromSerializedMessage channel data) compression) = .ok message ∧
      message.channel = channel ∧
      ((MessageBase.isCompressed message = false ∧ message.serializedMessage = data) ∨
        (MessageBase.isCompressed message = true ∧ compression.compressor ≠ .none ∧
          MessageBase.decompress codecs message =
            (message.store data).map fun stored => (true, stored))) := by
  rcases MessageBase.getCompressedCombinedVector_cases hcodecs
    (fromSerializedMessage channel data) compression with
    hplain | ⟨dst, hinverts, hframe⟩
  · rw [hplain, getCombinedVector_fromSerializedMessage, RclMessage.fromFlatBuffer_uncompressed]
    exact ⟨_, rfl, rfl, Or.inl ⟨rfl, rfl⟩⟩
  · have hcompressed : compression.compressor ≠ .none := by
      intro hnone
      rw [hnone] at hinverts
      exact hinverts
    rw [hframe]
    refine ⟨_, RclMessage.fromFlatBuffer_compressed channel compression.compressor
      (UInt32.ofNat data.length) dst hcompressed, rfl, Or.inr ⟨?_, hcompressed, ?_⟩⟩
    · simpa [MessageBase.isCompressed, MessageBase.compressor] using hcompressed
    · exact MessageBase.decompress_of_inverts _ data hinverts rfl

/-- The frame of a non-empty payload is decoded to its channel and, when it
arrives compressed, decompressed to the payload. -/
theorem fromFlatBuffer_getCompressedCombinedVector {codecs : Codecs}
    (hcodecs : codecs.RoundTrip) (channel : UInt8) (data : Bytes) (hdata : data ≠ [])
    (compression : Compression) :
    ∃ message : RclMessage,
      RclMessage.fromFlatBuffer (MessageBase.getCompressedCombinedVector codecs
        (VectorMessage.fromSerializedMessage channel data) compression) = .ok message ∧
      message.channel = channel ∧
      ((MessageBase.isCompressed message = false ∧ message.serializedMessage = data) ∨
        (MessageBase.isCompressed message = true ∧
          ∃ stored : RclMessage,
            MessageBase.decompress codecs message = .ok (true, stored) ∧
            stored.channel = channel ∧ stored.serializedMessage = data)) := by
  obtain ⟨message, hmessage, hchannel, hplain | ⟨hcompressed, -, hdecompress⟩⟩ :=
    VectorMessage.fromFlatBuffer_frame hcodecs channel data compression
  · exact ⟨message, hmessage, hchannel, Or.inl hplain⟩
  · have hlength : ¬ data.length = 0 := by simpa using hdata
    rw [RclMessage.store, if_neg hlength] at hdecompress
    exact ⟨message, hmessage, hchannel,
      Or.inr ⟨hcompressed, _, hdecompress, hchannel, rfl⟩⟩

/-- A payload of three bytes, compressed with LZ4. -/
theorem fromFlatBuffer_getCompressedCombinedVector_literal :
    ∃ message : RclMessage,
      RclMessage.fromFlatBuffer (MessageBase.getCompressedCombinedVector literalCodecs
        (VectorMessage.fromSerializedMessage 7 [1, 2, 3]) ⟨.lz4Default, 1⟩) = .ok message ∧
      message.channel = 7 ∧
      ((MessageBase.isCompressed message = false ∧ message.serializedMessage = [1, 2, 3]) ∨
        (MessageBase.isCompressed message = true ∧
          ∃ stored : RclMessage,
            MessageBase.decompress literalCodecs message = .ok (true, stored) ∧
            stored.channel = 7 ∧ stored.serializedMessage = [1, 2, 3])) :=
  fromFlatBuffer_getCompressedCombinedVector literalCodecs_roundTrip 7 [1, 2, 3] (by decide)
    ⟨.lz4Default, 1⟩

end Ros2Connect
