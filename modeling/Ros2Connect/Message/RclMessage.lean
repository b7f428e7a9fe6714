import Ros2Connect.Message.MessageBase

/-!
`RclMessage`, the message a connection builds from its read buffer. The decoder
reads the buffer without looking at its length; every read, subtraction and
copy is checked here and names the fault it would commit.
-/

namespace Ros2Connect

open Lib

structure RclMessage where
  channel : UInt8
  compressor : Compressor
  uncompressedSize : UInt32
  serializedMessage : Bytes
  deriving Repr, DecidableEq

namespace RclMessage

/-- The layout without compression: everything behind the two header bytes is
the payload. -/
def fromUncompressed (dataPtr : Bytes) (channel : UInt8) : Except Fault RclMessage := do
  let dataSize ← Bytes.subSize dataPtr.length 2
  let serializedMessage ← dataPtr.copyOut 2 dataSize
  return ⟨channel, .none, UInt32.ofNat dataSize, serializedMessage⟩

/-- The layout with compression: the uncompressed size follows the two header
bytes. -/
def fromCompressed (dataPtr : Bytes) (channel : UInt8) (compressor : Compressor) :
    Except Fault RclMessage := do
  let b0 ← dataPtr.read 2
  let b1 ← dataPtr.read 3
  let b2 ← dataPtr.read 4
  let b3 ← dataPtr.read 5
  let uncompressedSize := Bytes.decodeWord b0 b1 b2 b3
  let dataSize ← Bytes.subSize dataPtr.length 6
  let serializedMessage ← dataPtr.copyOut 6 dataSize
  return ⟨channel, compressor, uncompressedSize, serializedMessage⟩

/-- A byte that names no compressor yields an empty message. -/
def fromFlatBuffer (dataPtr : Bytes) : Except Fault RclMessage := do
  let channel ← dataPtr.read 0
  let compressor ← dataPtr.read 1
  match Compressor.ofByte? compressor with
  | some .none => fromUncompressed dataPtr channel
  | some compressor => fromCompressed dataPtr channel compressor
  | none => return ⟨channel, .none, 0, []⟩

def getCombinedVector (message : RclMessage) : Bytes :=
  match message.compressor with
  | .none => [message.channel, Compressor.none.toByte] ++ message.serializedMessage
  | compressor =>
      [message.channel, compressor.toByte] ++ Bytes.encodeWord message.uncompressedSize ++
        message.serializedMessage

/-- The copy has the bytes of the vector itself. -/
def getCopiedCombinedVector (message : RclMessage) : Bytes := message.getCombinedVector

/-- The buffer is resized to the new bytes; a capacity of zero is refused. -/
def store (message : RclMessage) (data : Bytes) : Except RclError RclMessage :=
  if data.length = 0 then .error .invalidArgument
  else .ok { message with compressor := .none, serializedMessage := data }

def toSubscription (message : RclMessage) : Except Fault (UInt8 × Bool) := do
  let channel ← message.serializedMessage.read 0
  let value ← message.serializedMessage.read 1
  return (channel, value == 1)

/-- The C string at the start of the buffer. -/
def toString (message : RclMessage) : Bytes :=
  message.serializedMessage.takeWhile (· != 0)

instance : MessageBase RclMessage where
  channel := RclMessage.channel
  compressor := RclMessage.compressor
  uncompressedSize := RclMessage.uncompressedSize
  getSrc := RclMessage.serializedMessage
  getCombinedVector := RclMessage.getCombinedVector
  compressedHeader := fun message compressor size =>
    [message.channel, compressor.toByte] ++ Bytes.encodeWord size
  store := RclMessage.store

theorem isOpCode_eq_true (message : RclMessage) (opCode : OpCode) :
    MessageBase.isOpCode message opCode = true ↔ message.channel = opCode.toByte :=
  beq_iff_eq

/-- The buffer holds the header its compressor byte asks for. -/
def HeaderFits (dataPtr : Bytes) : Prop :=
  2 ≤ dataPtr.length ∧
    (∀ byte, dataPtr[1]? = some byte → 1 ≤ byte ∧ byte ≤ 3 → 6 ≤ dataPtr.length)

/-- The rest of a buffer behind its header is measured and copied without a
fault. -/
private theorem payload_ok (header payload : Bytes) :
    Bytes.subSize (header ++ payload).length header.length = .ok payload.length ∧
      Bytes.copyOut (header ++ payload) header.length payload.length = .ok payload := by
  have hlength : header.length ≤ (header ++ payload).length := by simp
  have hrest : (header ++ payload).length - header.length = payload.length := by simp
  have hcopy := Bytes.copyOut_rest _ _ hlength
  rw [hrest, List.drop_left] at hcopy
  rw [Bytes.subSize_eq_ok _ _ hlength, hrest]
  exact ⟨rfl, hcopy⟩

theorem fromUncompressed_ok (channel byte : UInt8) (payload : Bytes) :
    fromUncompressed (channel :: byte :: payload) channel =
      .ok ⟨channel, .none, UInt32.ofNat payload.length, payload⟩ := by
  obtain ⟨hsize, hcopy⟩ := payload_ok [channel, byte] payload
  simp only [List.cons_append, List.nil_append, List.length_cons, List.length_nil,
    Nat.zero_add, Nat.reduceAdd] at hsize hcopy
  simp [fromUncompressed, hsize, hcopy, bind, Except.bind, pure, Except.pure]

theorem fromCompressed_ok (channel byte b0 b1 b2 b3 : UInt8) (payload : Bytes)
    (compressor : Compressor) :
    fromCompressed (channel :: byte :: b0 :: b1 :: b2 :: b3 :: payload) channel compressor =
      .ok ⟨channel, compressor, Bytes.decodeWord b0 b1 b2 b3, payload⟩ := by
  obtain ⟨hsize, hcopy⟩ := payload_ok [channel, byte, b0, b1, b2, b3] payload
  simp only [List.cons_append, List.nil_append, List.length_cons, List.length_nil,
    Nat.zero_add, Nat.reduceAdd] at hsize hcopy
  have h0 := Bytes.read_append [channel, byte] (b1 :: b2 :: b3 :: payload) b0
  have h1 := Bytes.read_append [channel, byte, b0] (b2 :: b3 :: payload) b1
  have h2 := Bytes.read_append [channel, byte, b0, b1] (b3 :: payload) b2
  have h3 := Bytes.read_append [channel, byte, b0, b1, b2] payload b3
  simp only [List.cons_append, List.nil_append, List.length_cons, List.length_nil,
    Nat.zero_add, Nat.reduceAdd] at h0 h1 h2 h3
  have hbind {α β : Type} (a : α) (f : α → Except Fault β) : Except.ok a >>= f = f a := rfl
  simp only [fromCompressed, h0, h1, h2, h3, List.length_cons, hsize, hcopy, hbind]
  rfl

/-- A buffer that begins with the two header bytes is decoded by the layout its
second byte selects. -/
theorem fromFlatBuffer_cons (channel byte : UInt8) (rest : Bytes) :
    fromFlatBuffer (channel :: byte :: rest) =
      match Compressor.ofByte? byte with
      | some .none => .ok ⟨channel, .none, UInt32.ofNat rest.length, rest⟩
      | some compressor => fromCompressed (channel :: byte :: rest) channel compressor
      | none => .ok ⟨channel, .none, 0, []⟩ := by
  change (match Compressor.ofByte? byte with
    | some .none => fromUncompressed (channel :: byte :: rest) channel
    | some compressor => fromCompressed (channel :: byte :: rest) channel compressor
    | none => .ok ⟨channel, .none, 0, []⟩) = _
  rw [fromUncompressed_ok]

/-- A compressed layout needs four more bytes than the header it was selected
by. -/
theorem fromCompressed_isOk_iff (channel byte : UInt8) (rest : Bytes)
    (compressor : Compressor) :
    (∃ message, fromCompressed (channel :: byte :: rest) channel compressor = .ok message) ↔
      6 ≤ (channel :: byte :: rest).length := by
  constructor
  · rintro ⟨message, hmessage⟩
    match rest, hmessage with
    | [], hmessage | [_], hmessage | [_, _], hmessage | [_, _, _], hmessage =>
        cases hmessage
    | _ :: _ :: _ :: _ :: _, _ => simp
  · intro hlength
    match rest, hlength with
    | b0 :: b1 :: b2 :: b3 :: payload, _ =>
        exact ⟨_, fromCompressed_ok channel byte b0 b1 b2 b3 payload compressor⟩

theorem ofByte_compressed_iff (byte : UInt8) :
    (∃ compressor, compressor ≠ .none ∧ Compressor.ofByte? byte = some compressor) ↔
      1 ≤ byte ∧ byte ≤ 3 := by
  constructor
  · rintro ⟨compressor, hcompressed, hbyte⟩
    obtain rfl := Compressor.eq_toByte_of_ofByte hbyte
    cases compressor with
    | none => exact absurd rfl hcompressed
    | lz4Default | lz4Hc | zlib => decide
  · rintro ⟨hmin, hmax⟩
    have hbyte : byte = 1 ∨ byte = 2 ∨ byte = 3 := by
      rw [UInt8.le_iff_toNat_le] at hmin hmax
      simp only [← UInt8.toNat_inj]
      change 1 ≤ byte.toNat at hmin
      change byte.toNat ≤ 3 at hmax
      change byte.toNat = 1 ∨ byte.toNat = 2 ∨ byte.toNat = 3
      omega
    rcases hbyte with rfl | rfl | rfl
    · exact ⟨.lz4Default, by decide, rfl⟩
    · exact ⟨.lz4Hc, by decide, rfl⟩
    · exact ⟨.zlib, by decide, rfl⟩

/-- The decoder stays inside the buffer and its sizes do not wrap exactly for
the buffers that hold their header. -/
theorem fromFlatBuffer_isOk_iff (dataPtr : Bytes) :
    (∃ message, fromFlatBuffer dataPtr = .ok message) ↔ HeaderFits dataPtr := by
  match dataPtr with
  | [] =>
      constructor
      · rintro ⟨message, hmessage⟩
        cases hmessage
      · intro hfits
        exact absurd hfits.1 (by simp)
  | [channel] =>
      constructor
      · rintro ⟨message, hmessage⟩
        cases hmessage
      · intro hfits
        exact absurd hfits.1 (by simp)
  | channel :: byte :: rest =>
      have hfits : HeaderFits (channel :: byte :: rest) ↔
          (1 ≤ byte ∧ byte ≤ 3 → 6 ≤ (channel :: byte :: rest).length) := by
        simp [HeaderFits]
      rw [hfits, ← ofByte_compressed_iff, fromFlatBuffer_cons]
      cases hbyte : Compressor.ofByte? byte with
      | none => simp
      | some compressor =>
          cases compressor with
          | none => simp
          | lz4Default | lz4Hc | zlib =>
              simp only [fromCompressed_isOk_iff]
              constructor
              · exact fun hlength _ => hlength
              · exact fun himp => himp ⟨_, by decide, rfl⟩

/-- A buffer that names a compressor and ends inside the size field is read
past its end. -/
theorem fromFlatBuffer_faults :
    ¬ ∀ dataPtr : Bytes, ∃ message, fromFlatBuffer dataPtr = .ok message := by
  intro hsafe
  obtain ⟨message, hmessage⟩ := hsafe [7, 1, 0, 0, 0]
  have hfault : fromFlatBuffer [7, 1, 0, 0, 0] = .error (.outOfBounds 5 5) := by decide
  rw [hfault] at hmessage
  cases hmessage

/-- Decoding gives back the message an uncompressed vector was written from. -/
theorem fromFlatBuffer_uncompressed (channel : UInt8) (payload : Bytes) :
    fromFlatBuffer ([channel, Compressor.none.toByte] ++ payload) =
      .ok ⟨channel, .none, UInt32.ofNat payload.length, payload⟩ := by
  simpa using fromFlatBuffer_cons channel Compressor.none.toByte payload

/-- Decoding gives back what a compressed vector carries. -/
theorem fromFlatBuffer_compressed (channel : UInt8) (compressor : Compressor)
    (size : UInt32) (payload : Bytes) (h : compressor ≠ .none) :
    fromFlatBuffer ([channel, compressor.toByte] ++ Bytes.encodeWord size ++ payload) =
      .ok ⟨channel, compressor, size, payload⟩ := by
  have hlayout (hsome : compressor ≠ .none) :
      fromFlatBuffer ([channel, compressor.toByte] ++ Bytes.encodeWord size ++ payload) =
        fromCompressed ([channel, compressor.toByte] ++ Bytes.encodeWord size ++ payload)
          channel compressor := by
    cases compressor with
    | none => exact absurd rfl hsome
    | lz4Default | lz4Hc | zlib => exact fromFlatBuffer_cons channel _ _
  rw [hlayout h]
  have hdecoded := fromCompressed_ok channel compressor.toByte
    (size &&& 0xFF).toUInt8 ((size >>> 8) &&& 0xFF).toUInt8
    ((size >>> 16) &&& 0xFF).toUInt8 ((size >>> 24) &&& 0xFF).toUInt8 payload compressor
  rw [Bytes.decode_encodeWord] at hdecoded
  exact hdecoded

/-- What a buffer is decoded to. -/
inductive Decodes : Bytes → RclMessage → Prop where
  | uncompressed (channel : UInt8) (payload : Bytes) :
      Decodes ([channel, Compressor.none.toByte] ++ payload)
        ⟨channel, .none, UInt32.ofNat payload.length, payload⟩
  | compressed (channel : UInt8) (compressor : Compressor) (size : UInt32) (payload : Bytes) :
      compressor ≠ .none →
      Decodes ([channel, compressor.toByte] ++ Bytes.encodeWord size ++ payload)
        ⟨channel, compressor, size, payload⟩
  | unknown (channel byte : UInt8) (rest : Bytes) : Compressor.ofByte? byte = none →
      Decodes (channel :: byte :: rest) ⟨channel, .none, 0, []⟩

theorem fromFlatBuffer_decodes {dataPtr : Bytes} {message : RclMessage}
    (h : fromFlatBuffer dataPtr = .ok message) : Decodes dataPtr message := by
  match dataPtr, h with
  | channel :: byte :: rest, h =>
      rw [fromFlatBuffer_cons] at h
      cases hbyte : Compressor.ofByte? byte with
      | none =>
          rw [hbyte] at h
          cases h
          exact .unknown channel byte rest hbyte
      | some compressor =>
          obtain rfl := Compressor.eq_toByte_of_ofByte hbyte
          rw [hbyte] at h
          have hlayout (hcompressed : compressor ≠ .none)
              (h : fromCompressed (channel :: compressor.toByte :: rest) channel compressor =
                .ok message) : Decodes (channel :: compressor.toByte :: rest) message := by
            have hlong := (fromCompressed_isOk_iff channel compressor.toByte rest compressor).mp
              ⟨message, h⟩
            match rest, hlong, h with
            | b0 :: b1 :: b2 :: b3 :: payload, _, h =>
                rw [fromCompressed_ok] at h
                cases h
                have hdecodes := Decodes.compressed channel compressor
                  (Bytes.decodeWord b0 b1 b2 b3) payload hcompressed
                rw [Bytes.encode_decodeWord] at hdecodes
                exact hdecodes
          cases compressor with
          | none =>
              cases h
              exact .uncompressed channel rest
          | lz4Default | lz4Hc | zlib => exact hlayout (by decide) h

/-- A buffer with a complete header and a known compressor is decoded to a
message that is written back as the buffer. -/
theorem fromFlatBuffer_known {dataPtr : Bytes} {compressor : Compressor}
    (hbyte : dataPtr[1]? = some compressor.toByte) (hheader : HeaderFits dataPtr) :
    ∃ message, fromFlatBuffer dataPtr = .ok message ∧ message.compressor = compressor ∧
      message.getCombinedVector = dataPtr := by
  obtain ⟨message, hmessage⟩ := (fromFlatBuffer_isOk_iff dataPtr).mpr hheader
  refine ⟨message, hmessage, ?_⟩
  cases fromFlatBuffer_decodes hmessage with
  | uncompressed channel payload =>
      exact ⟨Compressor.toByte_injective (Option.some.inj hbyte), rfl⟩
  | compressed channel read size payload hcompressed =>
      refine ⟨Compressor.toByte_injective (Option.some.inj hbyte), ?_⟩
      cases read with
      | none => exact absurd rfl hcompressed
      | lz4Default | lz4Hc | zlib => rfl
  | unknown channel byte rest hunknown =>
      obtain rfl : byte = compressor.toByte := Option.some.inj hbyte
      rw [Compressor.ofByte_toByte] at hunknown
      cases hunknown

end RclMessage

end Ros2Connect
