import Ros2Connect.Message.VectorMessage

/-!
Two classes for one frame: an `RclMessage` keeps the body and writes the header
when it is asked for the frame, a `VectorMessage` keeps the frame and looks for
the body behind the header its compressor asks for. What callers see of them is
the same, and stays the same when both are decompressed. Nothing is assumed of
the codecs but that they are functions.
-/

namespace Ros2Connect

open Lib MessageBase

section SameView

variable {M N : Type} [MessageBase M] [MessageBase N]

/-- Messages of two classes whose virtual members answer alike. -/
structure SameView (first : M) (second : N) : Prop where
  channel : channel first = channel second
  compressor : compressor first = compressor second
  uncompressedSize : uncompressedSize first = uncompressedSize second
  getSrc : getSrc first = getSrc second
  getCombinedVector : getCombinedVector first = getCombinedVector second
  compressedHeader : compressedHeader first = compressedHeader second

theorem SameView.compressWith {first : M} {second : N} (h : SameView first second)
    (tag : Compressor) (maxSrcSize : Nat) (bound : Nat → Nat)
    (call : Bytes → Nat → Option (Nat × Bytes)) :
    MessageBase.compressWith tag maxSrcSize bound call first =
      MessageBase.compressWith tag maxSrcSize bound call second := by
  unfold MessageBase.compressWith
  rw [h.getSrc, h.getCombinedVector, h.compressedHeader]

theorem SameView.getCompressedCombinedVector {first : M} {second : N}
    (h : SameView first second) (codecs : Codecs) (compression : Compression) :
    MessageBase.getCompressedCombinedVector codecs first compression =
      MessageBase.getCompressedCombinedVector codecs second compression := by
  unfold MessageBase.getCompressedCombinedVector
  cases compression.compressor with
  | none => exact h.getCombinedVector
  | lz4Default | lz4Hc | zlib => exact h.compressWith _ _ _ _

/-- Two decompressions that both fail, or both store the same data. -/
def SameOutcome (first : M) (second : N) (result : Except RclError (Bool × M))
    (result' : Except RclError (Bool × N)) : Prop :=
  (result = .ok (false, first) ∧ result' = .ok (false, second)) ∨
    ∃ data, (MessageBase.uncompressedSize first).toNat ≤ data.length ∧
      result = (store first data).map (fun stored => (true, stored)) ∧
      result' = (store second data).map (fun stored => (true, stored))

theorem SameOutcome.failed (first : M) (second : N) :
    SameOutcome first second (.ok (false, first)) (.ok (false, second)) :=
  Or.inl ⟨rfl, rfl⟩

/-- The data that is stored has at least the size the message states. -/
theorem SameView.storeIf {first : M} {second : N} (h : SameView first second) (success : Bool)
    (dst : Bytes) :
    SameOutcome first second (MessageBase.storeIf first success dst)
      (MessageBase.storeIf second success dst) := by
  cases success with
  | false => exact .failed first second
  | true =>
      refine Or.inr ⟨(Bytes.zeros (MessageBase.uncompressedSize first).toNat).overlay 0 dst,
        ?_, rfl, ?_⟩
      · simp only [Bytes.overlay, List.length_append, List.length_take, List.length_drop,
          Bytes.length_zeros]
        omega
      · rw [h.uncompressedSize]
        rfl

theorem SameView.lz4Decompression {first : M} {second : N} (h : SameView first second)
    (codecs : Codecs) :
    SameOutcome first second (MessageBase.lz4Decompression codecs first)
      (MessageBase.lz4Decompression codecs second) := by
  unfold MessageBase.lz4Decompression
  rw [← h.uncompressedSize, ← h.getSrc]
  split
  · exact .failed first second
  · exact h.storeIf _ _

theorem SameView.zlibDecompression {first : M} {second : N} (h : SameView first second)
    (codecs : Codecs) :
    SameOutcome first second (MessageBase.zlibDecompression codecs first)
      (MessageBase.zlibDecompression codecs second) := by
  unfold MessageBase.zlibDecompression
  rw [← h.uncompressedSize, ← h.getSrc]
  split
  · exact .failed first second
  · split
    · exact .failed first second
    · exact h.storeIf _ _

/-- A decompression of one message is that of the other up to `store`, which
both call with the same data. -/
theorem SameView.decompress {first : M} {second : N} (h : SameView first second)
    (codecs : Codecs) :
    SameOutcome first second (MessageBase.decompress codecs first)
      (MessageBase.decompress codecs second) := by
  unfold MessageBase.decompress
  rw [← h.compressor]
  cases MessageBase.compressor first with
  | none => exact .failed first second
  | lz4Default | lz4Hc => exact h.lz4Decompression codecs
  | zlib => exact h.zlibDecompression codecs

end SameView

/-- The message itself holds what ROS takes. -/
def RclMessage.getSerializedMessage (message : RclMessage) : Bytes :=
  message.serializedMessage

/-- The bytes behind the header are copied into a message of their size, and a
capacity of zero is refused. -/
def VectorMessage.getSerializedMessage (message : VectorMessage) :
    Except Fault (Except RclError Bytes) := do
  let header := match message.compressor with
    | .none => 2
    | _ => 6
  let size ← Bytes.subSize message.combinedVector.length header
  if size = 0 then return .error .invalidArgument
  else
    let buffer ← message.combinedVector.copyOut header size
    return .ok buffer

/-- What callers get from the two messages is the same. -/
structure Interchangeable (codecs : Codecs) (rcl : RclMessage) (vector : VectorMessage) :
    Prop where
  channel : channel rcl = channel vector
  compressor : compressor rcl = compressor vector
  uncompressedSize : uncompressedSize rcl = uncompressedSize vector
  getCombinedVector : getCombinedVector rcl = getCombinedVector vector
  getSerializedMessage :
    vector.getSerializedMessage = .ok (.ok rcl.getSerializedMessage)
  getCompressedCombinedVector : ∀ compression,
    getCompressedCombinedVector codecs rcl compression =
      getCompressedCombinedVector codecs vector compression

/-- The vector is the frame of the other message, which has a body. -/
structure Frames (rcl : RclMessage) (vector : VectorMessage) : Prop where
  channel : vector.channel = rcl.channel
  compressor : vector.compressor = rcl.compressor
  uncompressedSize : vector.uncompressedSize = rcl.uncompressedSize
  combinedVector : vector.combinedVector = rcl.getCombinedVector
  body : rcl.serializedMessage ≠ []

namespace Frames

variable {rcl : RclMessage} {vector : VectorMessage}

/-- The frame is a header of the length the compressor asks for, and the
body. -/
theorem exists_header (h : Frames rcl vector) :
    ∃ header, vector.combinedVector = header ++ rcl.serializedMessage ∧
      header.length = match vector.compressor with
        | .none => 2
        | _ => 6 := by
  rw [h.combinedVector, h.compressor, RclMessage.getCombinedVector]
  cases rcl.compressor with
  | none => exact ⟨_, rfl, rfl⟩
  | lz4Default | lz4Hc | zlib => exact ⟨_, rfl, rfl⟩

theorem getSrc (h : Frames rcl vector) : vector.getSrc = rcl.serializedMessage := by
  obtain ⟨header, hvector, hlength⟩ := h.exists_header
  rw [VectorMessage.getSrc, hvector]
  cases hcompressor : vector.compressor <;>
    simp only [hcompressor] at hlength ⊢ <;>
    rw [← hlength, List.drop_left]

theorem sameView (h : Frames rcl vector) : SameView rcl vector where
  channel := h.channel.symm
  compressor := h.compressor.symm
  uncompressedSize := h.uncompressedSize.symm
  getSrc := h.getSrc.symm
  getCombinedVector := h.combinedVector.symm
  compressedHeader := by
    funext compressor size
    exact congrArg (fun channel => [channel, compressor.toByte] ++ Bytes.encodeWord size)
      h.channel.symm

theorem getSerializedMessage (h : Frames rcl vector) :
    vector.getSerializedMessage = .ok (.ok rcl.getSerializedMessage) := by
  obtain ⟨header, hvector, hlength⟩ := h.exists_header
  have hsize : Bytes.subSize vector.combinedVector.length header.length =
      .ok rcl.serializedMessage.length := by
    rw [hvector, List.length_append, Bytes.subSize_eq_ok _ _ (by omega),
      Nat.add_sub_cancel_left]
  have hcopy : vector.combinedVector.copyOut header.length rcl.serializedMessage.length =
      .ok rcl.serializedMessage := by
    have hrest := Bytes.copyOut_rest (header ++ rcl.serializedMessage) header.length (by simp)
    rwa [List.length_append, Nat.add_sub_cancel_left, List.drop_left, ← hvector] at hrest
  have hbody : ¬ rcl.serializedMessage.length = 0 := by
    simpa using h.body
  simp only [VectorMessage.getSerializedMessage, ← hlength, hsize, hcopy, hbody, if_false,
    bind, Except.bind, pure, Except.pure]
  rfl

theorem interchangeable (h : Frames rcl vector) (codecs : Codecs) :
    Interchangeable codecs rcl vector where
  channel := h.channel.symm
  compressor := h.compressor.symm
  uncompressedSize := h.uncompressedSize.symm
  getCombinedVector := h.combinedVector.symm
  getSerializedMessage := h.getSerializedMessage
  getCompressedCombinedVector := h.sameView.getCompressedCombinedVector codecs

/-- Storing the same data into both leaves a frame and its body again. -/
theorem store (h : Frames rcl vector) {data : Bytes} (hdata : data ≠ []) :
    ∃ rcl' vector', rcl.store data = .ok rcl' ∧ vector.store data = .ok vector' ∧
      Frames rcl' vector' := by
  have hlength : ¬ data.length = 0 := by simpa using hdata
  have hvector : ∃ rest, vector.combinedVector = rcl.channel :: rest := by
    rw [h.combinedVector, RclMessage.getCombinedVector]
    cases rcl.compressor with
    | none => exact ⟨_, rfl⟩
    | lz4Default | lz4Hc | zlib => exact ⟨_, rfl⟩
  obtain ⟨rest, hrest⟩ := hvector
  refine ⟨{ rcl with compressor := .none, serializedMessage := data }, _, if_neg hlength,
    vector.store_cons rcl.channel rest data hrest, ?_⟩
  exact {
    channel := h.channel
    compressor := rfl
    uncompressedSize := h.uncompressedSize
    combinedVector := rfl
    body := hdata }

/-- Both are decompressed, or neither is; no exception is thrown for a size that
is not zero. -/
theorem decompress (h : Frames rcl vector) (hsize : rcl.compressor ≠ .none →
    rcl.uncompressedSize ≠ 0) (codecs : Codecs) :
    ∃ success rcl' vector', MessageBase.decompress codecs rcl = .ok (success, rcl') ∧
      MessageBase.decompress codecs vector = .ok (success, vector') ∧ Frames rcl' vector' := by
  by_cases hcompressor : rcl.compressor = .none
  · have hrcl : MessageBase.decompress codecs rcl = .ok (false, rcl) := by
      simp only [MessageBase.decompress, MessageBase.compressor, hcompressor]
    have hvector : MessageBase.decompress codecs vector = .ok (false, vector) := by
      simp only [MessageBase.decompress, MessageBase.compressor, h.compressor, hcompressor]
    exact ⟨false, rcl, vector, hrcl, hvector, h⟩
  · rcases h.sameView.decompress codecs with ⟨hrcl, hvector⟩ | ⟨data, hlong, hrcl, hvector⟩
    · exact ⟨false, rcl, vector, hrcl, hvector, h⟩
    · have hpositive : rcl.uncompressedSize.toNat ≠ 0 := by
        intro hzero
        exact hsize hcompressor (UInt32.toNat_inj.mp hzero)
      have hdata : data ≠ [] := by
        rintro rfl
        exact hpositive (Nat.le_zero.mp hlong)
      obtain ⟨rcl', vector', hstored, hstored', hframes⟩ := h.store hdata
      refine ⟨true, rcl', vector', ?_, ?_, hframes⟩
      · rw [hrcl]
        exact congrArg (Except.map fun stored => (true, stored)) hstored
      · rw [hvector]
        exact congrArg (Except.map fun stored => (true, stored)) hstored'

end Frames

/-- The frame names a compressor and has a body; a compressed one states a size
other than zero. -/
inductive HasBody (frame : Bytes) : Prop where
  | uncompressed : frame[1]? = some Compressor.none.toByte → 2 < frame.length → HasBody frame
  | compressed (compressor : Compressor) : compressor ≠ .none →
      frame[1]? = some compressor.toByte → 6 < frame.length →
      (frame.drop 2).take 4 ≠ [0, 0, 0, 0] → HasBody frame

theorem HasBody.known {frame : Bytes} (h : HasBody frame) :
    RclMessage.HeaderFits frame ∧
      ∃ compressor : Compressor, frame[1]? = some compressor.toByte := by
  cases h with
  | uncompressed hbyte hlong =>
      refine ⟨⟨by omega, ?_⟩, .none, hbyte⟩
      intro byte hread hcompressed
      obtain rfl := Option.some.inj (hbyte.symm.trans hread)
      exact absurd hcompressed.1 (by decide)
  | compressed compressor _ hbyte hlong _ =>
      exact ⟨⟨by omega, fun _ _ _ => by omega⟩, compressor, hbyte⟩

/-- The decoded message has the body behind the header, and a size. -/
theorem HasBody.body {rcl : RclMessage} (h : HasBody rcl.getCombinedVector) :
    rcl.serializedMessage ≠ [] ∧ (rcl.compressor ≠ .none → rcl.uncompressedSize ≠ 0) := by
  obtain ⟨channel, compressor, size, serializedMessage⟩ := rcl
  cases compressor with
  | none =>
      refine ⟨?_, fun hcompressed => absurd rfl hcompressed⟩
      rintro rfl
      cases h with
      | uncompressed _ hlong | compressed _ _ _ hlong _ =>
          simp [RclMessage.getCombinedVector] at hlong
  | lz4Default | lz4Hc | zlib =>
      cases h with
      | uncompressed hbyte _ => cases Compressor.toByte_injective (Option.some.inj hbyte)
      | compressed _ _ _ hlong hsize =>
          constructor
          · rintro rfl
            simp [RclMessage.getCombinedVector] at hlong
          · rintro - rfl
            have hzero : Bytes.encodeWord 0 = [0, 0, 0, 0] := by decide
            simp [RclMessage.getCombinedVector, hzero] at hsize

/-- The message decoded from a frame and the one that holds the frame answer
alike, and do so after both were decompressed. -/
theorem interchangeable_of_frame (codecs : Codecs) (frame : Bytes) (h : HasBody frame) :
    ∃ rcl, RclMessage.fromFlatBuffer frame = .ok rcl ∧
      let vector : VectorMessage := ⟨rcl.channel, rcl.compressor, rcl.uncompressedSize, frame⟩
      getCombinedVector rcl = frame ∧ getCombinedVector vector = frame ∧
      Interchangeable codecs rcl vector ∧
      ∃ success rcl' vector', decompress codecs rcl = .ok (success, rcl') ∧
        decompress codecs vector = .ok (success, vector') ∧
        Interchangeable codecs rcl' vector' := by
  obtain ⟨hheader, compressor, hbyte⟩ := h.known
  obtain ⟨rcl, hrcl, -, rfl⟩ := RclMessage.fromFlatBuffer_known hbyte hheader
  obtain ⟨hbody, hsize⟩ := h.body
  have hframes : Frames rcl
      ⟨rcl.channel, rcl.compressor, rcl.uncompressedSize, rcl.getCombinedVector⟩ :=
    ⟨rfl, rfl, rfl, rfl, hbody⟩
  obtain ⟨success, rcl', vector', hdecompress, hdecompress', hframes'⟩ :=
    hframes.decompress hsize codecs
  exact ⟨rcl, hrcl, rfl, rfl, hframes.interchangeable codecs, success, rcl', vector',
    hdecompress, hdecompress', hframes'.interchangeable codecs⟩

/-- Three bytes, compressed with LZ4. -/
theorem interchangeable_of_frame_literal :
    ∃ rcl, RclMessage.fromFlatBuffer [7, 1, 3, 0, 0, 0, 48, 1, 2, 3] = .ok rcl ∧
      let vector : VectorMessage := ⟨rcl.channel, rcl.compressor, rcl.uncompressedSize,
        [7, 1, 3, 0, 0, 0, 48, 1, 2, 3]⟩
      getCombinedVector rcl = [7, 1, 3, 0, 0, 0, 48, 1, 2, 3] ∧
      getCombinedVector vector = [7, 1, 3, 0, 0, 0, 48, 1, 2, 3] ∧
      Interchangeable literalCodecs rcl vector ∧
      ∃ success rcl' vector', decompress literalCodecs rcl = .ok (success, rcl') ∧
        decompress literalCodecs vector = .ok (success, vector') ∧
        Interchangeable literalCodecs rcl' vector' :=
  interchangeable_of_frame literalCodecs _
    (.compressed .lz4Default (by decide) rfl (by decide) (by decide))

end Ros2Connect
