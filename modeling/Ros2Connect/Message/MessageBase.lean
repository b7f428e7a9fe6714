import Ros2Connect.Message.Codecs

/-!
`MessageBase`: what the three message classes share. The virtual members are
the fields of the class; the compressions write a frame from the message's
source bytes, the decompressions store the uncompressed bytes into it.
-/

namespace Ros2Connect

open Lib

/-- `rclcpp::SerializedMessage::reserve` throws `RCLInvalidArgument` for a
capacity of zero. -/
inductive RclError where
  | invalidArgument
  deriving Repr, DecidableEq

class MessageBase (M : Type) where
  channel : M → UInt8
  compressor : M → Compressor
  uncompressedSize : M → UInt32
  /-- The `getSrcSize()` bytes at `getSrc()`. -/
  getSrc : M → Bytes
  getCombinedVector : M → Bytes
  /-- The bytes a compressed frame starts with: channel, compressor, size of the
  source and what else the class writes in front of the compressed data. -/
  compressedHeader : M → Compressor → UInt32 → Bytes
  /-- `store`, after `decompress` has set the compressor to `NONE`. -/
  store : M → Bytes → Except RclError M

namespace MessageBase

variable {M : Type} [MessageBase M]

def isOpCode (message : M) (opCode : OpCode) : Bool :=
  channel message == opCode.toByte

def isCompressed (message : M) : Bool :=
  compressor message != .none

/-- The common body of the three compressions. `call` compresses the source
into the given capacity and returns the size it reports and the bytes it wrote,
or nothing when the program takes its result for an error. -/
def compressWith (tag : Compressor) (maxSrcSize : Nat) (bound : Nat → Nat)
    (call : Bytes → Nat → Option (Nat × Bytes)) (message : M) : Bytes :=
  let src := getSrc message
  if src.length > maxSrcSize then getCombinedVector message
  else
    let maxDstSize := bound src.length
    let header := compressedHeader message tag (UInt32.ofNat src.length)
    let combinedVector := (Bytes.zeros (maxDstSize + header.length)).overlay 0 header
    match call src maxDstSize with
    | none => getCombinedVector message
    | some (compressedSize, dst) =>
        (combinedVector.overlay header.length dst).resize (compressedSize + header.length)

/-- An LZ4 result that is not positive indicates an error. -/
def lz4Result (output : Lz4Output) : Option (Nat × Bytes) :=
  if output.result ≤ 0 then none else some (output.result.toNat, output.dst)

def lz4DefaultCompression (codecs : Codecs) (message : M) (rate : UInt32) : Bytes :=
  compressWith .lz4Default lz4MaxSrcSize lz4CompressBound
    (fun src maxDstSize => lz4Result (codecs.compressFast src maxDstSize rate)) message

def lz4HCCompression (codecs : Codecs) (message : M) (rate : UInt32) : Bytes :=
  compressWith .lz4Hc lz4MaxSrcSize lz4CompressBound
    (fun src maxDstSize => lz4Result (codecs.compressHC src maxDstSize rate)) message

def zlibCompression (codecs : Codecs) (message : M) (rate : UInt32) : Bytes :=
  compressWith .zlib zlibMaxSrcSize codecs.compressBound
    (fun src dstSize =>
      (codecs.compress2 src dstSize rate).map fun dst => (dst.length, dst)) message

def getCompressedCombinedVector (codecs : Codecs) (message : M)
    (compression : Compression) : Bytes :=
  match compression.compressor with
  | .lz4Default => lz4DefaultCompression codecs message compression.rate
  | .lz4Hc => lz4HCCompression codecs message compression.rate
  | .zlib => zlibCompression codecs message compression.rate
  | .none => getCombinedVector message

/-- `static_cast<int>` of an unsigned 32-bit value. -/
def toInt (value : UInt32) : Int := value.toBitVec.toInt

/-- The message with the decompressed bytes stored, or unchanged with `false`. -/
def storeIf (message : M) (success : Bool) (dst : Bytes) : Except RclError (Bool × M) :=
  if success then do
    let uncompressed :=
      (Bytes.zeros (uncompressedSize message).toNat).overlay 0 dst
    let stored ← store message uncompressed
    return (true, stored)
  else
    return (false, message)

def lz4Decompression (codecs : Codecs) (message : M) : Except RclError (Bool × M) :=
  if (uncompressedSize message).toNat > zlibMaxSrcSize then .ok (false, message)
  else
    let src := getSrc message
    let output := codecs.decompressSafe src (toInt (UInt32.ofNat src.length))
      (toInt (uncompressedSize message))
    storeIf message (output.result == toInt (uncompressedSize message)) output.dst

def zlibDecompression (codecs : Codecs) (message : M) : Except RclError (Bool × M) :=
  if (uncompressedSize message).toNat > zlibMaxSrcSize then .ok (false, message)
  else
    match codecs.uncompress (getSrc message) (uncompressedSize message).toNat with
    | none => .ok (false, message)
    | some dst => storeIf message (dst.length == (uncompressedSize message).toNat) dst

def decompress (codecs : Codecs) (message : M) : Except RclError (Bool × M) :=
  match compressor message with
  | .lz4Default | .lz4Hc => lz4Decompression codecs message
  | .zlib => zlibDecompression codecs message
  | .none => .ok (false, message)

theorem toNat_ofNat (size : Nat) (h : size < 2 ^ 32) :
    (UInt32.ofNat size).toNat = size :=
  UInt32.toNat_ofNat_of_lt' h

theorem toInt_ofNat (size : Nat) (h : size < 2 ^ 31) :
    toInt (UInt32.ofNat size) = size := by
  have hsize : (UInt32.ofNat size).toBitVec.toNat = size := by
    simpa using (by omega : size < 2 ^ 32)
  rw [toInt, BitVec.toInt_eq_toNat_of_lt (by rw [hsize]; omega), hsize]

/-- A compression writes the uncompressed frame or, from a source within the
limit, its header followed by what the library wrote. -/
theorem compressWith_cases (tag : Compressor) (maxSrcSize : Nat) (bound : Nat → Nat)
    (call : Bytes → Nat → Option (Nat × Bytes)) (message : M)
    (hcall : ∀ size dst, call (getSrc message) (bound (getSrc message).length) =
      some (size, dst) → size = dst.length) :
    compressWith tag maxSrcSize bound call message = getCombinedVector message ∨
    ∃ dst, (getSrc message).length ≤ maxSrcSize ∧
      call (getSrc message) (bound (getSrc message).length) = some (dst.length, dst) ∧
      compressWith tag maxSrcSize bound call message =
        compressedHeader message tag (UInt32.ofNat (getSrc message).length) ++ dst := by
  unfold compressWith
  by_cases hbig : (getSrc message).length > maxSrcSize
  · exact Or.inl (by simp [hbig])
  · cases hresult : call (getSrc message) (bound (getSrc message).length) with
    | none => exact Or.inl (by simp [hbig, hresult])
    | some output =>
        obtain ⟨size, dst⟩ := output
        have hsize := hcall size dst hresult
        subst hsize
        refine Or.inr ⟨dst, by omega, rfl, ?_⟩
        let header := compressedHeader message tag (UInt32.ofNat (getSrc message).length)
        have hwritten (size : Nat) : (Bytes.zeros size).overlay 0 header =
            header ++ (Bytes.zeros size).drop header.length := by
          simp [Bytes.overlay]
        simp only [hbig, if_false, hresult, Nat.add_comm dst.length]
        rw [hwritten]
        exact Bytes.resize_overlay_append header _ dst

theorem lz4Result_eq_some {output : Lz4Output} {size : Nat} {dst : Bytes}
    (h : lz4Result output = some (size, dst)) :
    0 < output.result ∧ output.result.toNat = size ∧ output.dst = dst := by
  unfold lz4Result at h
  split at h
  · cases h
  · cases h
    exact ⟨by omega, rfl, rfl⟩

/-- `dst` is what `decompress` turns into `src` when the message carries
`compressor` and the size of `src`. -/
def Inverts (codecs : Codecs) (compressor : Compressor) (dst src : Bytes) : Prop :=
  match compressor with
  | .lz4Default | .lz4Hc =>
      src.length ≤ lz4MaxSrcSize ∧ dst.length < 2 ^ 31 ∧
        codecs.decompressSafe dst dst.length src.length = ⟨src.length, src⟩
  | .zlib => src.length ≤ zlibMaxSrcSize ∧ codecs.uncompress dst src.length = some src
  | .none => False

private theorem inverts_lz4 {codecs : Codecs}
    {compress : Bytes → Nat → UInt32 → Lz4Output}
    (hlz4 : Lz4RoundTrip compress codecs.decompressSafe) {src dst : Bytes} {rate : UInt32}
    (hsize : src.length ≤ lz4MaxSrcSize)
    (hcall : lz4Result (compress src (lz4CompressBound src.length) rate) =
      some (dst.length, dst)) :
    dst.length < 2 ^ 31 ∧
      codecs.decompressSafe dst dst.length src.length = ⟨src.length, src⟩ := by
  obtain ⟨hpositive, -, rfl⟩ := lz4Result_eq_some hcall
  obtain ⟨-, hcapacity, hdecompress⟩ := hlz4 src _ rate hpositive
  have hbound := lz4CompressBound_lt src.length hsize
  exact ⟨by omega, hdecompress⟩

private theorem lz4Call_length {codecs : Codecs}
    {compress : Bytes → Nat → UInt32 → Lz4Output}
    (hlz4 : Lz4RoundTrip compress codecs.decompressSafe) {src dst : Bytes}
    {capacity size : Nat} {rate : UInt32}
    (hcall : lz4Result (compress src capacity rate) = some (size, dst)) :
    size = dst.length := by
  obtain ⟨hpositive, hsize, rfl⟩ := lz4Result_eq_some hcall
  have hresult := (hlz4 src capacity rate hpositive).1
  omega

/-- The frame `getCompressedCombinedVector` returns for any profile: the
uncompressed one, or the header followed by bytes the profile's decompressor
turns back into the source. -/
theorem getCompressedCombinedVector_cases {codecs : Codecs} (hcodecs : codecs.RoundTrip)
    (message : M) (compression : Compression) :
    getCompressedCombinedVector codecs message compression = getCombinedVector message ∨
    ∃ dst, Inverts codecs compression.compressor dst (getSrc message) ∧
      getCompressedCombinedVector codecs message compression =
        compressedHeader message compression.compressor
          (UInt32.ofNat (getSrc message).length) ++ dst := by
  obtain ⟨compressor, rate⟩ := compression
  cases compressor with
  | none => exact Or.inl rfl
  | lz4Default =>
      rcases compressWith_cases .lz4Default lz4MaxSrcSize lz4CompressBound
        (fun src maxDstSize => lz4Result (codecs.compressFast src maxDstSize rate)) message
        (fun _ _ => lz4Call_length hcodecs.fast) with hplain | ⟨dst, hsize, hcall, hframe⟩
      · exact Or.inl hplain
      · exact Or.inr ⟨dst, ⟨hsize, inverts_lz4 hcodecs.fast hsize hcall⟩, hframe⟩
  | lz4Hc =>
      rcases compressWith_cases .lz4Hc lz4MaxSrcSize lz4CompressBound
        (fun src maxDstSize => lz4Result (codecs.compressHC src maxDstSize rate)) message
        (fun _ _ => lz4Call_length hcodecs.hc) with hplain | ⟨dst, hsize, hcall, hframe⟩
      · exact Or.inl hplain
      · exact Or.inr ⟨dst, ⟨hsize, inverts_lz4 hcodecs.hc hsize hcall⟩, hframe⟩
  | zlib =>
      have hlength : ∀ size dst, (codecs.compress2 (getSrc message)
          (codecs.compressBound (getSrc message).length) rate).map
            (fun dst => (dst.length, dst)) = some (size, dst) → size = dst.length := by
        intro size dst hcall
        obtain ⟨out, -, hpair⟩ := Option.map_eq_some_iff.mp hcall
        exact (congrArg Prod.fst hpair).symm.trans (congrArg (·.2.length) hpair)
      rcases compressWith_cases .zlib zlibMaxSrcSize codecs.compressBound
        (fun src dstSize => (codecs.compress2 src dstSize rate).map
          fun dst => (dst.length, dst)) message hlength with
        hplain | ⟨dst, hsize, hcall, hframe⟩
      · exact Or.inl hplain
      · obtain ⟨out, hout, hpair⟩ := Option.map_eq_some_iff.mp hcall
        obtain rfl : out = dst := congrArg Prod.snd hpair
        exact Or.inr ⟨out, ⟨hsize, (hcodecs.zlib _ _ _ _ hout).2⟩, hframe⟩

theorem storeIf_source (message : M) (src : Bytes)
    (hsize : (uncompressedSize message).toNat = src.length) :
    storeIf message true src = (store message src).map fun stored => (true, stored) := by
  simp only [storeIf, if_true, hsize, Bytes.overlay_zeros]
  rfl

theorem store_of_storeIf {message stored : M} {success : Bool} {dst : Bytes}
    (h : storeIf message success dst = .ok (true, stored)) :
    ∃ data, store message data = .ok stored := by
  unfold storeIf at h
  split at h
  · obtain ⟨found, hfound, hpair⟩ := bind_eq_ok.mp h
    cases hpair
    exact ⟨_, hfound⟩
  · cases h

/-- What is decompressed was compressed, and its data is stored. -/
theorem store_of_decompress {codecs : Codecs} {message stored : M}
    (h : decompress codecs message = .ok (true, stored)) :
    compressor message ≠ .none ∧ ∃ data, store message data = .ok stored := by
  unfold decompress at h
  split at h
  · next hlz4 =>
    unfold lz4Decompression at h
    split at h
    · cases h
    · exact ⟨by simp [hlz4], store_of_storeIf h⟩
  · next hlz4 =>
    unfold lz4Decompression at h
    split at h
    · cases h
    · exact ⟨by simp [hlz4], store_of_storeIf h⟩
  · next hzlib =>
    unfold zlibDecompression at h
    split at h
    · cases h
    · split at h
      · cases h
      · exact ⟨by simp [hzlib], store_of_storeIf h⟩
  · cases h

/-- Decompressing a message that carries what a compression wrote stores the
source of the compression. -/
theorem decompress_of_inverts {codecs : Codecs} (message : M) (src : Bytes)
    (hinverts : Inverts codecs (compressor message) (getSrc message) src)
    (hsize : uncompressedSize message = UInt32.ofNat src.length) :
    decompress codecs message = (store message src).map fun stored => (true, stored) := by
  have hlimits : lz4MaxSrcSize = 2113929216 ∧ zlibMaxSrcSize = 4294967294 := by decide
  cases hcompressor : compressor message with
  | none => simp [hcompressor, Inverts] at hinverts
  | lz4Default | lz4Hc =>
      simp only [hcompressor, Inverts] at hinverts
      obtain ⟨hsrc, hdst, hcall⟩ := hinverts
      have hnat : (uncompressedSize message).toNat = src.length := by
        rw [hsize, toNat_ofNat _ (by omega)]
      have hint : toInt (uncompressedSize message) = src.length := by
        rw [hsize, toInt_ofNat src.length (by omega)]
      have hlimit : ¬ src.length > zlibMaxSrcSize := by omega
      simp only [decompress, hcompressor, lz4Decompression, hnat, if_neg hlimit, hint,
        toInt_ofNat _ hdst, hcall, beq_self_eq_true]
      exact storeIf_source message src hnat
  | zlib =>
      simp only [hcompressor, Inverts] at hinverts
      obtain ⟨hsrc, hcall⟩ := hinverts
      have hnat : (uncompressedSize message).toNat = src.length := by
        rw [hsize, toNat_ofNat _ (by omega)]
      have hlimit : ¬ src.length > zlibMaxSrcSize := by omega
      simp only [decompress, hcompressor, zlibDecompression, hnat, if_neg hlimit, hcall,
        beq_self_eq_true]
      exact storeIf_source message src hnat

end MessageBase

end Ros2Connect
