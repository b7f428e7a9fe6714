import Ros2Connect.Types

/-!
The compression libraries as parameters. A call is a function of the bytes,
sizes and rate it is given; what the program relies on is `Codecs.RoundTrip`.
-/

namespace Ros2Connect

open Lib

/-- What an LZ4 call leaves behind: the `int` it returns and the bytes it wrote
to the start of the destination. -/
structure Lz4Output where
  result : Int
  dst : Bytes
  deriving Repr, DecidableEq

structure Codecs where
  /-- `LZ4_compress_fast(src, dst, srcSize, maxDstSize, acceleration)` -/
  compressFast : Bytes → Nat → UInt32 → Lz4Output
  /-- `LZ4_compress_HC(src, dst, srcSize, maxDstSize, rate)` -/
  compressHC : Bytes → Nat → UInt32 → Lz4Output
  /-- `LZ4_decompress_safe(src, dst, compressedSize, dstCapacity)` -/
  decompressSafe : Bytes → Int → Int → Lz4Output
  /-- `compressBound(sourceLen)` -/
  compressBound : Nat → Nat
  /-- `compress2(dst, &dstSize, src, srcSize, rate)`: the bytes written when it
  returns `Z_OK` -/
  compress2 : Bytes → Nat → UInt32 → Option Bytes
  /-- `uncompress(dst, &dstSize, src, srcSize)`: the bytes written when it
  returns `Z_OK` -/
  uncompress : Bytes → Nat → Option Bytes

/-- The macro `LZ4_COMPRESSBOUND`. -/
def lz4CompressBound (size : Nat) : Nat :=
  if lz4MaxInputSize < size then 0 else size + size / 255 + 16

/-- The bound of every size the program compresses is an `int`, header
included. -/
theorem lz4CompressBound_lt (size : Nat) (h : size ≤ lz4MaxSrcSize) :
    lz4CompressBound size + 9 + 255 < 2 ^ 31 := by
  have hmax : size ≤ 0x7E000000 := le_trans h (by decide)
  unfold lz4CompressBound lz4MaxInputSize
  split <;> omega

/-- An LZ4 compressor either fails or writes at most the capacity, and the
decompressor turns what it wrote back into the source. -/
def Lz4RoundTrip (compress : Bytes → Nat → UInt32 → Lz4Output)
    (decompress : Bytes → Int → Int → Lz4Output) : Prop :=
  ∀ src capacity rate, 0 < (compress src capacity rate).result →
    (compress src capacity rate).result = (compress src capacity rate).dst.length ∧
    (compress src capacity rate).dst.length ≤ capacity ∧
    decompress (compress src capacity rate).dst (compress src capacity rate).dst.length
      src.length = ⟨src.length, src⟩

/-- The documented behaviour of the libraries the program relies on. -/
structure Codecs.RoundTrip (codecs : Codecs) : Prop where
  fast : Lz4RoundTrip codecs.compressFast codecs.decompressSafe
  hc : Lz4RoundTrip codecs.compressHC codecs.decompressSafe
  zlib : ∀ src capacity rate out, codecs.compress2 src capacity rate = some out →
    out.length ≤ capacity ∧ codecs.uncompress out src.length = some src

/-- A block of at most twelve bytes has no match LZ4 may encode: it is the
token that counts the literals, followed by the literals. -/
def literalBlock (src : Bytes) : Bytes := UInt8.ofNat (16 * src.length) :: src

/-- The libraries on short inputs: LZ4 writes one literal block, and nothing
else is compressed. -/
def literalCodecs : Codecs where
  compressFast := fun src capacity _ =>
    if src.length ≤ 12 ∧ src.length + 1 ≤ capacity then ⟨src.length + 1, literalBlock src⟩
    else ⟨0, []⟩
  compressHC := fun src capacity _ =>
    if src.length ≤ 12 ∧ src.length + 1 ≤ capacity then ⟨src.length + 1, literalBlock src⟩
    else ⟨0, []⟩
  decompressSafe := fun src _ capacity =>
    match src with
    | token :: literals =>
        if 16 * literals.length = token.toNat ∧ literals.length ≤ capacity then
          ⟨literals.length, literals⟩
        else ⟨-1, []⟩
    | [] => ⟨-1, []⟩
  compressBound := fun size => size + 13
  compress2 := fun _ _ _ => none
  uncompress := fun _ _ => none

private theorem literalCodecs_lz4 :
    Lz4RoundTrip literalCodecs.compressFast literalCodecs.decompressSafe := by
  intro src capacity rate hresult
  by_cases hshort : src.length ≤ 12 ∧ src.length + 1 ≤ capacity
  · have hcompress : literalCodecs.compressFast src capacity rate =
        ⟨src.length + 1, literalBlock src⟩ := if_pos hshort
    have htoken : 16 * src.length = (UInt8.ofNat (16 * src.length)).toNat := by
      rw [UInt8.toNat_ofNat']
      omega
    rw [hcompress]
    refine ⟨by simp [literalBlock], by simpa [literalBlock] using hshort.2, ?_⟩
    exact if_pos ⟨htoken, le_refl _⟩
  · have hcompress : literalCodecs.compressFast src capacity rate = ⟨0, []⟩ :=
      if_neg hshort
    rw [hcompress] at hresult
    exact absurd hresult (lt_irrefl _)

theorem literalCodecs_roundTrip : literalCodecs.RoundTrip where
  fast := literalCodecs_lz4
  hc := literalCodecs_lz4
  zlib := by
    intro src capacity rate out hcompress
    simp [literalCodecs] at hcompress

end Ros2Connect
