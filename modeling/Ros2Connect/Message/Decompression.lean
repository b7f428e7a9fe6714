import Ros2Connect.Message.ServiceActionMessage
import Ros2Connect.Message.VectorMessage

/-!
`decompress` on the three message classes, for any size a peer may state. The
size is compared as an unsigned 32-bit integer, handed to LZ4 as an `int` and
compared again as one; the limit at the start keeps out the one size whose cast
is the value LZ4 returns for a negative capacity.
-/

namespace Ros2Connect

open Lib

/-- What the libraries' documentation says a decompression reports: LZ4 the
number of bytes written or a negative value, zlib bytes that fit. -/
structure Codecs.Reports (codecs : Codecs) : Prop where
  lz4 : ∀ src size capacity, 0 ≤ capacity →
    (codecs.decompressSafe src size capacity).result < 0 ∨
    ((codecs.decompressSafe src size capacity).result =
        (codecs.decompressSafe src size capacity).dst.length ∧
      (codecs.decompressSafe src size capacity).result ≤ capacity)
  lz4Negative : ∀ src size capacity, capacity < 0 →
    (codecs.decompressSafe src size capacity).result = -1
  zlib : ∀ src capacity dst, codecs.uncompress src capacity = some dst →
    dst.length ≤ capacity

theorem literalCodecs_reports : literalCodecs.Reports where
  lz4 := by
    intro src size capacity hcapacity
    cases src with
    | nil => exact Or.inl (by decide : (-1 : Int) < 0)
    | cons token literals =>
        simp only [literalCodecs]
        split
        · next hfits => exact Or.inr ⟨rfl, hfits.2⟩
        · exact Or.inl (by decide : (-1 : Int) < 0)
  lz4Negative := by
    intro src size capacity hcapacity
    cases src with
    | nil => rfl
    | cons token literals =>
        simp only [literalCodecs]
        rw [if_neg (by omega)]
  zlib := by
    intro src capacity dst huncompress
    cases huncompress

namespace MessageBase

variable {M : Type} [MessageBase M] {codecs : Codecs}

/-- The library has been called for the message and reports to have written
`dst`. -/
def Wrote (codecs : Codecs) (message : M) (dst : Bytes) : Prop :=
  match compressor message with
  | .lz4Default | .lz4Hc =>
      codecs.decompressSafe (getSrc message) (toInt (UInt32.ofNat (getSrc message).length))
        (toInt (uncompressedSize message)) = ⟨dst.length, dst⟩
  | .zlib => codecs.uncompress (getSrc message) (uncompressedSize message).toNat = some dst
  | .none => False

theorem Wrote.isCompressed {message : M} {dst : Bytes} (h : Wrote codecs message dst) :
    isCompressed message = true := by
  unfold Wrote at h
  unfold MessageBase.isCompressed
  cases hcompressor : compressor message with
  | none =>
      rw [hcompressor] at h
      cases h
  | lz4Default | lz4Hc | zlib => rfl

/-- A size is handed over as it is up to the largest `int`, and as a negative
one beyond. -/
theorem toInt_cases (size : UInt32) :
    (toInt size = size.toNat) ∨ (toInt size = (size.toNat : Int) - 2 ^ 32 ∧ toInt size < 0) := by
  have hsize : size.toBitVec.toNat = size.toNat := rfl
  unfold toInt
  rw [BitVec.toInt_eq_toNat_cond, hsize]
  split
  · exact Or.inl rfl
  · exact Or.inr ⟨rfl, by have := size.toNat_lt; omega⟩

/-- LZ4's result equals the size handed over only if it wrote as many bytes. -/
theorem Wrote.of_result (hcodecs : codecs.Reports) {src : Bytes} {size : UInt32}
    (hlimit : size.toNat ≤ zlibMaxSrcSize) {srcSize : Int}
    (hresult : (codecs.decompressSafe src srcSize (toInt size)).result = toInt size) :
    ∃ dst, dst.length = size.toNat ∧
      codecs.decompressSafe src srcSize (toInt size) = ⟨dst.length, dst⟩ := by
  have hmax : zlibMaxSrcSize = 4294967294 := by decide
  rcases toInt_cases size with hint | ⟨hint, hnegative⟩
  · rcases hcodecs.lz4 src srcSize (toInt size) (by omega) with hfailed | ⟨hwritten, -⟩
    · omega
    · refine ⟨(codecs.decompressSafe src srcSize (toInt size)).dst, by omega, ?_⟩
      rw [← hwritten]
  · have hfailed := hcodecs.lz4Negative src srcSize (toInt size) hnegative
    omega

/-- `decompress` fails, or stores as many bytes as the message says, which the
library reports to have written. -/
theorem decompress_cases (hcodecs : codecs.Reports) (message : M) :
    decompress codecs message = .ok (false, message) ∨
    ∃ dst, Wrote codecs message dst ∧ dst.length = (uncompressedSize message).toNat ∧
      decompress codecs message = (store message dst).map fun stored => (true, stored) := by
  cases hcompressor : compressor message with
  | none => exact Or.inl (by simp only [decompress, hcompressor])
  | lz4Default | lz4Hc =>
      simp only [decompress, hcompressor, lz4Decompression, Wrote]
      by_cases hlimit : (uncompressedSize message).toNat > zlibMaxSrcSize
      · exact Or.inl (if_pos hlimit)
      · rw [if_neg hlimit]
        by_cases hresult : (codecs.decompressSafe (getSrc message)
            (toInt (UInt32.ofNat (getSrc message).length))
            (toInt (uncompressedSize message))).result = toInt (uncompressedSize message)
        · obtain ⟨dst, hlength, hcall⟩ := Wrote.of_result hcodecs (by omega) hresult
          refine Or.inr ⟨dst, hcall, hlength, ?_⟩
          rw [hresult, beq_self_eq_true, hcall]
          exact storeIf_source message dst hlength.symm
        · rw [beq_eq_false_iff_ne.mpr hresult]
          exact Or.inl rfl
  | zlib =>
      simp only [decompress, hcompressor, zlibDecompression, Wrote]
      by_cases hlimit : (uncompressedSize message).toNat > zlibMaxSrcSize
      · exact Or.inl (if_pos hlimit)
      · rw [if_neg hlimit]
        cases hcall : codecs.uncompress (getSrc message) (uncompressedSize message).toNat with
        | none => exact Or.inl rfl
        | some dst =>
            by_cases hlength : dst.length = (uncompressedSize message).toNat
            · refine Or.inr ⟨dst, rfl, hlength, ?_⟩
              simp only [hlength, beq_self_eq_true]
              exact storeIf_source message dst hlength.symm
            · simp only [beq_eq_false_iff_ne.mpr hlength]
              exact Or.inl rfl

/-- What the library reports to have written is stored. -/
theorem decompress_of_wrote (hcodecs : codecs.Reports) {message : M} {dst : Bytes}
    (hwrote : Wrote codecs message dst) (hlength : dst.length = (uncompressedSize message).toNat)
    (hlimit : dst.length ≤ zlibMaxSrcSize) :
    decompress codecs message = (store message dst).map fun stored => (true, stored) := by
  have hsmall : ¬ (uncompressedSize message).toNat > zlibMaxSrcSize := by omega
  unfold Wrote at hwrote
  cases hcompressor : compressor message with
  | none =>
      rw [hcompressor] at hwrote
      cases hwrote
  | lz4Default | lz4Hc =>
      rw [hcompressor] at hwrote
      simp only at hwrote
      have hint : toInt (uncompressedSize message) = dst.length := by
        rcases toInt_cases (uncompressedSize message) with hint | ⟨-, hnegative⟩
        · omega
        · have hfailed := hcodecs.lz4Negative (getSrc message)
            (toInt (UInt32.ofNat (getSrc message).length)) _ hnegative
          rw [hwrote] at hfailed
          simp only at hfailed
          omega
      rw [hint] at hwrote
      simp only [decompress, hcompressor, lz4Decompression, if_neg hsmall, hint, hwrote,
        beq_self_eq_true]
      exact storeIf_source message dst hlength.symm
  | zlib =>
      rw [hcompressor] at hwrote
      simp only at hwrote
      simp only [decompress, hcompressor, zlibDecompression, if_neg hsmall, hwrote, hlength,
        beq_self_eq_true]
      exact storeIf_source message dst hlength.symm

/-- `decompress` answers `true` only when the library wrote exactly the bytes
the message says, which then are its payload under an unchanged header; else it
leaves the message as it is. -/
def Faithful (codecs : Codecs) (message : M) (sameHeader : M → Prop) : Prop :=
  ∃ success stored, decompress codecs message = .ok (success, stored) ∧
    (success = true → isCompressed stored = false ∧ sameHeader stored ∧
      channel stored = channel message ∧
      ∃ dst, Wrote codecs message dst ∧ dst.length = (uncompressedSize message).toNat ∧
        getSrc stored = dst) ∧
    (success = false → stored = message)

/-- It is enough that `store` does as it says. -/
theorem faithful_of_store (hcodecs : codecs.Reports) {message : M} {sameHeader : M → Prop}
    (hstore : ∀ dst, isCompressed message = true →
      dst.length = (uncompressedSize message).toNat →
        ∃ stored, store message dst = .ok stored ∧ isCompressed stored = false ∧
          sameHeader stored ∧ channel stored = channel message ∧ getSrc stored = dst) :
    Faithful codecs message sameHeader := by
  rcases decompress_cases hcodecs message with hfailed | ⟨dst, hwrote, hlength, hdecompress⟩
  · exact ⟨false, message, hfailed, nofun, fun _ => rfl⟩
  · obtain ⟨stored, hstored, hplain, hheader, hchannel, hpayload⟩ :=
      hstore dst hwrote.isCompressed hlength
    refine ⟨true, stored, ?_, fun _ => ⟨hplain, hheader, hchannel, dst, hwrote, hlength, hpayload⟩,
      nofun⟩
    rw [hdecompress, hstored]
    rfl

end MessageBase

open MessageBase

/-- The first byte of a frame, which is its channel. -/
def VectorMessage.SameHeader (message stored : VectorMessage) : Prop :=
  stored.combinedVector.take 1 = message.combinedVector.take 1

def ServiceActionMessage.SameHeader (message stored : ServiceActionMessage) : Prop :=
  stored.serviceActionChannel = message.serviceActionChannel ∧
    stored.serviceActionOpCode = message.serviceActionOpCode ∧ stored.getGID = message.getGID

theorem RclMessage.faithful {codecs : Codecs} (hcodecs : codecs.Reports) (message : RclMessage)
    (hsize : 1 ≤ message.uncompressedSize.toNat) :
    Faithful codecs message fun _ => True := by
  refine faithful_of_store hcodecs fun dst _ hlength => ?_
  have hnonempty : ¬ dst.length = 0 := by
    change dst.length = message.uncompressedSize.toNat at hlength
    omega
  exact ⟨{ message with compressor := .none, serializedMessage := dst },
    if_neg hnonempty, rfl, trivial, rfl, rfl⟩

/-- A vector that holds a header keeps its first byte and shows the data
behind two bytes. -/
theorem VectorMessage.faithful {codecs : Codecs} (hcodecs : codecs.Reports)
    (message : VectorMessage)
    (hframe : isCompressed message = true → 6 ≤ message.combinedVector.length) :
    Faithful codecs message message.SameHeader := by
  refine faithful_of_store hcodecs fun dst hcompressed _ => ?_
  have hlong := hframe hcompressed
  cases hvector : message.combinedVector with
  | nil => simp [hvector] at hlong
  | cons channel rest =>
      refine ⟨_, message.store_cons channel rest dst hvector, rfl, ?_, rfl, rfl⟩
      simp [VectorMessage.SameHeader, hvector]

theorem ServiceActionMessage.faithful {codecs : Codecs} (hcodecs : codecs.Reports)
    {message : ServiceActionMessage} (hlaid : message.Laid) :
    Faithful codecs message message.SameHeader := by
  refine faithful_of_store hcodecs fun dst hcompressed _ => ?_
  have hcompressor : message.compressor ≠ .none := by
    simpa [isCompressed, MessageBase.compressor] using hcompressed
  obtain ⟨hdata, hgID⟩ := hlaid.store hcompressor dst
  exact ⟨message.store dst, rfl, rfl, ⟨rfl, rfl, hgID⟩, rfl, hdata⟩

/-- The three classes decompress faithfully, whatever size and payload a peer
has sent. -/
theorem decompress_faithful {codecs : Codecs} (hcodecs : codecs.Reports) :
    (∀ message : RclMessage, 1 ≤ message.uncompressedSize.toNat →
      Faithful codecs message fun _ => True) ∧
    (∀ message : VectorMessage, 1 ≤ message.uncompressedSize.toNat →
      (isCompressed message = true → 6 ≤ message.combinedVector.length) →
        Faithful codecs message message.SameHeader) ∧
    (∀ (source : RclMessage) (message : ServiceActionMessage),
      ServiceActionMessage.fromMessage source = .ok (some message) →
      1 ≤ message.uncompressedSize.toNat →
        Faithful codecs message message.SameHeader) :=
  ⟨RclMessage.faithful hcodecs, fun message _ => VectorMessage.faithful hcodecs message,
    fun _ _ hmessage _ =>
      ServiceActionMessage.faithful hcodecs (ServiceActionMessage.fromMessage_laid hmessage)⟩

/-- Three bytes, compressed with LZ4, in a message of each class. -/
theorem decompress_faithful_literal :
    Faithful literalCodecs (⟨7, .lz4Default, 3, [48, 1, 2, 3]⟩ : RclMessage) (fun _ => True) ∧
    (∃ message : VectorMessage, message.getSrc = [48, 1, 2, 3] ∧
      Faithful literalCodecs message message.SameHeader) ∧
    ∃ message : ServiceActionMessage, message.getGID = [9] ∧
      Faithful literalCodecs message message.SameHeader := by
  obtain ⟨hrcl, hvector, hserviceAction⟩ := decompress_faithful literalCodecs_reports
  refine ⟨hrcl _ (by decide), ⟨⟨7, .lz4Hc, 3, [7, 2, 3, 0, 0, 0, 48, 1, 2, 3]⟩, rfl,
    hvector _ (by decide) (by decide)⟩, ?_⟩
  exact ⟨_, rfl, hserviceAction ⟨251, .lz4Default, 3, [5, 0, 1, 9, 48, 1, 2, 3]⟩
    ⟨251, .lz4Default, 3, [251, 1, 3, 0, 0, 0, 5, 0, 1, 9, 48, 1, 2, 3], 5, .serviceToClient,
      ⟨9, 1⟩, ⟨10, 4⟩⟩ rfl (by decide)⟩

end Ros2Connect
