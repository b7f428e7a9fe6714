import Ros2Connect.Message.Decompression
import Ros2Connect.Publisher.PublisherManager

/-!
`ThreadedPublisher::run` on a message from the network. A message whose size
field is zero can be decompressed to nothing, and storing nothing asks the
serialized message for a capacity of zero, which throws.
-/

namespace Ros2Connect

open Lib

namespace ThreadedPublisher

variable {τ : Type} {codecs : Codecs} {manager : PublisherManager τ} {channel : UInt8} {tag : τ}

/-- The thread publishes the message it has taken or drops it, and goes on. -/
def Continues (codecs : Codecs) (manager : PublisherManager τ) (channel : UInt8) (tag : τ) :
    Prop :=
  ∃ next, manager.runThreaded codecs channel = .ok next ∧
    (next = manager.doneThreaded channel ∨
      ∃ data, next = (manager.doneThreaded channel).rosPublish channel data tag)

/-- A compressed frame that states a size of zero and whose payload the library
decompresses, successfully, to no byte. -/
def EmptiesPayload (codecs : Codecs) (frame : Bytes) : Prop :=
  ∃ channel compressor payload,
    frame = [channel, compressor.toByte] ++ Bytes.encodeWord 0 ++ payload ∧
    MessageBase.Wrote codecs (⟨channel, compressor, 0, payload⟩ : RclMessage) []

theorem continues_plain {message : RclMessage}
    (hmessage : manager.threadedMessage channel = some ⟨message, tag⟩)
    (hplain : MessageBase.isCompressed message = false) :
    Continues codecs manager channel tag := by
  refine ⟨_, ?_, Or.inr ⟨message.serializedMessage, rfl⟩⟩
  simp only [PublisherManager.runThreaded, hmessage, hplain]
  rfl

theorem continues_of_decompress {message stored : RclMessage} {success : Bool}
    (hmessage : manager.threadedMessage channel = some ⟨message, tag⟩)
    (hcompressed : MessageBase.isCompressed message = true)
    (hdecompress : MessageBase.decompress codecs message = .ok (success, stored)) :
    Continues codecs manager channel tag := by
  cases success with
  | false =>
      refine ⟨_, ?_, Or.inl rfl⟩
      simp only [PublisherManager.runThreaded, hmessage, hcompressed, if_true, hdecompress]
      rfl
  | true =>
      refine ⟨_, ?_, Or.inr ⟨stored.serializedMessage, rfl⟩⟩
      simp only [PublisherManager.runThreaded, hmessage, hcompressed, if_true, hdecompress]
      rfl

theorem not_continues_of_decompress {message : RclMessage} {error : RclError}
    (hmessage : manager.threadedMessage channel = some ⟨message, tag⟩)
    (hcompressed : MessageBase.isCompressed message = true)
    (hdecompress : MessageBase.decompress codecs message = .error error) :
    ¬ Continues codecs manager channel tag := by
  rintro ⟨next, hrun, -⟩
  simp only [PublisherManager.runThreaded, hmessage, hcompressed, if_true, hdecompress] at hrun
  cases hrun

/-- A compressed message is stored or left alone, unless nothing is to be
stored. -/
theorem decompress_eq_ok_iff (hcodecs : codecs.Reports) (message : RclMessage) :
    (∃ result, MessageBase.decompress codecs message = .ok result) ↔
      ¬ (message.uncompressedSize = 0 ∧ MessageBase.Wrote codecs message []) := by
  constructor
  · rintro ⟨result, hresult⟩ ⟨hzero, hwrote⟩
    have hstored := MessageBase.decompress_of_wrote hcodecs hwrote
      (by simp [MessageBase.uncompressedSize, hzero]) (by simp)
    rw [hresult] at hstored
    cases hstored
  · intro hnonempty
    rcases MessageBase.decompress_cases hcodecs message with
      hfailed | ⟨dst, hwrote, hlength, hstored⟩
    · exact ⟨_, hfailed⟩
    · have hdst : ¬ dst.length = 0 := by
        intro hnil
        rw [hnil] at hlength
        rw [List.length_eq_zero_iff.mp hnil] at hwrote
        exact hnonempty ⟨UInt32.toNat_inj.mp hlength.symm, hwrote⟩
      have hnew : MessageBase.store message dst =
          .ok { message with compressor := .none, serializedMessage := dst } := if_neg hdst
      rw [hnew] at hstored
      exact ⟨_, hstored⟩

theorem emptiesPayload_iff {frame : Bytes} {message : RclMessage}
    (hframe : RclMessage.fromFlatBuffer frame = .ok message) :
    EmptiesPayload codecs frame ↔
      message.uncompressedSize = 0 ∧ MessageBase.Wrote codecs message [] := by
  constructor
  · rintro ⟨channel, compressor, payload, rfl, hwrote⟩
    have hcompressed : compressor ≠ .none := by
      simpa [MessageBase.isCompressed, MessageBase.compressor] using hwrote.isCompressed
    rw [RclMessage.fromFlatBuffer_compressed channel compressor 0 payload hcompressed] at hframe
    cases hframe
    exact ⟨rfl, hwrote⟩
  · rintro ⟨hzero, hwrote⟩
    cases RclMessage.fromFlatBuffer_decodes hframe with
    | uncompressed | unknown => cases hwrote.isCompressed
    | compressed channel compressor size payload =>
        obtain rfl : size = 0 := hzero
        exact ⟨channel, compressor, payload, rfl, hwrote⟩

/-- The thread goes on after a message exactly if the frame it came in does not
decompress to nothing. -/
theorem run_continues (hcodecs : codecs.Reports) {frame : Bytes} {message : RclMessage}
    (hframe : RclMessage.fromFlatBuffer frame = .ok message)
    (hmessage : manager.threadedMessage channel = some ⟨message, tag⟩) :
    Continues codecs manager channel tag ↔ ¬ EmptiesPayload codecs frame := by
  rw [emptiesPayload_iff hframe, ← decompress_eq_ok_iff hcodecs]
  cases hcompressed : MessageBase.isCompressed message with
  | false =>
      have hplain : MessageBase.decompress codecs message = .ok (false, message) := by
        have hnone : MessageBase.compressor message = .none := by
          simpa [MessageBase.isCompressed] using hcompressed
        simp only [MessageBase.decompress, hnone]
      exact ⟨fun _ => ⟨_, hplain⟩, fun _ => continues_plain hmessage hcompressed⟩
  | true =>
      constructor
      · intro hcontinues
        cases hdecompress : MessageBase.decompress codecs message with
        | ok result => exact ⟨result, rfl⟩
        | error error =>
            exact absurd hcontinues
              (not_continues_of_decompress hmessage hcompressed hdecompress)
      · rintro ⟨⟨success, stored⟩, hdecompress⟩
        exact continues_of_decompress hmessage hcompressed hdecompress

/-- A manager whose threaded publisher of channel 7 has taken a message. -/
def taken (message : RclMessage) : PublisherManager Unit :=
  { PublisherManager.start with threadedMessage := fun _ => some ⟨message, ()⟩ }

/-- The frame of three compressed bytes is published. -/
theorem run_continues_literal :
    Continues literalCodecs (taken ⟨7, .lz4Default, 3, [48, 1, 2, 3]⟩) 7 () ↔
      ¬ EmptiesPayload literalCodecs [7, 1, 3, 0, 0, 0, 48, 1, 2, 3] :=
  run_continues literalCodecs_reports rfl rfl

/-- A block that decompresses to nothing ends the thread by an exception. -/
theorem run_escapes :
    ¬ ∀ (frame : Bytes) (message : RclMessage) (manager : PublisherManager Unit),
      RclMessage.fromFlatBuffer frame = .ok message →
      manager.threadedMessage 7 = some ⟨message, ()⟩ →
        Continues literalCodecs manager 7 () := by
  intro hcontinues
  have hcontinued := hcontinues [7, 1, 0, 0, 0, 0, 0] ⟨7, .lz4Default, 0, [0]⟩
    (taken ⟨7, .lz4Default, 0, [0]⟩) rfl rfl
  have hdecompress : MessageBase.decompress literalCodecs
      (⟨7, .lz4Default, 0, [0]⟩ : RclMessage) = .error .invalidArgument := rfl
  exact not_continues_of_decompress rfl rfl hdecompress hcontinued

end ThreadedPublisher

end Ros2Connect
