import Ros2Connect.Subscriber.SubscriberManager

/-!
The accessors of a message that look at its payload without a check, `toString`
and `toSubscription`. Their callers are reached by every frame a peer may send:
`processMessage` evaluates `toString` and the subscriber manager
`toSubscription`, by the op-code alone.
-/

namespace Ros2Connect

open Lib

inductive Accessor where
  | toString
  | toSubscription
  deriving Repr, DecidableEq

namespace RclMessage

/-- `toString` as it reads the memory. -/
def readString (message : RclMessage) : Except Fault Bytes :=
  message.serializedMessage.cString

theorem readString_eq_ok_iff (message : RclMessage) (string : Bytes) :
    message.readString = .ok string ↔
      0 ∈ message.serializedMessage ∧ string = message.toString :=
  Bytes.cString_eq_ok_iff message.serializedMessage string

theorem exists_toSubscription_eq_ok_iff (message : RclMessage) :
    (∃ subscription, message.toSubscription = .ok subscription) ↔
      2 ≤ message.serializedMessage.length := by
  simp only [toSubscription, bind_eq_ok, pure_eq_ok]
  constructor
  · rintro ⟨_, _, _, _, hvalue, _⟩
    exact (Bytes.exists_read_eq_ok_iff message.serializedMessage 1).mp ⟨_, hvalue⟩
  · intro hlong
    exact ⟨_, _, Bytes.read_eq_ok _ 0 (by omega), _, Bytes.read_eq_ok _ 1 hlong, rfl⟩

/-- What is evaluated of a message on its way: an AUTHENTICATION message is
read by `processMessage` of either side, a NOTIFICATION message by that of the
base, a SUBSCRIPTION message by the manager it is queued for. -/
def accessor (message : RclMessage) : Option Accessor :=
  if MessageBase.isOpCode message .authentication then some .toString
  else
    match destination message with
    | .logger => some .toString
    | .subscriberManager => some .toSubscription
    | .serviceActionManager | .publisherManager => none

end RclMessage

namespace Accessor

/-- The accessor ends inside the payload, whatever it makes of it. -/
def evaluate (message : RclMessage) : Accessor → Except Fault Unit
  | toString => message.readString.map fun _ => ()
  | toSubscription => message.toSubscription.map fun _ => ()

/-- A readable string, or a channel and a value. -/
def Readable (payload : Bytes) : Accessor → Prop
  | toString => 0 ∈ payload
  | toSubscription => 2 ≤ payload.length

/-- What an accessor asks of its caller. -/
structure Obligation (accessor : Accessor) (message : RclMessage) : Prop where
  uncompressed : MessageBase.isCompressed message = false
  readable : accessor.Readable message.serializedMessage

/-- The frame names no compressor, and what follows its header is readable. -/
structure Meets (accessor : Accessor) (frame : Bytes) : Prop where
  uncompressed : frame[1]? = some Compressor.none.toByte
  readable : accessor.Readable (frame.drop 2)

theorem exists_map_eq_ok_iff {α : Type} (result : Except Fault α) :
    result.map (fun _ => ()) = .ok () ↔ ∃ value, result = .ok value := by
  cases result with
  | error fault => exact ⟨nofun, nofun⟩
  | ok value => exact ⟨fun _ => ⟨value, rfl⟩, fun _ => rfl⟩

/-- No byte outside the payload is read exactly if the payload is readable. -/
theorem evaluate_eq_ok_iff (accessor : Accessor) (message : RclMessage) :
    accessor.evaluate message = .ok () ↔ accessor.Readable message.serializedMessage := by
  cases accessor with
  | toString =>
      rw [evaluate, exists_map_eq_ok_iff]
      simp only [RclMessage.readString_eq_ok_iff, exists_and_left, exists_eq, and_true]
      exact Iff.rfl
  | toSubscription =>
      rw [evaluate, exists_map_eq_ok_iff]
      exact message.exists_toSubscription_eq_ok_iff

theorem not_readable_nil (accessor : Accessor) : ¬ accessor.Readable [] := by
  cases accessor with
  | toString => exact List.not_mem_nil
  | toSubscription => exact Nat.not_succ_le_zero 1

/-- The obligation of a decoded message, read off its frame. -/
theorem obligation_iff (accessor : Accessor) {frame : Bytes} {message : RclMessage}
    (h : RclMessage.Decodes frame message) :
    accessor.Obligation message ↔ accessor.Meets frame := by
  cases h with
  | uncompressed channel payload =>
      exact ⟨fun h => ⟨rfl, h.readable⟩, fun h => ⟨rfl, h.readable⟩⟩
  | compressed channel compressor size payload hcompressed =>
      constructor
      · intro h
        cases compressor with
        | none => exact absurd rfl hcompressed
        | lz4Default | lz4Hc | zlib => exact absurd h.uncompressed Bool.true_eq_false.mp
      · intro h
        cases compressor with
        | none => exact absurd rfl hcompressed
        | lz4Default | lz4Hc | zlib => exact absurd (Option.some.inj h.uncompressed) (by decide)
  | unknown channel byte rest hbyte =>
      constructor
      · exact fun h => absurd h.readable accessor.not_readable_nil
      · intro h
        obtain rfl := Option.some.inj h.uncompressed
        cases hbyte

end Accessor

/-- What is evaluated of a message keeps its obligation and reads no byte
outside the payload. -/
def RclMessage.Safe (message : RclMessage) : Prop :=
  ∀ accessor, message.accessor = some accessor →
    accessor.Obligation message ∧ accessor.evaluate message = .ok ()

/-- No caller checks: a message is safe exactly if the frame it came in meets
the obligation by itself. -/
theorem fromFlatBuffer_safe {frame : Bytes} {message : RclMessage}
    (hframe : RclMessage.fromFlatBuffer frame = .ok message) :
    message.Safe ↔ ∀ accessor, message.accessor = some accessor → accessor.Meets frame := by
  have hdecodes := RclMessage.fromFlatBuffer_decodes hframe
  constructor
  · intro hsafe accessor haccessor
    exact (accessor.obligation_iff hdecodes).mp (hsafe accessor haccessor).1
  · intro hmeets accessor haccessor
    have hobligation := (accessor.obligation_iff hdecodes).mpr (hmeets accessor haccessor)
    exact ⟨hobligation, (accessor.evaluate_eq_ok_iff message).mpr hobligation.readable⟩

/-- The frame of a subscription to channel 7. -/
theorem fromFlatBuffer_safe_subscription :
    RclMessage.Safe ⟨250, .none, 2, [7, 1]⟩ ↔
      ∀ accessor, RclMessage.accessor ⟨250, .none, 2, [7, 1]⟩ = some accessor →
        accessor.Meets [250, 0, 7, 1] :=
  fromFlatBuffer_safe (by decide)

/-- A user key without a NUL is read past its end. -/
theorem fromFlatBuffer_reads_past :
    ¬ ∀ (frame : Bytes) (message : RclMessage),
      RclMessage.fromFlatBuffer frame = .ok message → message.Safe := by
  intro hall
  obtain ⟨-, hinside⟩ := hall [255, 0, 65] ⟨255, .none, 1, [65]⟩ (by decide) .toString
    (by decide)
  have hfault : Accessor.toString.evaluate ⟨255, .none, 1, [65]⟩ =
      .error (.outOfBounds 1 1) := by decide
  rw [hfault] at hinside
  cases hinside

end Ros2Connect
