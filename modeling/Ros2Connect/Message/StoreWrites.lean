import Ros2Connect.Lib.VectorWrite
import Ros2Connect.Message.ServiceActionMessage
import Ros2Connect.Message.Interchangeable

/-!
The statements of `ServiceActionMessage::store`, which moves the gid four bytes
to the front inside the vector, resizes the vector and copies the data behind
the gid. The move is a `memcpy`, and its ranges are nine and five bytes from the
start of the same vector.
-/

namespace Ros2Connect

open Lib

namespace ServiceActionMessage

def storeWrites (message : ServiceActionMessage) (data : Bytes) : List VectorWrite :=
  let gidSize := message.gID.size
  [.set 1 Compressor.none.toByte,
    .set 2 message.serviceActionChannel,
    .set 3 message.serviceActionOpCode.toByte,
    .set 4 (UInt8.ofNat gidSize),
    .memcpyWithin 5 message.gID.offset gidSize,
    .resize (5 + data.length + gidSize),
    .memcpyFrom (5 + gidSize) data data.length]

/-- The four bytes written first are one block. -/
theorem storeWrites_eq (message : ServiceActionMessage) (data : Bytes) :
    message.storeWrites data =
      VectorWrite.setAll 1 [Compressor.none.toByte, message.serviceActionChannel,
        message.serviceActionOpCode.toByte, UInt8.ofNat message.gID.size] ++
      [.memcpyWithin 5 message.gID.offset message.gID.size,
        .resize (5 + data.length + message.gID.size),
        .memcpyFrom (5 + message.gID.size) data data.length] := rfl

/-- The statements leave the vector `store` is modelled by, where every copy is
taken for an overlap-safe one. -/
theorem run_storeWrites (message : ServiceActionMessage) (data : Bytes)
    (hlong : 5 ≤ message.combinedVector.length) :
    VectorWrite.run message.combinedVector (message.storeWrites data) =
      (message.store data).combinedVector := by
  rw [storeWrites_eq, VectorWrite.run_append, VectorWrite.run_setAll _ _ _ hlong]
  simp [VectorWrite.run, VectorWrite.apply, store]

/-- In the compressed layout all ranges fit; the two of the gid are disjoint up
to the four bytes it moves by. -/
theorem Laid.runAllowed_storeWrites_iff {message : ServiceActionMessage} (h : message.Laid)
    (hcompressed : message.compressor ≠ .none) (data : Bytes) :
    VectorWrite.RunAllowed message.combinedVector (message.storeWrites data) ↔
      message.gID.size ≤ 4 := by
  have hoffset := gidOffset_of_compressed hcompressed
  have hfits := h.fits
  have hgID := h.gID
  rw [hoffset] at hfits hgID
  let header : Bytes := [Compressor.none.toByte, message.serviceActionChannel,
    message.serviceActionOpCode.toByte, UInt8.ofNat message.gID.size]
  have hheader : 1 + header.length ≤ message.combinedVector.length := by
    change 1 + 4 ≤ _
    omega
  have hlength := Bytes.length_overlay message.combinedVector 1 header hheader
  rw [storeWrites_eq, VectorWrite.runAllowed_append, VectorWrite.run_setAll _ _ _ hheader]
  constructor
  · rintro ⟨-, ⟨-, -, hdisjoint⟩, -⟩
    rw [hgID] at hdisjoint
    omega
  · intro hsize
    refine ⟨VectorWrite.runAllowed_setAll _ _ _ hheader, ⟨?_, ?_, ?_⟩, trivial, ⟨?_, ?_⟩,
      trivial⟩
    · rw [hlength]
      omega
    · rw [hlength, hgID]
      omega
    · rw [hgID]
      omega
    · simp only [VectorWrite.apply, Bytes.length_resize]
      omega
    · exact Nat.le_refl _

/-- A received message that decompresses is stored by writes `memcpy` allows
exactly if its gid has at most four bytes. -/
theorem store_allowed_iff {codecs : Codecs} {source : RclMessage}
    {message stored : ServiceActionMessage} (hmessage : fromMessage source = .ok (some message))
    (hdecompress : MessageBase.decompress codecs message = .ok (true, stored)) :
    stored.combinedVector =
        VectorWrite.run message.combinedVector (message.storeWrites stored.getData) ∧
      (VectorWrite.RunAllowed message.combinedVector (message.storeWrites stored.getData) ↔
        message.gID.size ≤ 4) := by
  have hlaid := fromMessage_laid hmessage
  obtain ⟨hcompressor, data, hstored⟩ := MessageBase.store_of_decompress hdecompress
  have hcompressed : message.compressor ≠ .none := hcompressor
  obtain rfl : message.store data = stored := Except.ok.inj hstored
  have hlong : 5 ≤ message.combinedVector.length := by
    have hfits := hlaid.fits
    rw [gidOffset_of_compressed hcompressed] at hfits
    omega
  rw [(hlaid.store hcompressed data).1]
  exact ⟨(run_storeWrites message data hlong).symm,
    hlaid.runAllowed_storeWrites_iff hcompressed data⟩

/-- A cancellation with a gid of four bytes and one byte of data. -/
def shortGID : ServiceActionMessage :=
  ⟨251, .lz4Default, 1, [251, 1, 1, 0, 0, 0, 5, 1, 4, 1, 2, 3, 4, 16, 7], 5,
    .serviceToClientCancel, ⟨9, 4⟩, ⟨13, 2⟩⟩

theorem store_allowed_iff_shortGID :
    let stored := shortGID.store [7]
    stored.combinedVector =
        VectorWrite.run shortGID.combinedVector (shortGID.storeWrites stored.getData) ∧
      (VectorWrite.RunAllowed shortGID.combinedVector (shortGID.storeWrites stored.getData) ↔
        shortGID.gID.size ≤ 4) := by
  apply @store_allowed_iff literalCodecs ⟨251, .lz4Default, 1, [5, 1, 4, 1, 2, 3, 4, 16, 7]⟩
  · rfl
  · rfl

/-- A request as nodes send it: the gid of a client has sixteen bytes. -/
def requestWithGID : ServiceActionMessage :=
  ⟨251, .lz4Default, 1, [251, 1, 1, 0, 0, 0, 5, 0, 16, 1, 15, 2, 3, 4, 5, 6, 7, 8, 9, 10, 11,
    12, 13, 14, 16, 16, 7], 5, .serviceToClient, ⟨9, 16⟩, ⟨25, 2⟩⟩

/-- Its gid is moved by a `memcpy` between overlapping ranges. -/
theorem store_overlaps :
    ¬ ∀ (codecs : Codecs) (source : RclMessage) (message stored : ServiceActionMessage),
      fromMessage source = .ok (some message) →
      MessageBase.decompress codecs message = .ok (true, stored) →
        VectorWrite.RunAllowed message.combinedVector (message.storeWrites stored.getData) := by
  intro hall
  have hmessage : fromMessage ⟨251, .lz4Default, 1, requestWithGID.combinedVector.drop 6⟩ =
      .ok (some requestWithGID) := rfl
  have hallowed := hall literalCodecs _ requestWithGID (requestWithGID.store [7]) hmessage rfl
  have hsize := ((fromMessage_laid hmessage).runAllowed_storeWrites_iff (by decide) _).mp hallowed
  exact absurd hsize (by decide)

/-!
`store` on a platform whose `memcpy` may leave anything of a gid it moves between
overlapping ranges.
-/

variable {message : ServiceActionMessage}

def storeWith (memcpy : Memcpy) (message : ServiceActionMessage) (data : Bytes) :
    ServiceActionMessage :=
  { message with
    compressor := .none
    combinedVector := memcpy.run message.combinedVector (message.storeWrites data)
    gID := ⟨5, message.gID.size⟩
    data := ⟨5 + message.gID.size, data.length⟩ }

theorem Laid.storeWith_eq (h : message.Laid) (hcompressed : message.compressor ≠ .none)
    (hsize : message.gID.size ≤ 4) (memcpy : Memcpy) (data : Bytes) :
    message.storeWith memcpy data = message.store data := by
  have hlong : 5 ≤ message.combinedVector.length := by
    have hfits := h.fits
    rw [gidOffset_of_compressed hcompressed] at hfits
    omega
  have hrun := memcpy.run_eq ((h.runAllowed_storeWrites_iff hcompressed data).mpr hsize)
  rw [run_storeWrites message data hlong] at hrun
  simp only [storeWith, hrun]
  rfl

/-- The data is copied last, from another vector. -/
theorem getData_storeWith (memcpy : Memcpy) (message : ServiceActionMessage) (data : Bytes) :
    (message.storeWith memcpy data).getData = data := by
  let gidSize := message.gID.size
  let moved := memcpy.run message.combinedVector
    ((message.storeWrites data).take 5)
  have hrun : memcpy.run message.combinedVector (message.storeWrites data) =
      (moved.resize (5 + data.length + gidSize)).overlay (5 + gidSize)
        (data.take data.length) := rfl
  have hfront : ((moved.resize (5 + data.length + gidSize)).take (5 + gidSize)).length =
      5 + gidSize := by
    rw [List.length_take, Bytes.length_resize]
    omega
  have hspan := Span.bytes_append
    ((moved.resize (5 + data.length + gidSize)).take (5 + gidSize)) data
    ((moved.resize (5 + data.length + gidSize)).drop (5 + gidSize + data.length))
  rw [hfront] at hspan
  rw [getData, storeWith, hrun, List.take_length]
  exact hspan

@[reducible] def messageBaseWith (memcpy : Memcpy) : MessageBase ServiceActionMessage :=
  { (inferInstance : MessageBase ServiceActionMessage) with
    store := fun message data => .ok (message.storeWith memcpy data) }

/-- `decompress` on such a platform. -/
def decompressWith (memcpy : Memcpy) (codecs : Codecs) (message : ServiceActionMessage) :
    Except RclError (Bool × ServiceActionMessage) :=
  @MessageBase.decompress _ (messageBaseWith memcpy) codecs message

/-- It stores the same data, or fails alike. -/
theorem decompressWith_cases (memcpy : Memcpy) (codecs : Codecs)
    (message : ServiceActionMessage) :
    (MessageBase.decompress codecs message = .ok (false, message) ∧
      message.decompressWith memcpy codecs = .ok (false, message)) ∨
    ∃ data, MessageBase.decompress codecs message = .ok (true, message.store data) ∧
      message.decompressWith memcpy codecs = .ok (true, message.storeWith memcpy data) := by
  have hview : @SameView _ _ inferInstance (messageBaseWith memcpy) message message :=
    @SameView.mk _ _ _ (messageBaseWith memcpy) _ _ rfl rfl rfl rfl rfl rfl
  rcases @SameView.decompress _ _ _ (messageBaseWith memcpy) _ _ hview codecs with
    ⟨hfirst, hsecond⟩ | ⟨data, -, hfirst, hsecond⟩
  · exact .inl ⟨hfirst, hsecond⟩
  · exact .inr ⟨data, hfirst, hsecond⟩

theorem Laid.length_getGID (h : message.Laid) : message.getGID.length = message.gID.size := by
  have hfits := h.fits
  rw [getGID, Span.bytes, List.length_take, List.length_drop, h.gID]
  omega

end ServiceActionMessage

end Ros2Connect
