import Ros2Connect.Message.RclMessage

/-!
`ServiceActionMessage`: the extended header of a service or action message,
the spans into its vector, and the round trip of a frame. The extended header
(service/action channel, op-code, size of the gid, gid) follows the two bytes of
an uncompressed frame or the six bytes of a compressed one and is itself never
compressed.
-/

namespace Ros2Connect

open Lib

structure ServiceActionMessage where
  channel : UInt8
  compressor : Compressor
  uncompressedSize : UInt32
  combinedVector : Bytes
  serviceActionChannel : UInt8
  serviceActionOpCode : ServiceActionOpCode
  gID : Span
  data : Span
  deriving Repr, DecidableEq

namespace ServiceActionMessage

/-- Where the gid begins. -/
def gidOffset : Compressor → Nat
  | .none => 5
  | _ => 9

theorem gidOffset_of_compressed {compressor : Compressor} (h : compressor ≠ .none) :
    gidOffset compressor = 9 := by
  cases compressor with
  | none => exact absurd rfl h
  | lz4Default | lz4Hc | zlib => rfl

/-- The constructor: the spans are computed from the size the vector states for
its gid. -/
def ofCombinedVector (channel : UInt8) (compressor : Compressor) (uncompressedSize : UInt32)
    (serviceActionChannel : UInt8) (serviceActionOpCode : ServiceActionOpCode)
    (combinedVector : Bytes) : Except Fault ServiceActionMessage := do
  let offset := gidOffset compressor
  let gidSize ← combinedVector.read (offset - 1)
  let behindHeader ← Bytes.subSize combinedVector.length offset
  let dataSize ← Bytes.subSize behindHeader gidSize.toNat
  return ⟨channel, compressor, uncompressedSize, combinedVector, serviceActionChannel,
    serviceActionOpCode, ⟨offset, gidSize.toNat⟩, ⟨offset + gidSize.toNat, dataSize⟩⟩

/-- Vectors that are too short for their layout or name no op-code are not
converted. -/
def fromMessage (message : RclMessage) : Except Fault (Option ServiceActionMessage) := do
  let combinedVector := message.getCopiedCombinedVector
  let offset := gidOffset message.compressor
  if combinedVector.length < offset + 1 then return none
  else
    let serviceActionChannel ← combinedVector.read (offset - 3)
    let opCode ← combinedVector.read (offset - 2)
    let gidSize ← combinedVector.read (offset - 1)
    match ServiceActionOpCode.ofByte? opCode with
    | none => return none
    | some serviceActionOpCode =>
        if combinedVector.length < offset + gidSize.toNat then return none
        else
          let uncompressedSize := match message.compressor with
            | .none => UInt32.ofNat (combinedVector.length - 5 - gidSize.toNat)
            | _ => message.uncompressedSize
          let converted ← ofCombinedVector message.channel message.compressor uncompressedSize
            serviceActionChannel serviceActionOpCode combinedVector
          return some converted

/-- The size of the gid is written as one byte, whatever it is. -/
def forServiceAction (serviceActionChannel : UInt8) (serviceActionOpCode : ServiceActionOpCode)
    (data gID : Bytes) : Except Fault ServiceActionMessage :=
  ofCombinedVector OpCode.serviceAction.toByte .none (UInt32.ofNat data.length)
    serviceActionChannel serviceActionOpCode
    ([OpCode.serviceAction.toByte, Compressor.none.toByte, serviceActionChannel,
      serviceActionOpCode.toByte, UInt8.ofNat gID.length] ++ gID ++ data)

def getData (message : ServiceActionMessage) : Bytes :=
  message.data.bytes message.combinedVector

def getGID (message : ServiceActionMessage) : Bytes :=
  message.gID.bytes message.combinedVector

/-- The bytes of the gid and a zero byte: the key of a handle. -/
def getGIDString (message : ServiceActionMessage) : Bytes :=
  message.getGID ++ [0]

def isServiceActionOpCode (message : ServiceActionMessage)
    (serviceActionOpCode : ServiceActionOpCode) : Bool :=
  message.serviceActionOpCode == serviceActionOpCode

/-- The uncompressed header and gid are written over the compressed ones, then
the data follows and both spans are set anew. -/
def store (message : ServiceActionMessage) (data : Bytes) : ServiceActionMessage :=
  let gidSize := message.gID.size
  let withHeader := message.combinedVector.overlay 1 [Compressor.none.toByte,
    message.serviceActionChannel, message.serviceActionOpCode.toByte, UInt8.ofNat gidSize]
  let withGID := withHeader.overlay 5 (message.gID.bytes withHeader)
  let resized := withGID.resize (5 + data.length + gidSize)
  { message with
    compressor := .none
    combinedVector := resized.overlay (5 + gidSize) data
    gID := ⟨5, gidSize⟩
    data := ⟨5 + gidSize, data.length⟩ }

instance : MessageBase ServiceActionMessage where
  channel := ServiceActionMessage.channel
  compressor := ServiceActionMessage.compressor
  uncompressedSize := ServiceActionMessage.uncompressedSize
  getSrc := ServiceActionMessage.getData
  getCombinedVector := ServiceActionMessage.combinedVector
  compressedHeader := fun message compressor size =>
    [message.channel, compressor.toByte] ++ Bytes.encodeWord size ++
      [message.serviceActionChannel, message.serviceActionOpCode.toByte,
        UInt8.ofNat message.getGID.length] ++ message.getGID
  store := fun message data => .ok (message.store data)

/-- What a vector carries behind its basic header, laid out by a gid of a size
that fits its byte. -/
def extendedHeader (serviceActionChannel : UInt8)
    (serviceActionOpCode : ServiceActionOpCode) (gID : Bytes) : Bytes :=
  [serviceActionChannel, serviceActionOpCode.toByte, UInt8.ofNat gID.length]

theorem toNat_gidSize (gID : Bytes) (hsize : gID.length ≤ 255) :
    (UInt8.ofNat gID.length).toNat = gID.length := by
  simpa using (by omega : gID.length < 256)

/-- The constructor on a well-formed vector points its spans at gid and
data. -/
theorem ofCombinedVector_ok (channel : UInt8) (compressor : Compressor) (size : UInt32)
    (s : UInt8) (o : ServiceActionOpCode) (front gID data : Bytes)
    (hfront : front.length + 3 = gidOffset compressor) (hsize : gID.length ≤ 255) :
    ofCombinedVector channel compressor size s o
        (front ++ extendedHeader s o gID ++ gID ++ data) =
      .ok ⟨channel, compressor, size, front ++ extendedHeader s o gID ++ gID ++ data, s, o,
        ⟨gidOffset compressor, gID.length⟩,
        ⟨gidOffset compressor + gID.length, data.length⟩⟩ := by
  have hread : Bytes.read (front ++ extendedHeader s o gID ++ gID ++ data)
      (front.length + 3 - 1) = .ok (UInt8.ofNat gID.length) := by
    have h := Bytes.read_append (front ++ [s, o.toByte]) (gID ++ data)
      (UInt8.ofNat gID.length)
    simpa [extendedHeader] using h
  have hlength : (front ++ extendedHeader s o gID ++ gID ++ data).length =
      front.length + 3 + gID.length + data.length := by
    simp [extendedHeader]
    omega
  have hheader := Bytes.subSize_eq_ok (front.length + 3 + gID.length + data.length)
    (front.length + 3) (by omega)
  have hgid := Bytes.subSize_eq_ok (front.length + 3 + gID.length + data.length -
    (front.length + 3)) gID.length (by omega)
  have hdata : front.length + 3 + gID.length + data.length - (front.length + 3) -
      gID.length = data.length := by omega
  simp only [ofCombinedVector, ← hfront, hread, hlength, hheader, bind, Except.bind,
    toNat_gidSize gID hsize, hgid, pure, Except.pure, hdata]

/-- Reading back the extended header of a well-formed vector. -/
theorem fromMessage_ok (message : RclMessage) (s : UInt8) (o : ServiceActionOpCode)
    (front gID data : Bytes) (hfront : front.length + 3 = gidOffset message.compressor)
    (hvector : message.getCombinedVector = front ++ extendedHeader s o gID ++ gID ++ data)
    (hgid : 1 ≤ gID.length) (hsize : gID.length ≤ 255) :
    ∃ size, (message.compressor ≠ .none → size = message.uncompressedSize) ∧
      fromMessage message = .ok (some ⟨message.channel, message.compressor, size,
        front ++ extendedHeader s o gID ++ gID ++ data, s, o,
        ⟨gidOffset message.compressor, gID.length⟩,
        ⟨gidOffset message.compressor + gID.length, data.length⟩⟩) := by
  have hlength : (front ++ extendedHeader s o gID ++ gID ++ data).length =
      front.length + 3 + gID.length + data.length := by
    simp [extendedHeader]
    omega
  have hchannel : Bytes.read (front ++ extendedHeader s o gID ++ gID ++ data)
      (front.length + 3 - 3) = .ok s := by
    have h := Bytes.read_append front ([o.toByte, UInt8.ofNat gID.length] ++ gID ++ data) s
    simpa [extendedHeader] using h
  have hopCode : Bytes.read (front ++ extendedHeader s o gID ++ gID ++ data)
      (front.length + 3 - 2) = .ok o.toByte := by
    have h := Bytes.read_append (front ++ [s])
      ([UInt8.ofNat gID.length] ++ gID ++ data) o.toByte
    simpa [extendedHeader] using h
  have hgidSize : Bytes.read (front ++ extendedHeader s o gID ++ gID ++ data)
      (front.length + 3 - 1) = .ok (UInt8.ofNat gID.length) := by
    have h := Bytes.read_append (front ++ [s, o.toByte]) (gID ++ data)
      (UInt8.ofNat gID.length)
    simpa [extendedHeader] using h
  have hlong : ¬ front.length + 3 + gID.length + data.length < front.length + 3 + 1 := by
    omega
  have hfits : ¬ front.length + 3 + gID.length + data.length <
      front.length + 3 + gID.length := by omega
  refine ⟨match message.compressor with
    | .none => UInt32.ofNat ((front ++ extendedHeader s o gID ++ gID ++ data).length - 5 -
        gID.length)
    | _ => message.uncompressedSize, ?_, ?_⟩
  · intro hcompressed
    cases hcompressor : message.compressor with
    | none => exact absurd hcompressor hcompressed
    | lz4Default | lz4Hc | zlib => rfl
  · have hconstructed := fun size => ofCombinedVector_ok message.channel message.compressor
      size s o front gID data hfront hsize
    simp only [fromMessage, RclMessage.getCopiedCombinedVector, hvector, ← hfront, hlength,
      if_neg hlong, hchannel, hopCode, hgidSize, bind, Except.bind,
      ServiceActionOpCode.ofByte_toByte, toNat_gidSize gID hsize, if_neg hfits]
    simp only [hconstructed, pure, Except.pure, hfront]

/-- The conversion reads inside the vector, whatever was received. -/
theorem fromMessage_safe (message : RclMessage) :
    ∃ converted, fromMessage message = .ok converted := by
  by_cases hshort : message.getCombinedVector.length < gidOffset message.compressor + 1
  · exact ⟨none, by simp [fromMessage, RclMessage.getCopiedCombinedVector, hshort, pure,
      Except.pure]⟩
  · have hlong : gidOffset message.compressor < message.getCombinedVector.length := by omega
    have hchannel := Bytes.read_eq_ok message.getCombinedVector
      (gidOffset message.compressor - 3) (by omega)
    have hopCode := Bytes.read_eq_ok message.getCombinedVector
      (gidOffset message.compressor - 2) (by omega)
    have hgidSize := Bytes.read_eq_ok message.getCombinedVector
      (gidOffset message.compressor - 1) (by omega)
    simp only [fromMessage, RclMessage.getCopiedCombinedVector, if_neg hshort, hchannel,
      hopCode, hgidSize, bind, Except.bind, pure, Except.pure]
    cases ServiceActionOpCode.ofByte? message.getCombinedVector[
        gidOffset message.compressor - 2] with
    | none => exact ⟨none, rfl⟩
    | some serviceActionOpCode =>
        by_cases hfits : message.getCombinedVector.length < gidOffset message.compressor +
            message.getCombinedVector[gidOffset message.compressor - 1].toNat
        · exact ⟨none, if_pos hfits⟩
        · have hheader := Bytes.subSize_eq_ok message.getCombinedVector.length
            (gidOffset message.compressor) (by omega)
          have hgid := Bytes.subSize_eq_ok (message.getCombinedVector.length -
            gidOffset message.compressor) (message.getCombinedVector[
              gidOffset message.compressor - 1]).toNat (by omega)
          simp only [ofCombinedVector, hgidSize, bind, Except.bind, hheader, hgid, pure,
            Except.pure]
          exact ⟨_, if_neg hfits⟩

/-- The spans of a message show its gid, behind the header its layout asks for,
and everything behind the gid. -/
structure Laid (message : ServiceActionMessage) : Prop where
  fits : gidOffset message.compressor + message.gID.size ≤ message.combinedVector.length
  gID : message.gID.offset = gidOffset message.compressor
  data : message.data = ⟨gidOffset message.compressor + message.gID.size,
    message.combinedVector.length - gidOffset message.compressor - message.gID.size⟩

theorem ofCombinedVector_laid {channel : UInt8} {compressor : Compressor} {size : UInt32}
    {s : UInt8} {o : ServiceActionOpCode} {combinedVector : Bytes}
    {message : ServiceActionMessage}
    (h : ofCombinedVector channel compressor size s o combinedVector = .ok message) :
    message.Laid := by
  simp only [ofCombinedVector, bind_eq_ok, pure_eq_ok] at h
  obtain ⟨gidSize, -, behindHeader, hheader, dataSize, hgid, rfl⟩ := h
  obtain ⟨hlong, rfl⟩ := Bytes.le_of_subSize_eq_ok hheader
  obtain ⟨hfits, rfl⟩ := Bytes.le_of_subSize_eq_ok hgid
  exact ⟨by simp only; omega, rfl, rfl⟩

/-- What the conversion passes to the constructor. -/
theorem fromMessage_eq_some {source : RclMessage} {message : ServiceActionMessage}
    (h : fromMessage source = .ok (some message)) :
    ∃ size s o, ofCombinedVector source.channel source.compressor size s o
      source.getCopiedCombinedVector = .ok message := by
  by_cases hshort : source.getCopiedCombinedVector.length < gidOffset source.compressor + 1
  · simp only [fromMessage] at h
    rw [if_pos hshort] at h
    cases h
  · simp only [fromMessage] at h
    rw [if_neg hshort] at h
    simp only [bind_eq_ok] at h
    obtain ⟨s, -, opCode, -, gidSize, -, h⟩ := h
    cases hopCode : ServiceActionOpCode.ofByte? opCode with
    | none =>
        simp only [hopCode] at h
        cases h
    | some o =>
        simp only [hopCode] at h
        by_cases hgid : source.getCopiedCombinedVector.length <
            gidOffset source.compressor + gidSize.toNat
        · simp only [if_pos hgid, pure_eq_ok] at h
          cases h
        · simp only [if_neg hgid, bind_eq_ok, pure_eq_ok] at h
          obtain ⟨converted, hconverted, hsome⟩ := h
          cases hsome
          exact ⟨_, s, o, hconverted⟩

theorem fromMessage_laid {source : RclMessage} {message : ServiceActionMessage}
    (h : fromMessage source = .ok (some message)) : message.Laid := by
  obtain ⟨_, _, _, hconstructed⟩ := fromMessage_eq_some h
  exact ofCombinedVector_laid hconstructed

/-- Storing data into a message in the compressed layout leaves gid, channel and
op-code and shows the data. -/
theorem store_compressed (message : ServiceActionMessage) (front gID rest data : Bytes)
    (hvector : message.combinedVector = front ++ gID ++ rest) (hfront : front.length = 9)
    (hspan : message.gID = ⟨9, gID.length⟩) :
    (message.store data).getData = data ∧ (message.store data).getGID = gID := by
  let header : Bytes := message.combinedVector.take 1 ++ [Compressor.none.toByte,
    message.serviceActionChannel, message.serviceActionOpCode.toByte, UInt8.ofNat gID.length]
  have hheader : header.length = 5 := by
    simp only [header, hvector, List.length_append, List.length_take, List.length_cons,
      List.length_nil, hfront]
    omega
  have hwithHeader : message.combinedVector.overlay 1 [Compressor.none.toByte,
      message.serviceActionChannel, message.serviceActionOpCode.toByte,
      UInt8.ofNat gID.length] = header ++ message.combinedVector.drop 5 := rfl
  have hread : (Span.mk 9 gID.length).bytes (header ++ message.combinedVector.drop 5) =
      gID := by
    have hdrop : (header ++ message.combinedVector.drop 5).drop 9 = gID ++ rest := by
      have hbehind : header.drop 9 = [] := List.drop_eq_nil_of_le (by omega)
      rw [List.drop_append, hbehind, List.nil_append, List.drop_drop, hheader, hvector,
        List.append_assoc, ← hfront, List.drop_left' (by omega)]
    simp [Span.bytes, hdrop]
  have hwithGID : (header ++ message.combinedVector.drop 5).overlay 5 gID =
      header ++ gID ++ (message.combinedVector.drop 5).drop gID.length := by
    have h := Bytes.overlay_append header (message.combinedVector.drop 5) gID
    rwa [hheader] at h
  have hstored : (message.store data).combinedVector = header ++ gID ++ data := by
    have h := Bytes.overlay_resize_append (header ++ gID)
      ((message.combinedVector.drop 5).drop gID.length) data
    rw [List.length_append, hheader] at h
    simp only [store, hspan, hwithHeader, hread, hwithGID]
    rw [show 5 + data.length + gID.length = 5 + gID.length + data.length by omega]
    exact h
  have hgID : (message.store data).gID = ⟨header.length, gID.length⟩ := by
    rw [hheader]
    simp [store, hspan]
  have hdata : (message.store data).data = ⟨(header ++ gID).length, data.length⟩ := by
    rw [List.length_append, hheader]
    simp [store, hspan]
  constructor
  · rw [getData, hdata, hstored, Span.bytes_append_end]
  · rw [getGID, hgID, hstored, Span.bytes_append]

theorem Laid.store {message : ServiceActionMessage} (h : message.Laid)
    (hcompressed : message.compressor ≠ .none) (data : Bytes) :
    (message.store data).getData = data ∧ (message.store data).getGID = message.getGID := by
  have hoffset := gidOffset_of_compressed hcompressed
  have hfits := h.fits
  have hgID := h.gID
  rw [hoffset] at hfits hgID
  have hfront : (message.combinedVector.take 9).length = 9 := by
    rw [List.length_take]
    omega
  have hshown : message.getGID = (message.combinedVector.drop 9).take message.gID.size := by
    rw [getGID, Span.bytes, hgID]
  have hlength : message.getGID.length = message.gID.size := by
    rw [hshown, List.length_take, List.length_drop]
    omega
  have hvector : message.combinedVector = message.combinedVector.take 9 ++ message.getGID ++
      (message.combinedVector.drop 9).drop message.gID.size := by
    rw [hshown, List.append_assoc, List.take_append_drop, List.take_append_drop]
  apply store_compressed message _ _ _ data hvector hfront
  rw [hlength, ← hgID]

/-- What `forServiceAction` builds. -/
theorem forServiceAction_ok (s : UInt8) (o : ServiceActionOpCode) (data gID : Bytes)
    (hsize : gID.length ≤ 255) :
    forServiceAction s o data gID =
      .ok ⟨OpCode.serviceAction.toByte, .none, UInt32.ofNat data.length,
        [OpCode.serviceAction.toByte, Compressor.none.toByte] ++ extendedHeader s o gID ++
          gID ++ data, s, o, ⟨5, gID.length⟩, ⟨5 + gID.length, data.length⟩⟩ :=
  ofCombinedVector_ok OpCode.serviceAction.toByte .none _ s o
    [OpCode.serviceAction.toByte, Compressor.none.toByte] gID data rfl hsize

end ServiceActionMessage

end Ros2Connect
