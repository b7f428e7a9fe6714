import Ros2Connect.Message.ServiceActionMessage

/-!
`fromMessage` on a received frame: when it refuses the frame, and what a message
it builds shows of it. The checks of `fromMessage` and the offsets of the
constructor are two pieces of code; here they are compared for every length of
the frame and every size a peer writes for the gid.
-/

namespace Ros2Connect

open Lib

/-- `SERVICE_ACTION_OP_CODE_MAX`. -/
def serviceActionOpCodeMax : UInt8 := 13

theorem ServiceActionOpCode.ofByte_eq_none_iff (byte : UInt8) :
    ofByte? byte = none ↔ serviceActionOpCodeMax < byte := by
  rw [ofByte?, List.getElem?_eq_none_iff, UInt8.lt_iff_toNat_lt]
  exact Nat.succ_le_iff

theorem ServiceActionOpCode.toByte_of_ofByte {byte : UInt8} {opCode : ServiceActionOpCode}
    (h : ofByte? byte = some opCode) : byte = opCode.toByte := by
  obtain ⟨hindex, hopCode⟩ := List.getElem?_eq_some_iff.mp h
  have hbyte : byte.toNat < 14 := hindex
  apply UInt8.toNat_inj.mp
  subst hopCode
  interval_cases byte.toNat <;> rfl

namespace ServiceActionMessage

/-- The frame is too short for an extended header and one byte of the gid, it
names no op-code, or it ends before the gid does. -/
def Refused (compressor : Compressor) (frame : Bytes) : Prop :=
  frame.length < gidOffset compressor + 1 ∨
    (∃ opCode, frame[gidOffset compressor - 2]? = some opCode ∧
      serviceActionOpCodeMax < opCode) ∨
    ∃ gidSize, frame[gidOffset compressor - 1]? = some gidSize ∧
      frame.length < gidOffset compressor + gidSize.toNat

/-- The message has the bytes of the extended header, and its spans cut the rest
of the frame in two. -/
structure Shows (compressor : Compressor) (frame : Bytes) (message : ServiceActionMessage) :
    Prop where
  combinedVector : message.combinedVector = frame
  serviceActionChannel :
    frame[gidOffset compressor - 3]? = some message.serviceActionChannel
  serviceActionOpCode :
    frame[gidOffset compressor - 2]? = some message.serviceActionOpCode.toByte
  gidSize : ∃ gidSize, frame[gidOffset compressor - 1]? = some gidSize ∧
    message.gID.size = gidSize.toNat
  gidStart : message.gID.offset = gidOffset compressor
  gidEnd : message.gID.offset + message.gID.size = message.data.offset
  dataEnd : message.data.offset + message.data.size = frame.length
  rest : message.getGID ++ message.getData = frame.drop (gidOffset compressor)

/-- A span that starts where another ends continues its bytes. -/
theorem bytes_append_bytes (first second : Span) (vector : Bytes)
    (hstart : first.offset + first.size = second.offset)
    (hend : second.offset + second.size = vector.length) :
    first.bytes vector ++ second.bytes vector = vector.drop first.offset := by
  have hsecond : (vector.drop second.offset).take second.size = vector.drop second.offset :=
    List.take_of_length_le (by rw [List.length_drop]; omega)
  rw [Span.bytes, Span.bytes, hsecond, ← hstart, ← List.drop_drop, List.take_append_drop]

/-- The constructor on a vector that holds the gid it states. -/
theorem ofCombinedVector_of_fits (channel : UInt8) (compressor : Compressor) (size : UInt32)
    (s : UInt8) (o : ServiceActionOpCode) {vector : Bytes} {gidSize : UInt8}
    (hgidSize : vector[gidOffset compressor - 1]? = some gidSize)
    (hfits : gidOffset compressor + gidSize.toNat ≤ vector.length) :
    ofCombinedVector channel compressor size s o vector =
      .ok ⟨channel, compressor, size, vector, s, o, ⟨gidOffset compressor, gidSize.toNat⟩,
        ⟨gidOffset compressor + gidSize.toNat,
          vector.length - gidOffset compressor - gidSize.toNat⟩⟩ := by
  have hread : vector.read (gidOffset compressor - 1) = .ok gidSize := by
    rw [Bytes.read, hgidSize]
  have hheader := Bytes.subSize_eq_ok vector.length (gidOffset compressor) (by omega)
  have hgid := Bytes.subSize_eq_ok (vector.length - gidOffset compressor) gidSize.toNat
    (by omega)
  simp only [ofCombinedVector, hread, hheader, hgid, bind, Except.bind, pure, Except.pure]

/-- The conversion of a vector that is long enough, by the three bytes it
reads. -/
theorem fromMessage_of_header (source : RclMessage) {s opCode gidSize : UInt8}
    (hlong : ¬ source.getCombinedVector.length < gidOffset source.compressor + 1)
    (hs : source.getCombinedVector[gidOffset source.compressor - 3]? = some s)
    (hopCode : source.getCombinedVector[gidOffset source.compressor - 2]? = some opCode)
    (hgidSize : source.getCombinedVector[gidOffset source.compressor - 1]? = some gidSize) :
    ∃ size, fromMessage source =
      match ServiceActionOpCode.ofByte? opCode with
      | none => .ok none
      | some o =>
          if source.getCombinedVector.length < gidOffset source.compressor + gidSize.toNat
          then .ok none
          else (ofCombinedVector source.channel source.compressor size s o
            source.getCombinedVector).map some := by
  have hread (index : Nat) (byte : UInt8)
      (hbyte : source.getCombinedVector[index]? = some byte) :
      source.getCombinedVector.read index = .ok byte := by
    rw [Bytes.read, hbyte]
  simp only [fromMessage, RclMessage.getCopiedCombinedVector, if_neg hlong, hread _ _ hs,
    hread _ _ hopCode, hread _ _ hgidSize, bind, Except.bind, pure, Except.pure]
  cases ServiceActionOpCode.ofByte? opCode with
  | none => exact ⟨0, rfl⟩
  | some o => exact ⟨_, rfl⟩

/-- A vector that names an op-code and holds its gid is not refused. -/
theorem not_refused {compressor : Compressor} {vector : Bytes} {o : ServiceActionOpCode}
    {gidSize : UInt8} (hlong : ¬ vector.length < gidOffset compressor + 1)
    (hopCode : vector[gidOffset compressor - 2]? = some o.toByte)
    (hknown : ServiceActionOpCode.ofByte? o.toByte = some o)
    (hgidSize : vector[gidOffset compressor - 1]? = some gidSize)
    (hfits : gidOffset compressor + gidSize.toNat ≤ vector.length) :
    ¬ Refused compressor vector := by
  rintro (hshort | ⟨byte, hbyte, hbig⟩ | ⟨byte, hbyte, hend⟩)
  · exact hlong hshort
  · obtain rfl := Option.some.inj (hopCode.symm.trans hbyte)
    have hnone := (ServiceActionOpCode.ofByte_eq_none_iff o.toByte).mpr hbig
    rw [hknown] at hnone
    cases hnone
  · obtain rfl := Option.some.inj (hgidSize.symm.trans hbyte)
    omega

/-- What the constructor makes of a vector that holds its gid shows the vector. -/
theorem shows_of_fits {channel : UInt8} {compressor : Compressor} {size : UInt32} {s : UInt8}
    {o : ServiceActionOpCode} {vector : Bytes} {gidSize : UInt8}
    (hs : vector[gidOffset compressor - 3]? = some s)
    (hopCode : vector[gidOffset compressor - 2]? = some o.toByte)
    (hgidSize : vector[gidOffset compressor - 1]? = some gidSize)
    (hfits : gidOffset compressor + gidSize.toNat ≤ vector.length) :
    Shows compressor vector
      ⟨channel, compressor, size, vector, s, o, ⟨gidOffset compressor, gidSize.toNat⟩,
        ⟨gidOffset compressor + gidSize.toNat,
          vector.length - gidOffset compressor - gidSize.toNat⟩⟩ := by
  have hend : gidOffset compressor + gidSize.toNat +
      (vector.length - gidOffset compressor - gidSize.toNat) = vector.length := by omega
  exact {
    combinedVector := rfl
    serviceActionChannel := hs
    serviceActionOpCode := hopCode
    gidSize := ⟨gidSize, hgidSize, rfl⟩
    gidStart := rfl
    gidEnd := rfl
    dataEnd := hend
    rest := bytes_append_bytes _ _ _ rfl hend }

/-- The conversion refuses the vector or shows it, and always returns. -/
theorem fromMessage_cases (source : RclMessage) :
    (fromMessage source = .ok none ∧ Refused source.compressor source.getCombinedVector) ∨
    ∃ message, fromMessage source = .ok (some message) ∧
      ¬ Refused source.compressor source.getCombinedVector ∧
      Shows source.compressor source.getCombinedVector message := by
  by_cases hshort : source.getCombinedVector.length < gidOffset source.compressor + 1
  · refine Or.inl ⟨?_, Or.inl hshort⟩
    simp [fromMessage, RclMessage.getCopiedCombinedVector, hshort, pure, Except.pure]
  · have hbyte (back : Nat) : ∃ byte,
        source.getCombinedVector[gidOffset source.compressor - back]? = some byte :=
      ⟨_, List.getElem?_eq_getElem (by omega)⟩
    obtain ⟨s, hs⟩ := hbyte 3
    obtain ⟨opCode, hopCode⟩ := hbyte 2
    obtain ⟨gidSize, hgidSize⟩ := hbyte 1
    obtain ⟨size, hrun⟩ := fromMessage_of_header source hshort hs hopCode hgidSize
    rw [hrun]
    cases hknown : ServiceActionOpCode.ofByte? opCode with
    | none =>
        have hbig := (ServiceActionOpCode.ofByte_eq_none_iff opCode).mp hknown
        exact Or.inl ⟨rfl, Or.inr (Or.inl ⟨opCode, hopCode, hbig⟩)⟩
    | some o =>
        obtain rfl := ServiceActionOpCode.toByte_of_ofByte hknown
        by_cases htruncated : source.getCombinedVector.length <
            gidOffset source.compressor + gidSize.toNat
        · exact Or.inl ⟨if_pos htruncated, Or.inr (Or.inr ⟨gidSize, hgidSize, htruncated⟩)⟩
        · have hfits : gidOffset source.compressor + gidSize.toNat ≤
              source.getCombinedVector.length := by omega
          have hconstructed := ofCombinedVector_of_fits source.channel source.compressor size
            s o hgidSize hfits
          simp only [if_neg htruncated, hconstructed]
          exact Or.inr ⟨_, rfl, not_refused hshort hopCode hknown hgidSize hfits,
            shows_of_fits hs hopCode hgidSize hfits⟩

/-- On a frame with a known compressor and a complete header, nothing is read
outside the frame and no size wraps; the frame is refused exactly for its length,
its op-code or its gid, and shown otherwise. -/
theorem fromMessage_frame (frame : Bytes) (compressor : Compressor)
    (hbyte : frame[1]? = some compressor.toByte) (hheader : RclMessage.HeaderFits frame) :
    ∃ source converted, RclMessage.fromFlatBuffer frame = .ok source ∧
      fromMessage source = .ok converted ∧
      (converted = none ↔ Refused compressor frame) ∧
      ∀ message, converted = some message → Shows compressor frame message := by
  obtain ⟨source, hsource, rfl, hvector⟩ := RclMessage.fromFlatBuffer_known hbyte hheader
  refine ⟨source, ?_⟩
  rcases fromMessage_cases source with ⟨hrun, hrefused⟩ | ⟨message, hrun, hrefused, hshows⟩
  · rw [hvector] at hrefused
    refine ⟨none, hsource, hrun, ⟨fun _ => hrefused, fun _ => rfl⟩, ?_⟩
    intro message hmessage
    cases hmessage
  · rw [hvector] at hrefused hshows
    refine ⟨some message, hsource, hrun, ⟨?_, fun h => absurd h hrefused⟩, ?_⟩
    · intro hnone
      cases hnone
    · intro shown hshown
      cases hshown
      exact hshows

/-- A request of one byte with a gid of two, uncompressed. -/
theorem fromMessage_frame_request :
    ∃ source converted,
      RclMessage.fromFlatBuffer [251, 0, 4, 0, 2, 8, 9, 1] = .ok source ∧
      fromMessage source = .ok converted ∧
      (converted = none ↔ Refused .none [251, 0, 4, 0, 2, 8, 9, 1]) ∧
      ∀ message, converted = some message → Shows .none [251, 0, 4, 0, 2, 8, 9, 1] message :=
  fromMessage_frame [251, 0, 4, 0, 2, 8, 9, 1] .none rfl
    ((RclMessage.fromFlatBuffer_isOk_iff _).mp ⟨_, rfl⟩)

end ServiceActionMessage

end Ros2Connect
