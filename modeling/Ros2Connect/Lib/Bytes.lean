import Mathlib.Tactic

/-!
Byte vectors as a program with raw memory sees them: reads, size subtractions
and copies that name the fault they would commit, and the two in-place writes
of a vector, `overlay` (a copy into it) and `resize`. Nothing here knows what
the bytes mean. The last part is the little-endian coding of a 32-bit word.
-/

namespace Ros2Connect.Lib

section Except

variable {ε α β : Type}

theorem bind_eq_ok {x : Except ε α} {f : α → Except ε β} {b : β} :
    x >>= f = .ok b ↔ ∃ a, x = .ok a ∧ f a = .ok b := by
  cases x with
  | error e => exact ⟨nofun, fun ⟨_, h, _⟩ => nomatch h⟩
  | ok a => exact ⟨fun h => ⟨a, rfl, h⟩, fun ⟨_, ha, h⟩ => by cases ha; exact h⟩

theorem pure_eq_ok {a b : α} : (pure a : Except ε α) = .ok b ↔ a = b :=
  ⟨fun h => Except.ok.inj h, fun h => congrArg Except.ok h⟩

end Except

abbrev Bytes := List UInt8

/-- What an unchecked access would have done: read past the end of a buffer,
or subtract past zero in an unsigned size. -/
inductive Fault where
  | outOfBounds (index size : Nat)
  | wrapAround (minuend subtrahend : Nat)
  deriving Repr, DecidableEq

namespace Bytes

/-- `data[index]`. -/
def read (data : Bytes) (index : Nat) : Except Fault UInt8 :=
  match data[index]? with
  | some byte => .ok byte
  | none => .error (.outOfBounds index data.length)

/-- The unsigned difference `size - count`. -/
def subSize (size count : Nat) : Except Fault Nat :=
  if count ≤ size then .ok (size - count) else .error (.wrapAround size count)

/-- The `count` bytes from `offset` on, as a copy out of the buffer reads
them. A copy of no bytes reads nothing. -/
def copyOut (data : Bytes) (offset count : Nat) : Except Fault Bytes :=
  if count = 0 ∨ offset + count ≤ data.length then .ok ((data.drop offset).take count)
  else .error (.outOfBounds (offset + count - 1) data.length)

/-- The bytes before the first NUL of a buffer of `size` bytes, read one after
the other. -/
def cStringIn (size : Nat) : Bytes → Except Fault Bytes
  | [] => .error (.outOfBounds size size)
  | byte :: rest => if byte = 0 then .ok [] else return byte :: (← cStringIn size rest)

/-- The C string at the start of the buffer. -/
def cString (data : Bytes) : Except Fault Bytes := cStringIn data.length data

theorem read_eq_ok (data : Bytes) (index : Nat) (h : index < data.length) :
    data.read index = .ok data[index] := by
  simp [read, List.getElem?_eq_getElem h]

/-- The byte that follows `front` is read at the length of `front`. -/
theorem read_append (front rest : Bytes) (byte : UInt8) :
    Bytes.read (front ++ byte :: rest) front.length = .ok byte := by
  simp [read]

theorem exists_read_eq_ok_iff (data : Bytes) (index : Nat) :
    (∃ byte, data.read index = .ok byte) ↔ index < data.length := by
  constructor
  · rintro ⟨byte, hbyte⟩
    by_contra hshort
    have hnone : data[index]? = none := List.getElem?_eq_none (Nat.le_of_not_lt hshort)
    simp only [read, hnone] at hbyte
    cases hbyte
  · exact fun hlong => ⟨_, read_eq_ok data index hlong⟩

theorem cStringIn_eq_ok_iff (size : Nat) (data string : Bytes) :
    cStringIn size data = .ok string ↔ 0 ∈ data ∧ string = data.takeWhile (· != 0) := by
  induction data generalizing string with
  | nil => simp [cStringIn]
  | cons byte rest ih =>
      by_cases hbyte : byte = 0
      · subst byte
        have hempty : ((0 : UInt8) :: rest).takeWhile (· != 0) = [] := rfl
        simp only [cStringIn, if_true, Except.ok.injEq, List.mem_cons, true_or, true_and,
          hempty]
        exact eq_comm
      · simp only [cStringIn, hbyte, if_false, bind_eq_ok, pure_eq_ok, ih]
        constructor
        · rintro ⟨tail, ⟨hend, rfl⟩, rfl⟩
          exact ⟨List.mem_cons_of_mem byte hend, by simp [hbyte]⟩
        · rintro ⟨hend, rfl⟩
          have hrest : 0 ∈ rest := (List.mem_cons.mp hend).resolve_left (Ne.symm hbyte)
          exact ⟨_, ⟨hrest, rfl⟩, by simp [hbyte]⟩

/-- The string is read inside the buffer exactly if a NUL ends it there. -/
theorem cString_eq_ok_iff (data string : Bytes) :
    data.cString = .ok string ↔ 0 ∈ data ∧ string = data.takeWhile (· != 0) :=
  cStringIn_eq_ok_iff data.length data string

theorem subSize_eq_ok (size count : Nat) (h : count ≤ size) :
    subSize size count = .ok (size - count) := by
  simp [subSize, h]

theorem le_of_subSize_eq_ok {size count rest : Nat} (h : subSize size count = .ok rest) :
    count ≤ size ∧ rest = size - count := by
  unfold subSize at h
  split at h
  · cases h
    exact ⟨‹_›, rfl⟩
  · cases h

theorem copyOut_rest (data : Bytes) (offset : Nat) (h : offset ≤ data.length) :
    data.copyOut offset (data.length - offset) = .ok (data.drop offset) := by
  have hfits : offset + (data.length - offset) ≤ data.length := by omega
  have htake : (data.drop offset).take (data.length - offset) = data.drop offset :=
    List.take_of_length_le (by simp)
  simp [copyOut, hfits, htake]

/-- A freshly allocated vector. -/
def zeros (size : Nat) : Bytes := List.replicate size 0

/-- The vector after `source` was copied over it from `offset` on. -/
def overlay (target : Bytes) (offset : Nat) (source : Bytes) : Bytes :=
  target.take offset ++ source ++ target.drop (offset + source.length)

/-- The vector after a resize: cut off, or filled up with zero bytes. -/
def resize (target : Bytes) (size : Nat) : Bytes :=
  target.take size ++ zeros (size - target.length)

@[simp] theorem length_zeros (size : Nat) : (zeros size).length = size := by
  simp [zeros]

@[simp] theorem length_resize (target : Bytes) (size : Nat) :
    (target.resize size).length = size := by
  simp only [resize, List.length_append, List.length_take, length_zeros]
  omega

/-- Copying over the part of a vector behind `front` leaves `front` alone. -/
theorem overlay_append (front target source : Bytes) :
    overlay (front ++ target) front.length source =
      front ++ source ++ target.drop source.length := by
  simp [overlay, List.drop_append]

theorem resize_append (front rest : Bytes) :
    resize (front ++ rest) front.length = front := by
  simp [resize, zeros]

/-- A vector whose first part already holds `front`, overwritten behind it by
`source` and cut to both, is exactly these two. -/
theorem resize_overlay_append (front target source : Bytes) :
    resize (overlay (front ++ target) front.length source)
      (front.length + source.length) = front ++ source := by
  rw [overlay_append, ← List.length_append]
  exact resize_append (front ++ source) _

theorem resize_append_of_le (front target : Bytes) (size : Nat) :
    resize (front ++ target) (front.length + size) = front ++ resize target size := by
  simp [resize, List.take_append, Nat.add_sub_add_left]

/-- A vector whose first part already holds `front`, resized to take `source`
and overwritten behind `front`, is exactly these two. -/
theorem overlay_resize_append (front target source : Bytes) :
    overlay (resize (front ++ target) (front.length + source.length)) front.length source =
      front ++ source := by
  have hdrop : (resize target source.length).drop source.length = [] :=
    List.drop_eq_nil_of_le (by rw [length_resize])
  rw [resize_append_of_le, overlay_append, hdrop, List.append_nil]

/-- A whole vector overwritten by as many bytes holds exactly these. -/
theorem overlay_zeros (source : Bytes) :
    overlay (zeros source.length) 0 source = source := by
  simp [overlay, zeros]

/-- The four bytes of a word, least significant first. -/
def encodeWord (word : UInt32) : Bytes :=
  [(word &&& 0xFF).toUInt8, ((word >>> 8) &&& 0xFF).toUInt8,
    ((word >>> 16) &&& 0xFF).toUInt8, ((word >>> 24) &&& 0xFF).toUInt8]

def decodeWord (b0 b1 b2 b3 : UInt8) : UInt32 :=
  b0.toUInt32 ||| (b1.toUInt32 <<< 8) ||| (b2.toUInt32 <<< 16) ||| (b3.toUInt32 <<< 24)

@[simp] theorem length_encodeWord (word : UInt32) : (encodeWord word).length = 4 := rfl

private theorem lowByte_toUInt32 (word : UInt32) :
    (word &&& 0xFF).toUInt8.toUInt32 = word &&& 0xFF := by
  apply UInt32.toNat_inj.mp
  have h : word.toNat &&& 255 = word.toNat % 256 :=
    Nat.and_two_pow_sub_one_eq_mod word.toNat 8
  simp only [UInt8.toNat_toUInt32, UInt32.toNat_toUInt8, UInt32.toNat_and,
    UInt32.reduceToNat]
  rw [h]
  omega

/-- Reading the four bytes back gives the word. -/
theorem decode_encodeWord (word : UInt32) :
    decodeWord (word &&& 0xFF).toUInt8 ((word >>> 8) &&& 0xFF).toUInt8
      ((word >>> 16) &&& 0xFF).toUInt8 ((word >>> 24) &&& 0xFF).toUInt8 = word := by
  unfold decodeWord
  rw [lowByte_toUInt32, lowByte_toUInt32, lowByte_toUInt32, lowByte_toUInt32]
  apply UInt32.toBitVec_inj.mp
  apply BitVec.eq_of_getLsbD_eq
  intro i hi
  interval_cases i <;> simp

private theorem lowByte_toUInt8 (word : UInt32) : (word &&& 0xFF).toUInt8 = word.toUInt8 := by
  rw [← UInt8.toUInt32_inj, lowByte_toUInt32]
  apply UInt32.toNat_inj.mp
  have h : word.toNat &&& 255 = word.toNat % 256 :=
    Nat.and_two_pow_sub_one_eq_mod word.toNat 8
  simpa using h

/-- The word of four bytes is written as these. -/
theorem encode_decodeWord (b0 b1 b2 b3 : UInt8) :
    encodeWord (decodeWord b0 b1 b2 b3) = [b0, b1, b2, b3] := by
  unfold encodeWord decodeWord
  simp only [lowByte_toUInt8, List.cons.injEq, and_true]
  refine ⟨?_, ?_, ?_, ?_⟩ <;>
    · apply UInt8.toBitVec_inj.mp
      apply BitVec.eq_of_getLsbD_eq
      intro i hi
      interval_cases i <;> simp

end Bytes

/-- A window into a vector. -/
structure Span where
  offset : Nat
  size : Nat
  deriving Repr, DecidableEq

namespace Span

/-- The bytes a span shows of the vector it points into. -/
def bytes (span : Span) (vector : Bytes) : Bytes :=
  (vector.drop span.offset).take span.size

theorem bytes_append (front part rest : Bytes) :
    (Span.mk front.length part.length).bytes (front ++ part ++ rest) = part := by
  simp [bytes]

theorem bytes_append_end (front part : Bytes) :
    (Span.mk front.length part.length).bytes (front ++ part) = part := by
  simp [bytes]

end Span

end Ros2Connect.Lib
