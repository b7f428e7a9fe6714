import Ros2Connect.Lib.Bytes

/-!
Runs of writes into one vector, with what the language asks of each: an index
inside the vector, and for `memcpy` two ranges that fit and do not overlap. The
effect of a copy inside the vector is that of an overlap-safe move, so a run
also says what a program would get from a lenient library.
-/

namespace Ros2Connect.Lib

inductive VectorWrite where
  | set (index : Nat) (byte : UInt8)
  /-- `memcpy` from one range of the vector to another. -/
  | memcpyWithin (dst src count : Nat)
  /-- `memcpy` from a different vector. -/
  | memcpyFrom (dst : Nat) (source : Bytes) (count : Nat)
  | resize (size : Nat)
  deriving Repr, DecidableEq

namespace VectorWrite

def apply (vector : Bytes) : VectorWrite → Bytes
  | set index byte => List.set vector index byte
  | memcpyWithin dst src count => vector.overlay dst ((Span.mk src count).bytes vector)
  | memcpyFrom dst source count => vector.overlay dst (source.take count)
  | resize size => vector.resize size

/-- The ranges of `memcpy` lie inside their vectors and are disjoint. -/
def Allowed (vector : Bytes) : VectorWrite → Prop
  | set index _ => index < vector.length
  | memcpyWithin dst src count =>
      dst + count ≤ vector.length ∧ src + count ≤ vector.length ∧
        (dst + count ≤ src ∨ src + count ≤ dst)
  | memcpyFrom dst source count => dst + count ≤ vector.length ∧ count ≤ source.length
  | resize _ => True

def run (vector : Bytes) (writes : List VectorWrite) : Bytes :=
  writes.foldl apply vector

/-- Every write is allowed on the vector it meets. -/
def RunAllowed : Bytes → List VectorWrite → Prop
  | _, [] => True
  | vector, write :: rest => write.Allowed vector ∧ RunAllowed (apply vector write) rest

theorem run_append (vector : Bytes) (first second : List VectorWrite) :
    run vector (first ++ second) = run (run vector first) second :=
  List.foldl_append

theorem runAllowed_append (vector : Bytes) (first second : List VectorWrite) :
    RunAllowed vector (first ++ second) ↔
      RunAllowed vector first ∧ RunAllowed (run vector first) second := by
  induction first generalizing vector with
  | nil => simp [RunAllowed, run]
  | cons write rest ih =>
      simp only [List.cons_append, RunAllowed, ih, and_assoc]
      rfl

/-- The single-byte writes that fill the vector from `index` on. -/
def setAll : Nat → Bytes → List VectorWrite
  | _, [] => []
  | index, byte :: rest => set index byte :: setAll (index + 1) rest

theorem overlay_set (vector : Bytes) (index : Nat) (byte : UInt8) (rest : Bytes)
    (h : index < vector.length) :
    Bytes.overlay (List.set vector index byte) (index + 1) rest =
      vector.overlay index (byte :: rest) := by
  have hfront : (List.set vector index byte).take (index + 1) =
      vector.take index ++ [byte] := by
    rw [List.set_eq_take_append_cons_drop, if_pos h]
    have hlength : (vector.take index).length = index := by
      rw [List.length_take]
      omega
    rw [List.take_append, hlength, List.take_of_length_le (by omega)]
    simp
  have hback : (List.set vector index byte).drop (index + 1 + rest.length) =
      vector.drop (index + (byte :: rest).length) := by
    rw [List.drop_set_of_lt (by omega)]
    congr 1
    simp only [List.length_cons]
    omega
  rw [Bytes.overlay, Bytes.overlay, hfront, hback]
  simp

/-- Writing bytes one by one is writing them as one block. -/
theorem run_setAll (vector : Bytes) (index : Nat) (bytes : Bytes)
    (h : index + bytes.length ≤ vector.length) :
    run vector (setAll index bytes) = vector.overlay index bytes := by
  induction bytes generalizing vector index with
  | nil => simp [setAll, run, Bytes.overlay]
  | cons byte rest ih =>
      simp only [List.length_cons] at h
      have hset := overlay_set vector index byte rest (by omega)
      have hrest := ih (List.set vector index byte) (index + 1) (by rw [List.length_set]; omega)
      rw [← hset, ← hrest]
      rfl

theorem runAllowed_setAll (vector : Bytes) (index : Nat) (bytes : Bytes)
    (h : index + bytes.length ≤ vector.length) : RunAllowed vector (setAll index bytes) := by
  induction bytes generalizing vector index with
  | nil => trivial
  | cons byte rest ih =>
      simp only [List.length_cons] at h
      refine ⟨?_, ih _ _ ?_⟩
      · change index < vector.length
        omega
      · change index + 1 + rest.length ≤ (List.set vector index byte).length
        rw [List.length_set]
        omega

end VectorWrite

theorem Bytes.length_overlay (target : Bytes) (offset : Nat) (source : Bytes)
    (h : offset + source.length ≤ target.length) :
    (target.overlay offset source).length = target.length := by
  simp only [overlay, List.length_append, List.length_take, List.length_drop]
  omega

/-- A `memcpy` inside a vector, with what it leaves of the vector. On ranges that
are not disjoint it may leave anything. -/
structure Memcpy where
  within : Bytes → Nat → Nat → Nat → Bytes
  within_eq : ∀ vector dst src count,
    (VectorWrite.memcpyWithin dst src count).Allowed vector →
      within vector dst src count = VectorWrite.apply vector (.memcpyWithin dst src count)

namespace Memcpy

def apply (memcpy : Memcpy) (vector : Bytes) : VectorWrite → Bytes
  | .memcpyWithin dst src count => memcpy.within vector dst src count
  | write => VectorWrite.apply vector write

def run (memcpy : Memcpy) (vector : Bytes) (writes : List VectorWrite) : Bytes :=
  writes.foldl memcpy.apply vector

/-- A run of allowed writes leaves what an overlap-safe move would. -/
theorem run_eq (memcpy : Memcpy) {vector : Bytes} {writes : List VectorWrite}
    (h : VectorWrite.RunAllowed vector writes) :
    memcpy.run vector writes = VectorWrite.run vector writes := by
  induction writes generalizing vector with
  | nil => rfl
  | cons write rest ih =>
      obtain ⟨hallowed, hrest⟩ := h
      have hfirst : memcpy.apply vector write = VectorWrite.apply vector write := by
        cases write with
        | memcpyWithin dst src count => exact memcpy.within_eq vector dst src count hallowed
        | set | memcpyFrom | resize => rfl
      have hrun := ih hrest
      rw [← hfirst] at hrun
      exact hrun.trans (by rw [hfirst]; rfl)

/-- A copy that starts with the last byte. -/
def copyBackward (vector : Bytes) (dst src : Nat) : Nat → Bytes
  | 0 => vector
  | count + 1 => copyBackward (vector.set (dst + count) (vector.getD (src + count) 0)) dst src count

theorem copyBackward_eq {vector : Bytes} {dst src count : Nat}
    (h : (VectorWrite.memcpyWithin dst src count).Allowed vector) :
    copyBackward vector dst src count =
      VectorWrite.apply vector (.memcpyWithin dst src count) := by
  induction count generalizing vector with
  | zero => simp [copyBackward, VectorWrite.apply, Span.bytes, Bytes.overlay]
  | succ count ih =>
      obtain ⟨hdst, hsrc, hdisjoint⟩ := h
      have hread : vector.getD (src + count) 0 = vector[src + count] := by
        rw [List.getD_eq_getElem?_getD, List.getElem?_eq_getElem (by omega)]
        rfl
      have hallowed : (VectorWrite.memcpyWithin dst src count).Allowed
          (vector.set (dst + count) vector[src + count]) := by
        refine ⟨?_, ?_, ?_⟩
        · rw [List.length_set]
          omega
        · rw [List.length_set]
          omega
        · omega
      -- the byte that is written lies outside of what is still to be read
      have hunread : ((vector.set (dst + count) vector[src + count]).drop src).take count =
          (vector.drop src).take count := by
        apply List.ext_getElem?
        intro i
        simp only [List.getElem?_take, List.getElem?_drop]
        split
        · rw [List.getElem?_set_ne (by omega)]
        · rfl
      have hlast : (vector.drop src).take (count + 1) =
          (vector.drop src).take count ++ [vector[src + count]] := by
        rw [List.take_add_one, List.getElem?_drop, List.getElem?_eq_getElem (by omega)]
        rfl
      have hlength : ((vector.drop src).take count).length = count := by
        rw [List.length_take, List.length_drop]
        omega
      rw [copyBackward, hread, ih hallowed]
      simp only [VectorWrite.apply, Span.bytes, Bytes.overlay, hunread, hlast, hlength,
        List.length_append, List.length_singleton]
      rw [List.take_set_of_le (by omega), List.drop_set, if_neg (by omega), Nat.sub_self,
        List.drop_eq_getElem_cons (l := vector) (i := dst + count) (by omega)]
      simp [Nat.add_assoc]

def backward : Memcpy := ⟨copyBackward, fun _ _ _ _ => copyBackward_eq⟩

end Memcpy

end Ros2Connect.Lib
