import Mathlib.Logic.Function.Basic

/-!
Finite maps as programs use them: `insert` keeps the entry a key already has,
`erase` drops a key whatever its entry is. `KeyedBy key` says that every entry
sits under its own key.
-/

namespace Ros2Connect.Lib

/-- A map from keys to entries. -/
abbrev KeyMap (κ ν : Type) := κ → Option ν

namespace KeyMap

variable {κ ν : Type}

def empty : KeyMap κ ν := fun _ => none

@[simp] theorem empty_apply (k : κ) : (empty : KeyMap κ ν) k = none := rfl

/-- Every entry sits under its own key. -/
def KeyedBy (key : ν → κ) (map : KeyMap κ ν) : Prop :=
  ∀ k v, map k = some v → key v = k

theorem KeyedBy.empty (key : ν → κ) : KeyedBy key KeyMap.empty := by
  intro k v h
  cases h

variable [DecidableEq κ]

def insert (map : KeyMap κ ν) (k : κ) (v : ν) : KeyMap κ ν :=
  match map k with
  | some _ => map
  | none => Function.update map k (some v)

def erase (map : KeyMap κ ν) (k : κ) : KeyMap κ ν :=
  Function.update map k none

theorem insert_of_none {map : KeyMap κ ν} {k : κ} (h : map k = none) (v : ν) :
    map.insert k v = Function.update map k (some v) := by
  simp [insert, h]

theorem insert_of_some {map : KeyMap κ ν} {k : κ} {old : ν} (h : map k = some old) (v : ν) :
    map.insert k v = map := by
  simp [insert, h]

theorem insert_of_ne (map : KeyMap κ ν) {k j : κ} {v : ν} (h : j ≠ k) :
    map.insert k v j = map j := by
  cases hk : map k with
  | some old => rw [insert_of_some hk]
  | none => rw [insert_of_none hk, Function.update_of_ne h]

/-- An entry found after an insertion was there before or is the new one. -/
theorem insert_eq_some {map : KeyMap κ ν} {k j : κ} {v w : ν}
    (h : map.insert k v j = some w) : map j = some w ∨ (j = k ∧ w = v ∧ map k = none) := by
  cases hk : map k with
  | some old =>
      rw [insert_of_some hk] at h
      exact Or.inl h
  | none =>
      rw [insert_of_none hk] at h
      by_cases hj : j = k
      · subst hj
        rw [Function.update_self] at h
        cases h
        exact Or.inr ⟨rfl, rfl, rfl⟩
      · rw [Function.update_of_ne hj] at h
        exact Or.inl h

/-- An entry found after an erasure was there before, under another key. -/
theorem erase_eq_some {map : KeyMap κ ν} {k j : κ} {w : ν} (h : map.erase k j = some w) :
    j ≠ k ∧ map j = some w := by
  by_cases hj : j = k
  · subst hj
    simp [erase] at h
  · rw [erase, Function.update_of_ne hj] at h
    exact ⟨hj, h⟩

theorem erase_of_ne (map : KeyMap κ ν) {k j : κ} (h : j ≠ k) : map.erase k j = map j := by
  rw [erase, Function.update_of_ne h]

theorem erase_self (map : KeyMap κ ν) (k : κ) : map.erase k k = none := by
  rw [erase, Function.update_self]

/-- What is missing stays missing. -/
theorem erase_of_none {map : KeyMap κ ν} {j : κ} (h : map j = none) (k : κ) :
    map.erase k j = none := by
  by_cases hj : j = k
  · rw [hj, erase_self]
  · rw [erase_of_ne map hj, h]

/-- Entries inserted one after the other, each under its own key. -/
def insertAll (key : ν → κ) (map : KeyMap κ ν) (entries : List ν) : KeyMap κ ν :=
  entries.foldl (fun map v => map.insert (key v) v) map

/-- A key has the entry it had before or, if none, the first one inserted for
it. -/
theorem insertAll_apply (key : ν → κ) (map : KeyMap κ ν) (entries : List ν) (k : κ) :
    map.insertAll key entries k = (map k).or (entries.find? fun v => key v == k) := by
  induction entries generalizing map with
  | nil => simp [insertAll]
  | cons v rest ih =>
      have hfold : map.insertAll key (v :: rest) = (map.insert (key v) v).insertAll key rest :=
        rfl
      rw [hfold, ih]
      by_cases hk : key v = k
      · subst hk
        cases hold : map (key v) with
        | some old => simp [insert_of_some hold, hold]
        | none => simp [insert_of_none hold]
      · rw [insert_of_ne map (Ne.symm hk), List.find?_cons_of_neg (by simpa using hk)]

/-- With distinct keys every entry is the one found under its key. -/
theorem find?_eq_some {key : ν → κ} {entries : List ν} (h : (entries.map key).Nodup) {k : κ}
    {v : ν} : entries.find? (fun v => key v == k) = some v ↔ v ∈ entries ∧ key v = k := by
  induction entries with
  | nil => simp
  | cons first rest ih =>
      rw [List.map_cons, List.nodup_cons] at h
      by_cases hk : key first = k
      · rw [List.find?_cons_of_pos (by simpa using hk)]
        refine ⟨fun hv => ?_, fun ⟨hmem, hv⟩ => ?_⟩
        · cases hv
          exact ⟨List.mem_cons_self, hk⟩
        · rcases List.mem_cons.mp hmem with rfl | hrest
          · rfl
          · exact absurd (List.mem_map.mpr ⟨v, hrest, hv.trans hk.symm⟩) h.1
      · rw [List.find?_cons_of_neg (by simpa using hk), ih h.2]
        refine ⟨fun ⟨hmem, hv⟩ => ⟨List.mem_cons_of_mem _ hmem, hv⟩, fun ⟨hmem, hv⟩ => ⟨?_, hv⟩⟩
        rcases List.mem_cons.mp hmem with rfl | hrest
        · exact absurd hv hk
        · exact hrest

theorem insertAll_empty_eq_some {key : ν → κ} {entries : List ν} (h : (entries.map key).Nodup)
    {k : κ} {v : ν} :
    insertAll key empty entries k = some v ↔ v ∈ entries ∧ key v = k := by
  rw [insertAll_apply, empty_apply, Option.none_or, find?_eq_some h]

/-- The association list of entries under their keys. -/
theorem lookup_map (key : ν → κ) (entries : List ν) (k : κ) :
    (entries.map fun v => (key v, v)).lookup k = entries.find? fun v => key v == k := by
  induction entries with
  | nil => rfl
  | cons v rest ih =>
      by_cases hk : key v = k
      · subst hk
        simp
      · have hne : (k == key v) = false := by simpa using Ne.symm hk
        rw [List.map_cons, List.lookup_cons, hne, List.find?_cons_of_neg (by simpa using hk)]
        exact ih

theorem KeyedBy.insert {key : ν → κ} {map : KeyMap κ ν} (h : KeyedBy key map) (v : ν) :
    KeyedBy key (map.insert (key v) v) := by
  intro k w hw
  rcases insert_eq_some hw with hold | ⟨rfl, rfl, -⟩
  · exact h k w hold
  · rfl

theorem KeyedBy.erase {key : ν → κ} {map : KeyMap κ ν} (h : KeyedBy key map) (k : κ) :
    KeyedBy key (map.erase k) := by
  intro j w hw
  exact h j w (erase_eq_some hw).2

end KeyMap

end Ros2Connect.Lib
