import Mathlib.Tactic

/-!
Labelled transition systems given by an enabling condition and an effect, the
states their runs reach, and the induction every safety proof uses. A run may
be restricted to steps that meet a condition on the state before the step and
the label (`ReachableWith`), so that "in every run whose steps all meet `ok`"
is a statement about reachability. `replay` executes a list of labels.
-/

namespace Ros2Connect.Lib

structure Machine (σ α : Type*) where
  start : σ
  enabled : σ → α → Bool
  next : σ → α → σ

namespace Machine

variable {σ α τ β : Type*} {M : Machine σ α}

/-- The states of the runs in which every step meets `ok`. -/
inductive ReachableWith (M : Machine σ α) (ok : σ → α → Prop) : σ → Prop where
  | start : ReachableWith M ok M.start
  | step {s : σ} {a : α} : ReachableWith M ok s → M.enabled s a = true → ok s a →
      ReachableWith M ok (M.next s a)

/-- The states of all runs. -/
abbrev Reachable (M : Machine σ α) : σ → Prop :=
  M.ReachableWith (fun _ _ => True)

/-- The invariant rule: what holds at the start and is kept by every step that
meets `ok` holds in every state such runs reach. -/
theorem ReachableWith.invariant {ok : σ → α → Prop} (I : σ → Prop)
    (hstart : I M.start)
    (hstep : ∀ s a, I s → M.enabled s a = true → ok s a → I (M.next s a))
    {s : σ} (h : M.ReachableWith ok s) : I s := by
  induction h with
  | start => exact hstart
  | step _ henabled hok ih => exact hstep _ _ ih henabled hok

/-- Runs that meet a condition meet a weaker one. -/
theorem ReachableWith.mono {ok weaker : σ → α → Prop} (himp : ∀ s a, ok s a → weaker s a) {s : σ}
    (h : M.ReachableWith ok s) : M.ReachableWith weaker s := by
  induction h with
  | start => exact .start
  | step _ henabled hok ih => exact .step ih henabled (himp _ _ hok)

/-- Run a list of labels; `none` when one of them is not enabled or does not
meet `ok`. -/
def replay (M : Machine σ α) (ok : σ → α → Prop)
    [∀ s a, Decidable (ok s a)] :
    σ → List α → Option σ
  | s, [] => some s
  | s, a :: rest =>
      if M.enabled s a = true ∧ ok s a then M.replay ok (M.next s a) rest else none

theorem replay_cons {ok : σ → α → Prop} [∀ s a, Decidable (ok s a)] {s t : σ} {a : α}
    {rest : List α} : M.replay ok s (a :: rest) = some t ↔
      M.enabled s a = true ∧ ok s a ∧ M.replay ok (M.next s a) rest = some t := by
  rw [replay]
  by_cases hstep : M.enabled s a = true ∧ ok s a
  · rw [if_pos hstep]
    exact ⟨fun h => ⟨hstep.1, hstep.2, h⟩, fun h => h.2.2⟩
  · rw [if_neg hstep]
    exact ⟨nofun, fun h => absurd ⟨h.1, h.2.1⟩ hstep⟩

/-- A replay extends a run. Its steps may be checked against a stronger
condition than the run's, so that only that one has to be decidable. -/
theorem ReachableWith.replay {ok guard : σ → α → Prop}
    [∀ s a, Decidable (guard s a)]
    (himp : ∀ s a, guard s a → ok s a)
    {s t : σ} {labels : List α} (h : M.ReachableWith ok s)
    (hrun : M.replay guard s labels = some t) : M.ReachableWith ok t := by
  induction labels generalizing s with
  | nil =>
      cases hrun
      exact h
  | cons a rest ih =>
      obtain ⟨henabled, hguard, hrest⟩ := replay_cons.mp hrun
      exact ih (.step h henabled (himp _ _ hguard)) hrest

/-- What every step keeps is kept by a replay. -/
theorem invariant_replay {ok : σ → α → Prop} [∀ s a, Decidable (ok s a)] (I : σ → Prop)
    (hkeep : ∀ s a, I s → M.enabled s a = true → ok s a → I (M.next s a))
    {s t : σ} {labels : List α} (hs : I s) (hrun : M.replay ok s labels = some t) : I t := by
  induction labels generalizing s with
  | nil =>
      cases hrun
      exact hs
  | cons a rest ih =>
      obtain ⟨henabled, hok, hrest⟩ := replay_cons.mp hrun
      exact ih (hkeep s a hs henabled hok) hrest

/-- A replay may be checked against what its own labels meet. -/
theorem replay_guard {ok guard : σ → α → Prop} [∀ s a, Decidable (ok s a)]
    [∀ s a, Decidable (guard s a)] {s t : σ} {labels : List α}
    (himp : ∀ s, ∀ a ∈ labels, ok s a → guard s a)
    (hrun : M.replay ok s labels = some t) : M.replay guard s labels = some t := by
  induction labels generalizing s with
  | nil => exact hrun
  | cons a rest ih =>
      obtain ⟨henabled, hok, hrest⟩ := replay_cons.mp hrun
      exact replay_cons.mpr ⟨henabled, himp s a List.mem_cons_self hok,
        ih (fun s b hb => himp s b (List.mem_cons_of_mem _ hb)) hrest⟩

/-- A log of what the labels themselves say. -/
theorem replay_filterMap {ι : Type*} {ok : σ → α → Prop} [∀ s a, Decidable (ok s a)]
    {log : σ → List ι} {entry : α → Option ι}
    (hlog : ∀ s a, log (M.next s a) = log s ++ (entry a).toList)
    {s t : σ} {labels : List α} (hrun : M.replay ok s labels = some t) :
    log t = log s ++ labels.filterMap entry := by
  induction labels generalizing s with
  | nil =>
      cases hrun
      simp
  | cons a rest ih =>
      rw [ih (replay_cons.mp hrun).2.2, hlog]
      cases hentry : entry a <;> simp [hentry]

/-- A replay from a reachable state that ends in a state with a decidable
property witnesses a reachable state that has it. -/
theorem ReachableWith.exists_replay {ok guard : σ → α → Prop}
    [∀ s a, Decidable (guard s a)]
    (himp : ∀ s a, guard s a → ok s a) (P : σ → Prop) [DecidablePred P]
    {s : σ} (h : M.ReachableWith ok s) (labels : List α)
    (hrun : (M.replay guard s labels).any (fun t => decide (P t)) = true) :
    ∃ t, M.ReachableWith ok t ∧ P t := by
  cases ht : M.replay guard s labels with
  | none => simp [ht] at hrun
  | some t =>
      refine ⟨t, h.replay himp ht, ?_⟩
      simpa [ht] using hrun

/-- A replay of unrestricted steps from the start. -/
theorem exists_reachable (P : σ → Prop) [DecidablePred P] (labels : List α)
    (hrun : (M.replay (fun _ _ => True) M.start labels).any
      (fun s => decide (P s)) = true) :
    ∃ s, M.Reachable s ∧ P s :=
  ReachableWith.exists_replay (fun _ _ h => h) P .start labels hrun

/-- The counted steps of a run are paid for by a potential, to which the charged
ones may add; what the steps cost may rest on an invariant. -/
theorem countP_replay_le {ok : σ → α → Prop} [∀ s a, Decidable (ok s a)] (I : σ → Prop)
    (hkeep : ∀ s a, I s → M.enabled s a = true → ok s a → I (M.next s a))
    (counted charged : α → Bool) (price : Nat) (potential : σ → Nat)
    (hstep : ∀ s a, I s → M.enabled s a = true → ok s a →
      potential (M.next s a) + (if counted a then 1 else 0) ≤
        potential s + if charged a then price else 0)
    {s t : σ} {labels : List α} (hs : I s) (hrun : M.replay ok s labels = some t) :
    labels.countP counted + potential t ≤ potential s + price * labels.countP charged := by
  induction labels generalizing s with
  | nil =>
      cases hrun
      simp
  | cons a rest ih =>
      obtain ⟨henabled, hok, hrun⟩ := replay_cons.mp hrun
      have hrest := ih (hkeep s a hs henabled hok) hrun
      have hfirst := hstep s a hs henabled hok
      rw [List.countP_cons, List.countP_cons, Nat.mul_add]
      cases hcharged : charged a <;>
        simp only [hcharged, Bool.false_eq_true, if_true, if_false] at hfirst ⊢ <;> omega

end Machine

/-- A potential that adds up over the components of a state changes with the one
that is updated. -/
theorem sum_update_add_of_mem {ι β : Type*} [DecidableEq ι] {keys : Finset ι} (weight : β → Nat)
    (f : ι → β) {i : ι} (hi : i ∈ keys) (b : β) :
    ∑ j ∈ keys, weight (Function.update f i b j) + weight (f i) =
      ∑ j ∈ keys, weight (f j) + weight b := by
  have hupdated := Finset.add_sum_erase keys (fun j => weight (Function.update f i b j)) hi
  have hbefore := Finset.add_sum_erase keys (fun j => weight (f j)) hi
  have hothers : ∑ j ∈ keys.erase i, weight (Function.update f i b j) =
      ∑ j ∈ keys.erase i, weight (f j) :=
    Finset.sum_congr rfl fun j hj => by
      rw [Function.update_of_ne (Finset.ne_of_mem_erase hj)]
  rw [← hupdated, ← hbefore, hothers, Function.update_self]
  omega

theorem sum_update_add {ι β : Type*} [Fintype ι] [DecidableEq ι] (weight : β → Nat) (f : ι → β)
    (i : ι) (b : β) :
    ∑ j, weight (Function.update f i b j) + weight (f i) = ∑ j, weight (f j) + weight b :=
  sum_update_add_of_mem weight f (Finset.mem_univ i) b

end Ros2Connect.Lib
