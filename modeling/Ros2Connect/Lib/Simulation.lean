import Ros2Connect.Lib.Transition

/-!
Forward simulation between two machines. A step of the first is answered by any
number of steps of the second, none included, so that the second may be a part
of the first (a projection) or a coarser description of it. What holds in every
state the second reaches then holds of every state the first reaches.
-/

namespace Ros2Connect.Lib

namespace Machine

variable {σ α τ β υ γ : Type*} {M : Machine σ α} {N : Machine τ β} {O : Machine υ γ}
  {okM : σ → α → Prop} {okN : τ → β → Prop} {okO : υ → γ → Prop}

/-- The invariant rule for an invariant that rests on others: a step starts in a
reachable state, of which they are known. -/
theorem ReachableWith.layered {ok : σ → α → Prop} (I : σ → Prop) (hstart : I M.start)
    (hstep : ∀ s a, M.ReachableWith ok s → I s → M.enabled s a = true → ok s a →
      I (M.next s a)) {s : σ} (h : M.ReachableWith ok s) : I s := by
  induction h with
  | start => exact hstart
  | step hs henabled hok ih => exact hstep _ _ hs ih henabled hok

/-- The runs between two states in which every step meets `ok`. -/
inductive Runs (M : Machine σ α) (ok : σ → α → Prop) (s : σ) : σ → Prop where
  | refl : Runs M ok s s
  | step {t : σ} {a : α} : Runs M ok s t → M.enabled t a = true → ok t a →
      Runs M ok s (M.next t a)

namespace Runs

variable {ok : σ → α → Prop} {s t u : σ}

theorem single {a : α} (henabled : M.enabled s a = true) (hok : ok s a) :
    M.Runs ok s (M.next s a) :=
  .step .refl henabled hok

theorem trans (h : M.Runs ok s t) (hrest : M.Runs ok t u) : M.Runs ok s u := by
  induction hrest with
  | refl => exact h
  | step _ henabled hok ih => exact .step ih henabled hok

theorem reachable (h : M.Runs ok s t) (hs : M.ReachableWith ok s) : M.ReachableWith ok t := by
  induction h with
  | refl => exact hs
  | step _ henabled hok ih => exact .step ih henabled hok

/-- What every step keeps is kept by a run. -/
theorem invariant (h : M.Runs ok s t) (I : σ → Prop) (hs : I s)
    (hstep : ∀ s a, I s → M.enabled s a = true → ok s a → I (M.next s a)) : I t := by
  induction h with
  | refl => exact hs
  | step _ henabled hok ih => exact hstep _ _ ih henabled hok

/-- One step for each element of a list. -/
theorem foldl {ι : Type*} (label : ι → α) (henabled : ∀ s i, M.enabled s (label i) = true)
    (hok : ∀ s i, ok s (label i)) (list : List ι) (s : σ) :
    M.Runs ok s (list.foldl (fun s i => M.next s (label i)) s) := by
  induction list generalizing s with
  | nil => exact .refl
  | cons i rest ih => exact (single (henabled s i) (hok s i)).trans (ih _)

end Runs

/-- Steps of `M` that meet `okM` are answered by runs of `N` whose steps meet
`okN`, and the states stay related. -/
structure Simulation (M : Machine σ α) (N : Machine τ β) (okM : σ → α → Prop)
    (okN : τ → β → Prop) (R : σ → τ → Prop) : Prop where
  start : R M.start N.start
  step : ∀ {s t a}, R s t → M.enabled s a = true → okM s a →
    ∃ t', N.Runs okN t t' ∧ R (M.next s a) t'

/-- A related state is reached. -/
theorem Simulation.reachable {R : σ → τ → Prop} (h : Simulation M N okM okN R) {s : σ}
    (hs : M.ReachableWith okM s) : ∃ t, N.ReachableWith okN t ∧ R s t := by
  induction hs with
  | start => exact ⟨N.start, .start, h.start⟩
  | step _ henabled hok ih =>
      obtain ⟨t, ht, hrelated⟩ := ih
      obtain ⟨t', hruns, hafter⟩ := h.step hrelated henabled hok
      exact ⟨t', hruns.reachable ht, hafter⟩

/-- The steps of `M`, seen through `part`, are runs of `N`. -/
structure Projection (M : Machine σ α) (N : Machine τ β) (okM : σ → α → Prop)
    (okN : τ → β → Prop) (part : σ → τ) : Prop where
  start : part M.start = N.start
  step : ∀ {s a}, M.enabled s a = true → okM s a → N.Runs okN (part s) (part (M.next s a))

namespace Projection

variable {part : σ → τ}

theorem simulation (h : Projection M N okM okN part) :
    Simulation M N okM okN (fun s t => part s = t) where
  start := h.start
  step := by
    rintro s _ a rfl henabled hok
    exact ⟨_, h.step henabled hok, rfl⟩

theorem reachable (h : Projection M N okM okN part) {s : σ} (hs : M.ReachableWith okM s) :
    N.ReachableWith okN (part s) := by
  obtain ⟨t, ht, rfl⟩ := h.simulation.reachable hs
  exact ht

theorem runs (h : Projection M N okM okN part) {s t : σ} (hst : M.Runs okM s t) :
    N.Runs okN (part s) (part t) := by
  induction hst with
  | refl => exact .refl
  | step _ henabled hok ih => exact ih.trans (h.step henabled hok)

/-- The part of a part. -/
theorem comp {inner : τ → υ} (h : Projection M N okM okN part)
    (hinner : Projection N O okN okO inner) :
    Projection M O okM okO (fun s => inner (part s)) where
  start := (congrArg inner h.start).trans hinner.start
  step := fun henabled hok => hinner.runs (h.step henabled hok)

end Projection

end Machine

end Ros2Connect.Lib
