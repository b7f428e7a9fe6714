import Ros2Connect.ServiceAction.Stopping

/-!
What the calls that insert a handle, the mutex and the map keep in every run: a
call of a client holds the mutex from its check to its insertion, and the keys
of the handles in the map are distinct.
-/

namespace Ros2Connect

open Lib

namespace Stopping

variable {ι : Type} [DecidableEq ι] {config : Config ι} {s t : State ι}

/-- What the calls, the mutex and the map keep. -/
structure Calls (config : Config ι) (s : State ι) : Prop where
  stopping : s.stopper ≠ .idle → s.stopping = true
  ended : s.stopper ≠ .idle → s.stopper ≠ .joiningRemover → s.remover = .ended
  locked : config.entryPoint.isClient = true → ∀ handle,
    s.phases handle = .checked ∨ s.phases handle = .started →
      s.handlesMutex = some handle ∧
        ∀ other ∈ s.handles, config.gIDString other ≠ config.gIDString handle
  started : ∀ handle, s.phases handle = .started → config.entryPoint.isClient = true
  accepting : ∀ handle, s.phases handle = .accepting →
    s.handlesMutex = some handle ∧ handle ∈ s.handles ∧
      config.entryPoint = .actionServerSendGoalAndWait
  inserted : ∀ handle ∈ s.handles,
    s.phases handle = .inserted ∨ s.phases handle = .accepting
  distinct : (s.handles.map config.gIDString).Nodup
  taken : ∀ handle, s.stopper = .joining handle ∨ s.stopper = .erasing handle →
    handle ∈ s.handles ∧ s.phases handle ≠ .accepting

theorem Calls.start {ι : Type} {config : Config ι} : Calls config (State.start : State ι) where
  stopping := fun h => absurd rfl h
  ended := fun h => absurd rfl h
  locked := by
    intro _ handle h
    rcases h with h | h <;> cases h
  started := fun _ h => nomatch h
  accepting := fun _ h => nomatch h
  inserted := fun _ h => nomatch h
  distinct := List.nodup_nil
  taken := by
    intro handle h
    rcases h with h | h <;> cases h

theorem Calls.eq_of_gIDString {ι : Type} {config : Config ι} {s : State ι}
    (h : Calls config s) {handle other : ι} (hhandle : handle ∈ s.handles)
    (hother : other ∈ s.handles)
    (hkey : config.gIDString other = config.gIDString handle) : other = handle :=
  List.inj_on_of_nodup_map h.distinct hother hhandle hkey

theorem Calls.setPhase (h : Calls config s) {handle : ι} {phase : Phase}
    (hlocked : config.entryPoint.isClient = true → phase = .checked ∨ phase = .started →
      s.handlesMutex = some handle ∧
        ∀ other ∈ s.handles, config.gIDString other ≠ config.gIDString handle)
    (hstarted : phase = .started → config.entryPoint.isClient = true)
    (haccepting : phase = .accepting → s.handlesMutex = some handle ∧ handle ∈ s.handles ∧
      config.entryPoint = .actionServerSendGoalAndWait ∧ s.stopping = false)
    (hinserted : handle ∈ s.handles → phase = .inserted ∨ phase = .accepting) :
    Calls config (s.setPhase handle phase) where
  stopping := h.stopping
  ended := h.ended
  locked := by
    intro hclient other hother
    by_cases heq : other = handle
    · subst heq
      exact hlocked hclient (by simpa [State.setPhase] using hother)
    · exact h.locked hclient other (by simpa [State.setPhase, heq] using hother)
  started := by
    intro other hother
    rcases phases_setPhase hother with ⟨-, hphase⟩ | ⟨-, hold⟩
    · exact hstarted hphase
    · exact h.started other hold
  accepting := by
    intro other hother
    rcases phases_setPhase hother with ⟨rfl, hphase⟩ | ⟨-, hold⟩
    · obtain ⟨hmutex, hmem, hentry, -⟩ := haccepting hphase
      exact ⟨hmutex, hmem, hentry⟩
    · exact h.accepting other hold
  inserted := by
    intro other hother
    by_cases heq : other = handle
    · subst heq
      simpa [State.setPhase] using hinserted hother
    · simpa [State.setPhase, heq] using h.inserted other hother
  distinct := h.distinct
  taken := by
    intro other hother
    obtain ⟨hmem, hphase⟩ := h.taken other hother
    refine ⟨hmem, fun haccepted => ?_⟩
    rcases phases_setPhase haccepted with ⟨-, hnew⟩ | ⟨-, hold⟩
    · obtain ⟨-, -, -, hstopping⟩ := haccepting hnew
      have hstopper : s.stopper ≠ .idle := by
        intro hidle
        rcases hother with hother | hother <;> cases hother.symm.trans hidle
      rw [h.stopping hstopper] at hstopping
      cases hstopping
    · exact hphase hold

/-- The mutex is taken or released while no other call holds it. -/
theorem Calls.setMutex {ι : Type} {config : Config ι} {s : State ι}
    (h : Calls config s) {mutex : Option ι}
    (hfree : ∀ handle, s.handlesMutex = some handle →
      s.phases handle ≠ .checked ∧ s.phases handle ≠ .started ∧ s.phases handle ≠ .accepting) :
    Calls config { s with handlesMutex := mutex } where
  stopping := h.stopping
  ended := h.ended
  locked := by
    intro hclient handle hphase
    obtain ⟨hchecked, hstarted, -⟩ := hfree handle (h.locked hclient handle hphase).1
    rcases hphase with hphase | hphase
    · exact absurd hphase hchecked
    · exact absurd hphase hstarted
  started := h.started
  accepting := fun handle hphase =>
    absurd hphase (hfree handle (h.accepting handle hphase).1).2.2
  inserted := h.inserted
  distinct := h.distinct
  taken := h.taken

theorem Calls.insertHandle {ι : Type} {config : Config ι} {s : State ι}
    (h : Calls config s) {handle : ι}
    (hphase : s.phases handle = .inserted)
    (hmutex : ∀ other, s.handlesMutex = some other → other = handle) :
    Calls config (s.insertHandle config handle) := by
  rcases insertHandle_cases config s handle with ⟨hsame, -⟩ | ⟨hinsert, hfresh⟩
  · rw [hsame]
    exact h
  · rw [hinsert]
    refine ⟨h.stopping, h.ended, ?_, h.started, ?_, ?_, ?_, ?_⟩
    · intro hclient other hother
      obtain rfl := hmutex other (h.locked hclient other hother).1
      rw [hphase] at hother
      rcases hother with hother | hother <;> cases hother
    · intro other hother
      obtain ⟨hlock, hmem, hentry⟩ := h.accepting other hother
      exact ⟨hlock, List.mem_append_left _ hmem, hentry⟩
    · intro other hother
      rcases List.mem_append.mp hother with hold | hnew
      · exact h.inserted other hold
      · rw [List.mem_singleton.mp hnew]
        exact Or.inl hphase
    · rw [List.map_append, List.nodup_append]
      refine ⟨h.distinct, by simp, ?_⟩
      simpa using hfresh
    · intro other hother
      obtain ⟨hmem, haccepting⟩ := h.taken other hother
      exact ⟨List.mem_append_left _ hmem, haccepting⟩

theorem Calls.eraseHandle {ι : Type} {config : Config ι} {s : State ι}
    (h : Calls config s) {handle : ι}
    (haccepting : ∀ other, s.phases other = .accepting →
      config.gIDString other ≠ config.gIDString handle)
    (htaken : ∀ other, s.stopper ≠ .joining other ∧ s.stopper ≠ .erasing other) :
    Calls config (s.eraseHandle config handle) where
  stopping := h.stopping
  ended := h.ended
  locked := by
    intro hclient other hother
    obtain ⟨hmutex, hfresh⟩ := h.locked hclient other hother
    exact ⟨hmutex, fun found hfound => hfresh found (mem_eraseHandle.mp hfound).1⟩
  started := h.started
  accepting := by
    intro other hother
    obtain ⟨hmutex, hmem, hentry⟩ := h.accepting other hother
    exact ⟨hmutex, mem_eraseHandle.mpr ⟨hmem, haccepting other hother⟩, hentry⟩
  inserted := fun other hother => h.inserted other (mem_eraseHandle.mp hother).1
  distinct := h.distinct.sublist (List.filter_sublist.map _)
  taken := by
    intro other hother
    obtain ⟨hjoining, herasing⟩ := htaken other
    rcases hother with hother | hother
    · exact absurd hother hjoining
    · exact absurd hother herasing

/-- `stop` goes on after it has joined the removal thread. -/
theorem Calls.setStopper {ι : Type} {config : Config ι} {s : State ι}
    (h : Calls config s) {stopper : Stopper ι}
    (hidle : s.stopper ≠ .idle) (hremover : s.remover = .ended)
    (htaken : ∀ handle, stopper = .joining handle ∨ stopper = .erasing handle →
      handle ∈ s.handles ∧ s.phases handle ≠ .accepting) :
    Calls config { s with stopper := stopper } :=
  { h with
    stopping := fun _ => h.stopping hidle
    ended := fun _ _ => hremover
    taken := htaken }

/-- Threads are no matter of the calls. -/
theorem Calls.setThread (h : Calls config s) (handle : ι) (thread : HandleThread) :
    Calls config (s.setThread handle thread) :=
  { h with }

/-- A handle whose call has not come to the insertion is not in the map. -/
theorem Calls.not_mem {ι : Type} {config : Config ι} {s : State ι} (h : Calls config s)
    {handle : ι} {phase : Phase} (hphase : s.phases handle = phase)
    (hearly : phase = .idle ∨ phase = .checked ∨ phase = .started) : handle ∉ s.handles := by
  intro hmem
  have hlate := h.inserted handle hmem
  rw [hphase] at hlate
  rcases hearly with rfl | rfl | rfl <;> rcases hlate with hlate | hlate <;> cases hlate

/-- `stop` has joined the removal thread when it walks over the map. -/
theorem Calls.remover_ended {ι : Type} {config : Config ι} {s : State ι} (h : Calls config s)
    {stopper : Stopper ι} (hstopper : s.stopper = stopper)
    (hwalks : stopper ≠ .idle ∧ stopper ≠ .joiningRemover) : s.remover = .ended :=
  h.ended (hstopper ▸ hwalks.1) (hstopper ▸ hwalks.2)

/-- While the removal thread runs, `stop` has not begun to walk over the map. -/
theorem Calls.not_walking {ι : Type} {config : Config ι} {s : State ι} (h : Calls config s)
    (hremover : s.remover ≠ .ended) : s.stopper = .idle ∨ s.stopper = .joiningRemover := by
  by_contra hother
  rw [not_or] at hother
  exact hremover (h.ended hother.1 hother.2)

/-- The removal thread goes on, before `stop` walks over the map. -/
theorem Calls.setRemover {ι : Type} {config : Config ι} {s : State ι} (h : Calls config s)
    {remover : Remover ι} (hremover : s.remover ≠ .ended) :
    Calls config { s with remover := remover } := by
  refine { h with ended := fun hidle hjoining => ?_ }
  exact absurd (h.ended hidle hjoining) hremover

theorem Calls.insert (h : Calls config s) {handle : ι}
    (hfound : config.entryPoint.isClient = true ∧ s.phases handle = .started ∨
      config.entryPoint.isClient = false ∧ s.phases handle = .checked ∧ s.handlesMutex = none) :
    Calls config
      { (s.setPhase handle .inserted).insertHandle config handle with handlesMutex := none } := by
  have hmutex : ∀ other, s.handlesMutex = some other → other = handle := by
    intro other hother
    rcases hfound with ⟨hclient, hphase⟩ | ⟨-, -, hfree⟩
    · have hheld := (h.locked hclient handle (Or.inr hphase)).1
      exact Option.some.inj (hother.symm.trans hheld)
    · cases hfree.symm.trans hother
  have hset : Calls config (s.setPhase handle .inserted) :=
    h.setPhase (by simp) (by simp) (by simp) (fun _ => Or.inl rfl)
  have hphase : (s.setPhase handle .inserted).phases handle = .inserted := by
    simp [State.setPhase]
  obtain ⟨hphases, -, hheld⟩ := insertHandle_frame config (s.setPhase handle .inserted) handle
  apply (hset.insertHandle hphase hmutex).setMutex
  intro other hother
  obtain rfl := hmutex other (hheld.symm.trans hother)
  rw [hphases, hphase]
  simp

theorem Calls.step {label : Label ι} (h : Calls config s) (hstep : Step config s label t)
    (hok : Undisturbed config s label) : Calls config t := by
  cases hstep with
  | refuse handle hidle =>
      have hnew := h.not_mem hidle (Or.inl rfl)
      exact h.setPhase (by simp) (by simp) (by simp) (fun hmem => absurd hmem hnew)
  | checkServer handle hidle hserver hstopping =>
      have hnew := h.not_mem hidle (Or.inl rfl)
      exact h.setPhase (by simp [hserver]) (by simp) (by simp) (fun hmem => absurd hmem hnew)
  | checkClient handle hidle hclient hstopping hmutex hfresh =>
      have hnew := h.not_mem hidle (Or.inl rfl)
      have hlock : Calls config { s with handlesMutex := some handle } :=
        h.setMutex (by simp [hmutex])
      exact hlock.setPhase (fun _ _ => ⟨rfl, hfresh⟩) (by simp) (by simp)
        (fun hmem => absurd hmem hnew)
  | startThread handle hclient hphase =>
      have hnew := h.not_mem hphase (Or.inr (Or.inl rfl))
      have hset : Calls config (s.setPhase handle .started) :=
        h.setPhase (fun _ _ => h.locked hclient handle (Or.inl hphase)) (fun _ => hclient)
          (by simp) (fun hmem => absurd hmem hnew)
      exact hset.setThread handle .running
  | insert handle hfound => exact h.insert hfound
  | accept handle hentry hphase hmutex hmem hstopping =>
      have hlock : Calls config { s with handlesMutex := some handle } :=
        h.setMutex (by simp [hmutex])
      exact hlock.setPhase (by simp) (by simp) (fun _ => ⟨rfl, hmem, hentry, hstopping⟩)
        (fun _ => Or.inr rfl)
  | startAccepted handle hphase =>
      have hmutex := (h.accepting handle hphase).1
      have hset : Calls config ((s.setPhase handle .inserted).setThread handle .running) :=
        (h.setPhase (by simp) (by simp) (by simp) (fun _ => Or.inl rfl)).setThread handle .running
      apply hset.setMutex
      intro other hother
      cases hmutex.symm.trans hother
      simp [State.setPhase, State.setThread]
  | removeHandle handle hserver => exact { h with }
  | finish handle removed hrunning => exact { h with }
  | removerTake handle rest hremover hqueue =>
      have hset : Calls config { s with remover := .joining handle } :=
        h.setRemover (by simp [hremover])
      exact { hset with }
  | removerJoin handle hremover =>
      exact (h.setThread handle _).setRemover (by simp [State.setThread, hremover])
  | removerErase handle hremover hmutex =>
      have hstopper := h.not_walking (by simp [hremover])
      have herased : Calls config (s.eraseHandle config handle) := by
        apply h.eraseHandle
        · intro other hother
          cases hmutex.symm.trans (h.accepting other hother).1
        · intro other
          rcases hstopper with hstopper | hstopper <;> simp [hstopper]
      exact herased.setRemover (by simp [State.eraseHandle, hremover])
  | removerEnd => exact { h with ended := fun _ _ => rfl }
  | stop =>
      exact { h with stopping := fun _ => rfl, ended := fun _ hother => absurd rfl hother,
                     taken := by simp }
  | joinRemover hstopper hremover => exact h.setStopper (by simp [hstopper]) hremover (by simp)
  | walkJoinable handle hstopper hmem =>
      have hremover := h.remover_ended hstopper (by simp)
      apply h.setStopper (by simp [hstopper]) hremover
      simpa using ⟨hmem, hok⟩
  | walkJoined handle hstopper hmem hjoined =>
      have hremover := h.remover_ended hstopper (by simp)
      apply h.setStopper (by simp [hstopper]) hremover
      simpa using ⟨hmem, hok⟩
  | walkJoin handle hstopper =>
      have hremover := h.remover_ended hstopper (by simp)
      have htaken := h.taken handle (Or.inl hstopper)
      exact (h.setThread handle .joined).setStopper (by simp [State.setThread, hstopper]) hremover
        (by simpa [State.setThread] using htaken)
  | walkErase handle hstopper =>
      have hremover := h.remover_ended hstopper (by simp)
      obtain ⟨hmem, haccepting⟩ := h.taken handle (Or.inr hstopper)
      have hwalking : Calls config { s with stopper := .walking } :=
        h.setStopper (by simp [hstopper]) hremover (by simp)
      refine hwalking.eraseHandle ?_ (by simp)
      intro other hother hkey
      have heq := h.eq_of_gIDString hmem (h.accepting other hother).2.1 hkey
      exact haccepting (heq ▸ hother)
  | walkEnd hstopper hempty =>
      have hremover := h.remover_ended hstopper (by simp)
      have hset : Calls config { s with stopper := .returned } :=
        h.setStopper (by simp [hstopper]) hremover (by simp)
      exact { hset with }

end Stopping

end Ros2Connect
