import Ros2Connect.ServiceAction.StopCalls

/-!
What `stop` has done when it returns. A thread of a handle that has not been
joined belongs to a handle of the map, or its call is about to insert it.
-/

namespace Ros2Connect

open Lib

namespace Stopping

variable {ι : Type} [DecidableEq ι] {config : Config ι} {s t : State ι}

/-- Who holds a thread that has not been joined. -/
structure Threads (config : Config ι) (s : State ι) : Prop where
  owned : ∀ handle, (s.threads handle).joinable = true →
    handle ∈ s.handles ∨ s.phases handle = .started
  plain : config.entryPoint = .serviceServerSendAndWait →
    ∀ handle, (s.threads handle).joinable = false
  erasing : ∀ handle, s.stopper = .erasing handle → (s.threads handle).joinable = false
  returned : s.stopper = .returned →
    s.handles = [] ∧ ∀ handle, s.phases handle ≠ .checked ∧ s.phases handle ≠ .started

def Remover.holding : Remover ι → List ι
  | .joining handle | .erasing handle => [handle]
  | .waiting | .ended => []

/-- The handles the removal thread has or will get. -/
def State.leaving (s : State ι) : List ι := s.remover.holding ++ s.toRemove

/-- A handle of a client is queued for removal once, when its thread ends, and
stays in the map until the removal thread erases it. -/
structure Removal (s : State ι) : Prop where
  leaving : s.remover ≠ .ended → ∀ handle ∈ s.leaving,
    (handle ∈ s.handles ∨ s.phases handle = .started) ∧ s.threads handle ≠ .running
  nodup : s.remover ≠ .ended → s.leaving.Nodup
  erasing : ∀ handle, s.remover = .erasing handle → (s.threads handle).joinable = false

theorem Threads.start {ι : Type} {config : Config ι} :
    Threads config (State.start : State ι) where
  owned := fun _ h => nomatch h
  plain := fun _ _ => rfl
  erasing := fun _ h => nomatch h
  returned := nofun

theorem Removal.start {ι : Type} : Removal (State.start : State ι) where
  leaving := fun _ _ h => nomatch h
  nodup := fun _ => List.nodup_nil
  erasing := fun _ h => nomatch h

theorem threads_setThread {handle other : ι} {thread found : HandleThread}
    (h : (s.setThread handle thread).threads other = found) :
    (other = handle ∧ thread = found) ∨ (other ≠ handle ∧ s.threads other = found) := by
  by_cases hother : other = handle
  · subst hother
    exact Or.inl ⟨rfl, by simpa [State.setThread] using h⟩
  · exact Or.inr ⟨hother, by simpa [State.setThread, hother] using h⟩

/-- The phase of a call changes, and it was or is not `started`. -/
theorem Removal.setPhase (h : Removal s) {handle : ι} {phase : Phase}
    (hphase : s.phases handle = .started → handle ∈ s.handles) :
    Removal (s.setPhase handle phase) where
  leaving := by
    intro hremover other hother
    obtain ⟨hheld, hthread⟩ := h.leaving hremover other hother
    refine ⟨?_, hthread⟩
    by_cases heq : other = handle
    · subst heq
      exact Or.inl (hheld.elim id hphase)
    · simpa [State.setPhase, heq] using hheld
  nodup := h.nodup
  erasing := h.erasing

theorem Removal.setThread (h : Removal s) {handle : ι} {thread : HandleThread}
    (hthread : s.remover ≠ .ended → handle ∈ s.leaving → thread.joinable = false) :
    Removal (s.setThread handle thread) where
  leaving := by
    intro hremover other hother
    obtain ⟨hheld, hold⟩ := h.leaving hremover other hother
    refine ⟨hheld, fun hrunning => ?_⟩
    rcases threads_setThread hrunning with ⟨rfl, hnew⟩ | ⟨-, hsame⟩
    · have hjoinable := hthread hremover hother
      rw [hnew] at hjoinable
      cases hjoinable
    · exact hold hsame
  nodup := h.nodup
  erasing := by
    intro other hremover
    have hmem : other ∈ s.leaving := by
      have hholding : s.remover = .erasing other := hremover
      simp [State.leaving, hholding, Remover.holding]
    by_cases heq : other = handle
    · subst heq
      have hended : s.remover ≠ .ended := by
        intro hended
        cases hended.symm.trans hremover
      simpa [State.setThread] using hthread hended hmem
    · simpa [State.setThread, heq] using h.erasing other hremover

theorem Removal.insertHandle {ι : Type} {s : State ι} (h : Removal s) (config : Config ι)
    (handle : ι) : Removal (s.insertHandle config handle) := by
  rcases insertHandle_cases config s handle with ⟨hsame, -⟩ | ⟨hinsert, -⟩
  · rw [hsame]
    exact h
  · rw [hinsert]
    refine ⟨fun hremover other hother => ?_, h.nodup, h.erasing⟩
    obtain ⟨hheld, hthread⟩ := h.leaving hremover other hother
    exact ⟨hheld.imp_left (List.mem_append_left _), hthread⟩

theorem Removal.of_ended {ι : Type} {s : State ι} (hremover : s.remover = .ended) : Removal s where
  leaving := fun h => absurd hremover h
  nodup := fun h => absurd hremover h
  erasing := fun _ h => nomatch hremover.symm.trans h

/-- The thread of a handle that is leaving has ended. -/
theorem Removal.not_leaving {ι : Type} {s : State ι} (h : Removal s) {handle : ι}
    (hrunning : s.threads handle = .running) (hremover : s.remover ≠ .ended) : handle ∉ s.leaving :=
  fun hmem => (h.leaving hremover handle hmem).2 hrunning

/-- The thread of a handle ends, and its last step may queue it for removal. -/
theorem Removal.finish (h : Removal s) {handle : ι} (removed : Bool)
    (hrunning : s.threads handle = .running)
    (hheld : handle ∈ s.handles ∨ s.phases handle = .started) :
    Removal { s.setThread handle .ended with
      toRemove := s.toRemove ++ if removed then [handle] else [] } := by
  have hset : Removal (s.setThread handle .ended) :=
    h.setThread (fun hremover hmem => absurd hmem (h.not_leaving hrunning hremover))
  cases removed with
  | false =>
      simp only [Bool.false_eq_true, if_false, List.append_nil]
      exact { hset with }
  | true =>
      have hleaving : State.leaving { s.setThread handle .ended with
          toRemove := s.toRemove ++ [handle] } = s.leaving ++ [handle] := by
        simp [State.leaving, State.setThread]
      refine ⟨?_, ?_, hset.erasing⟩
      · intro hremover other hother
        rw [if_pos rfl, hleaving] at hother
        rcases List.mem_append.mp hother with hold | hlast
        · exact hset.leaving hremover other hold
        · obtain rfl := List.mem_singleton.mp hlast
          exact ⟨hheld, by simp [State.setThread]⟩
      · intro hremover
        rw [if_pos rfl, hleaving, List.nodup_append]
        refine ⟨h.nodup hremover, by simp, ?_⟩
        intro other hother last hlast
        rw [List.mem_singleton.mp hlast]
        rintro rfl
        exact h.not_leaving hrunning hremover hother

/-- The removal thread takes a handle from the queue. -/
theorem Removal.take {ι : Type} {s : State ι} (h : Removal s) {handle : ι} {rest : List ι}
    (hremover : s.remover = .waiting) (hqueue : s.toRemove = handle :: rest) :
    Removal { s with toRemove := rest, remover := .joining handle } := by
  have hactive : s.remover ≠ .ended := by simp [hremover]
  have hleaving : s.leaving = handle :: rest := by
    simp [State.leaving, hremover, hqueue, Remover.holding]
  have hleave := h.leaving hactive
  have hnodup := h.nodup hactive
  rw [hleaving] at hleave hnodup
  exact ⟨fun _ => hleave, fun _ => hnodup, by simp⟩

theorem Removal.join (h : Removal s) {handle : ι} (hremover : s.remover = .joining handle) :
    Removal { s.setThread handle (s.threads handle).join with remover := .erasing handle } := by
  have hactive : s.remover ≠ .ended := by simp [hremover]
  have hleaving : s.leaving = handle :: s.toRemove := by
    simp [State.leaving, hremover, Remover.holding]
  have hset : Removal (s.setThread handle (s.threads handle).join) := h.setThread (by simp)
  have hleave := hset.leaving hactive
  have hnodup := h.nodup hactive
  rw [show (s.setThread handle (s.threads handle).join).leaving = s.leaving from rfl,
    hleaving] at hleave
  rw [hleaving] at hnodup
  refine ⟨fun _ => hleave, fun _ => hnodup, ?_⟩
  intro other hother
  cases hother
  simp [State.setThread]

/-- The removal thread erases the handle it has joined; those that wait keep
their entries, since no two handles of the map have one key. -/
theorem Removal.erase {ι : Type} {config : Config ι} {s : State ι} (h : Removal s)
    (hcalls : Calls config s) (hclient : config.entryPoint.isClient = true) {handle : ι}
    (hremover : s.remover = .erasing handle) (hmutex : s.handlesMutex = none) :
    Removal { s.eraseHandle config handle with remover := .waiting } := by
  have hactive : s.remover ≠ .ended := by simp [hremover]
  have hleaving : s.leaving = handle :: s.toRemove := by
    simp [State.leaving, hremover, Remover.holding]
  have hleave := h.leaving hactive
  have hnodup := h.nodup hactive
  rw [hleaving] at hleave hnodup
  have hheld : ∀ other ∈ handle :: s.toRemove, other ∈ s.handles := by
    intro other hother
    rcases (hleave other hother).1 with hmem | hstarted
    · exact hmem
    · cases hmutex.symm.trans (hcalls.locked hclient other (Or.inr hstarted)).1
  refine ⟨fun _ other hother => ⟨Or.inl (mem_eraseHandle.mpr ?_), ?_⟩,
    fun _ => (List.nodup_cons.mp hnodup).2, by simp⟩
  · have hrest : other ∈ handle :: s.toRemove := List.mem_cons_of_mem _ hother
    refine ⟨hheld other hrest, fun hkey => ?_⟩
    have heq := hcalls.eq_of_gIDString (hheld handle List.mem_cons_self)
      (hheld other hrest) hkey
    exact (List.nodup_cons.mp hnodup).1 (heq ▸ hother)
  · exact (hleave other (List.mem_cons_of_mem _ hother)).2

theorem Removal.step {label : Label ι} (h : Removal s) (hcalls : Calls config s)
    (hthreads : Threads config s) (hclient : config.entryPoint.isClient = true)
    (hstep : Step config s label t) : Removal t := by
  cases hstep with
  | refuse handle hidle => exact h.setPhase (by simp [hidle])
  | checkServer handle hidle hserver hstopping => exact h.setPhase (by simp [hidle])
  | checkClient handle hidle hclient hstopping hmutex hfresh =>
      have hset : Removal (s.setPhase handle .checked) := h.setPhase (by simp [hidle])
      exact { hset with }
  | startThread handle hclient hphase =>
      have hset : Removal (s.setPhase handle .started) := h.setPhase (by simp [hphase])
      apply hset.setThread
      intro hremover hmem
      rcases (h.leaving hremover handle hmem).1 with hold | hold
      · exact absurd hold (hcalls.not_mem hphase (Or.inr (Or.inl rfl)))
      · cases hphase.symm.trans hold
  | insert handle hfound =>
      rcases hfound with ⟨-, hphase⟩ | ⟨hserver, -⟩
      · have hfresh := (hcalls.locked hclient handle (Or.inr hphase)).2
        have hset : Removal ((s.insertHandle config handle).setPhase handle .inserted) :=
          (h.insertHandle config handle).setPhase (fun _ => mem_insertHandle hfresh)
        rw [insertHandle_setPhase]
        exact { hset with }
      · cases hserver.symm.trans hclient
  | accept handle hentry hphase hmutex hmem hstopping =>
      rw [hentry] at hclient
      cases hclient
  | startAccepted handle hphase =>
      rw [(hcalls.accepting handle hphase).2.2] at hclient
      cases hclient
  | removeHandle handle hserver => cases hserver.symm.trans hclient
  | finish handle removed hrunning =>
      exact h.finish removed hrunning (hthreads.owned handle (by rw [hrunning]; rfl))
  | removerTake handle rest hremover hqueue => exact h.take hremover hqueue
  | removerJoin handle hremover => exact h.join hremover
  | removerErase handle hremover hmutex => exact h.erase hcalls hclient hremover hmutex
  | removerEnd => exact .of_ended rfl
  | stop => exact { h with }
  | joinRemover hstopper hremover => exact { h with }
  | walkJoinable handle hstopper hmem => exact { h with }
  | walkJoined handle hstopper hmem hjoined => exact { h with }
  | walkJoin handle hstopper => exact .of_ended (hcalls.remover_ended hstopper (by simp))
  | walkErase handle hstopper => exact .of_ended (hcalls.remover_ended hstopper (by simp))
  | walkEnd hstopper hempty => exact .of_ended (hcalls.remover_ended hstopper (by simp))

theorem Threads.setPhase (h : Threads config s) {handle : ι} {phase : Phase}
    (hstarted : s.phases handle = .started → handle ∈ s.handles)
    (hphase : phase = .checked ∨ phase = .started → s.stopper ≠ .returned) :
    Threads config (s.setPhase handle phase) where
  owned := by
    intro other hother
    have hheld := h.owned other hother
    by_cases heq : other = handle
    · subst heq
      exact Or.inl (hheld.elim id hstarted)
    · simpa [State.setPhase, heq] using hheld
  plain := h.plain
  erasing := h.erasing
  returned := by
    intro hreturned
    obtain ⟨hempty, hphases⟩ := h.returned hreturned
    refine ⟨hempty, fun other => ⟨fun hchecked => ?_, fun hstarted => ?_⟩⟩
    · rcases phases_setPhase hchecked with ⟨-, hnew⟩ | ⟨-, hold⟩
      · exact hphase (Or.inl hnew) hreturned
      · exact (hphases other).1 hold
    · rcases phases_setPhase hstarted with ⟨-, hnew⟩ | ⟨-, hold⟩
      · exact hphase (Or.inr hnew) hreturned
      · exact (hphases other).2 hold

theorem Threads.setThread (h : Threads config s) {handle : ι} {thread : HandleThread}
    (hthread : thread.joinable = true → (handle ∈ s.handles ∨ s.phases handle = .started) ∧
      config.entryPoint ≠ .serviceServerSendAndWait ∧ s.stopper ≠ .erasing handle) :
    Threads config (s.setThread handle thread) where
  owned := by
    intro other hother
    by_cases heq : other = handle
    · subst heq
      exact (hthread (by simpa [State.setThread] using hother)).1
    · exact h.owned other (by simpa [State.setThread, heq] using hother)
  plain := by
    intro hentry other
    by_contra hother
    rw [Bool.not_eq_false] at hother
    by_cases heq : other = handle
    · subst heq
      exact (hthread (by simpa [State.setThread] using hother)).2.1 hentry
    · have hold := h.plain hentry other
      simp [State.setThread, heq, hold] at hother
  erasing := by
    intro other hstopper
    by_contra hother
    rw [Bool.not_eq_false] at hother
    by_cases heq : other = handle
    · subst heq
      exact (hthread (by simpa [State.setThread] using hother)).2.2 hstopper
    · have hold := h.erasing other hstopper
      simp [State.setThread, heq, hold] at hother
  returned := h.returned

theorem Threads.insertHandle {ι : Type} {config : Config ι} {s : State ι}
    (h : Threads config s) {handle : ι}
    (hreturned : s.stopper ≠ .returned) : Threads config (s.insertHandle config handle) := by
  rcases insertHandle_cases config s handle with ⟨hsame, -⟩ | ⟨hinsert, -⟩
  · rw [hsame]
    exact h
  · rw [hinsert]
    exact ⟨fun other hother => (h.owned other hother).imp_left (List.mem_append_left _), h.plain,
      h.erasing, fun hstopper => absurd hstopper hreturned⟩

theorem Threads.eraseHandle {ι : Type} {config : Config ι} {s : State ι}
    (h : Threads config s) {handle : ι}
    (hjoined : ∀ other ∈ s.handles, config.gIDString other = config.gIDString handle →
      (s.threads other).joinable = false) : Threads config (s.eraseHandle config handle) where
  owned := by
    intro other hother
    refine (h.owned other hother).imp_left (fun hmem => mem_eraseHandle.mpr ⟨hmem, ?_⟩)
    intro hkey
    cases hother.symm.trans (hjoined other hmem hkey)
  plain := h.plain
  erasing := h.erasing
  returned := by
    intro hreturned
    obtain ⟨hempty, hphases⟩ := h.returned hreturned
    refine ⟨?_, hphases⟩
    simp [State.eraseHandle, hempty]

theorem Threads.setStopper {ι : Type} {config : Config ι} {s : State ι}
    (h : Threads config s) {stopper : Stopper ι}
    (herasing : ∀ handle, stopper = .erasing handle → (s.threads handle).joinable = false)
    (hreturned : stopper ≠ .returned) : Threads config { s with stopper := stopper } where
  owned := h.owned
  plain := h.plain
  erasing := herasing
  returned := fun h => absurd h hreturned

/-- A client's removal thread erases the handle it has joined, and no other. -/
theorem joined_of_erasing {ι : Type} {config : Config ι} {s : State ι} {handle : ι}
    (hcalls : Calls config s) (hthreads : Threads config s)
    (hremoval : config.entryPoint.isClient = true → Removal s)
    (hok : Undisturbed config s .removerErase) (hremover : s.remover = .erasing handle)
    (hmutex : s.handlesMutex = none) :
    ∀ other ∈ s.handles, config.gIDString other = config.gIDString handle →
      (s.threads other).joinable = false := by
  intro other hother hkey
  cases hclient : config.entryPoint.isClient with
  | true =>
      have hkept := hremoval hclient
      have hmem : handle ∈ s.leaving := by simp [State.leaving, hremover, Remover.holding]
      have hheld : handle ∈ s.handles := by
        rcases (hkept.leaving (by simp [hremover]) handle hmem).1 with hheld | hstarted
        · exact hheld
        · cases hmutex.symm.trans (hcalls.locked hclient handle (Or.inr hstarted)).1
      rw [hcalls.eq_of_gIDString hheld hother hkey]
      exact hkept.erasing handle hremover
  | false =>
      cases hentry : config.entryPoint with
      | serviceServerSendAndWait => exact hthreads.plain hentry other
      | actionServerSendGoalAndWait => exact hok hentry handle hremover other hother hkey
      | serviceClientHandle | actionClientHandle =>
          rw [hentry] at hclient
          cases hclient

/-- Queues, the mutex and the removal thread are no matter of the threads. -/
theorem Threads.ofSame {ι : Type} {config : Config ι} {s t : State ι} (h : Threads config s)
    (hphases : t.phases = s.phases) (hthreads : t.threads = s.threads)
    (hhandles : t.handles = s.handles) (hstopper : t.stopper = s.stopper) :
    Threads config t := by
  refine ⟨?_, ?_, ?_, ?_⟩
  · rw [hthreads, hhandles, hphases]
    exact h.owned
  · rw [hthreads]
    exact h.plain
  · rw [hstopper, hthreads]
    exact h.erasing
  · rw [hstopper, hhandles, hphases]
    exact h.returned

/-- The check of a call, which is refused once `stop` has returned. -/
theorem Threads.check (h : Threads config s) (hcalls : Calls config s) {handle : ι}
    (hidle : s.phases handle = .idle) (hstopping : s.stopping = false) :
    Threads config (s.setPhase handle .checked) := by
  apply h.setPhase (by simp [hidle])
  intro _ hreturned
  cases hstopping.symm.trans (hcalls.stopping (by simp [hreturned]))

theorem Threads.startThread (h : Threads config s) (hcalls : Calls config s) {handle : ι}
    (hclient : config.entryPoint.isClient = true) (hphase : s.phases handle = .checked) :
    Threads config ((s.setPhase handle .started).setThread handle .running) := by
  have hset : Threads config (s.setPhase handle .started) := by
    apply h.setPhase (by simp [hphase])
    intro _ hreturned
    exact ((h.returned hreturned).2 handle).1 hphase
  refine hset.setThread (fun _ => ⟨Or.inr (by simp [State.setPhase]), ?_, ?_⟩)
  · intro hentry
    rw [hentry] at hclient
    cases hclient
  · intro hstopper
    exact hcalls.not_mem hphase (Or.inr (Or.inl rfl)) (hcalls.taken handle (Or.inr hstopper)).1

theorem Threads.insert (h : Threads config s) (hcalls : Calls config s) {handle : ι}
    (hphase : s.phases handle = .checked ∨ s.phases handle = .started) :
    Threads config ((s.setPhase handle .inserted).insertHandle config handle) := by
  have hreturned : s.stopper ≠ .returned := by
    intro hreturned
    obtain ⟨hchecked, hstarted⟩ := (h.returned hreturned).2 handle
    exact hphase.elim hchecked hstarted
  rw [insertHandle_setPhase]
  refine (h.insertHandle hreturned).setPhase ?_ (by simp)
  intro hstarted
  rw [(insertHandle_frame config s handle).1] at hstarted
  have hclient := hcalls.started handle hstarted
  exact mem_insertHandle (hcalls.locked hclient handle (Or.inr hstarted)).2

theorem Threads.startAccepted (h : Threads config s) (hcalls : Calls config s) {handle : ι}
    (hphase : s.phases handle = .accepting) :
    Threads config ((s.setPhase handle .inserted).setThread handle .running) := by
  obtain ⟨-, hmem, hentry⟩ := hcalls.accepting handle hphase
  have hset : Threads config (s.setPhase handle .inserted) :=
    h.setPhase (by simp [hphase]) (by simp)
  refine hset.setThread (fun _ => ⟨Or.inl hmem, by simp [hentry], fun hstopper => ?_⟩)
  exact (hcalls.taken handle (Or.inr hstopper)).2 hphase

theorem Threads.finish (h : Threads config s) {handle : ι}
    (hrunning : s.threads handle = .running) :
    Threads config (s.setThread handle .ended) := by
  have hjoinable : (s.threads handle).joinable = true := by
    rw [hrunning]
    rfl
  refine h.setThread (fun _ => ⟨h.owned handle hjoinable, fun hentry => ?_, fun hstopper => ?_⟩)
  · cases hjoinable.symm.trans (h.plain hentry handle)
  · cases hjoinable.symm.trans (h.erasing handle hstopper)

theorem Threads.step {label : Label ι} (h : Threads config s) (hcalls : Calls config s)
    (hremoval : config.entryPoint.isClient = true → Removal s)
    (hstep : Step config s label t) (hok : Undisturbed config s label) : Threads config t := by
  cases hstep with
  | refuse handle hidle => exact h.setPhase (by simp [hidle]) (by simp)
  | checkServer handle hidle hserver hstopping => exact h.check hcalls hidle hstopping
  | checkClient handle hidle hclient hstopping hmutex hfresh =>
      exact (h.check hcalls hidle hstopping).ofSame rfl rfl rfl rfl
  | startThread handle hclient hphase => exact h.startThread hcalls hclient hphase
  | insert handle hfound =>
      have hphase : s.phases handle = .checked ∨ s.phases handle = .started :=
        hfound.symm.imp (fun hserver => hserver.2.1) And.right
      exact (h.insert hcalls hphase).ofSame rfl rfl rfl rfl
  | accept handle hentry hphase hmutex hmem hstopping =>
      have hset : Threads config (s.setPhase handle .accepting) :=
        h.setPhase (by simp [hphase]) (by simp)
      exact hset.ofSame rfl rfl rfl rfl
  | startAccepted handle hphase =>
      exact (h.startAccepted hcalls hphase).ofSame rfl rfl rfl rfl
  | removeHandle handle hserver => exact h.ofSame rfl rfl rfl rfl
  | finish handle removed hrunning => exact (h.finish hrunning).ofSame rfl rfl rfl rfl
  | removerTake handle rest hremover hqueue => exact h.ofSame rfl rfl rfl rfl
  | removerJoin handle hremover =>
      have hset : Threads config (s.setThread handle (s.threads handle).join) :=
        h.setThread (by simp)
      exact hset.ofSame rfl rfl rfl rfl
  | removerErase handle hremover hmutex =>
      have hset := h.eraseHandle (joined_of_erasing hcalls h hremoval hok hremover hmutex)
      exact hset.ofSame rfl rfl rfl rfl
  | removerEnd => exact h.ofSame rfl rfl rfl rfl
  | stop =>
      have hset : Threads config { s with stopper := .joiningRemover } :=
        h.setStopper (by simp) (by simp)
      exact hset.ofSame rfl rfl rfl rfl
  | joinRemover hstopper hremover => exact h.setStopper (by simp) (by simp)
  | walkJoinable handle hstopper hmem => exact h.setStopper (by simp) (by simp)
  | walkJoined handle hstopper hmem hjoined => exact h.setStopper (by simpa using hjoined) (by simp)
  | walkJoin handle hstopper =>
      have hset : Threads config (s.setThread handle .joined) :=
        h.setThread (by simp [HandleThread.joinable])
      exact hset.setStopper (by simp [State.setThread, HandleThread.joinable]) (by simp)
  | walkErase handle hstopper =>
      have hwalking : Threads config { s with stopper := .walking } :=
        h.setStopper (by simp) (by simp)
      apply hwalking.eraseHandle
      intro other hother hkey
      rw [hcalls.eq_of_gIDString (hcalls.taken handle (Or.inr hstopper)).1 hother hkey]
      exact h.erasing handle hstopper
  | walkEnd hstopper hempty => exact ⟨h.owned, h.plain, by simp, fun _ => ⟨hempty, hok⟩⟩

theorem invariant_of_reachable (h : (plugin config).ReachableWith (Undisturbed config) s) :
    Calls config s ∧ (config.entryPoint.isClient = true → Removal s) ∧ Threads config s := by
  refine h.invariant
    (fun s => Calls config s ∧ (config.entryPoint.isClient = true → Removal s) ∧ Threads config s)
    ⟨.start, fun _ => .start, .start⟩ ?_
  rintro s label ⟨hcalls, hremoval, hthreads⟩ henabled hok
  have hstep : Step config s label (next config s label) := .of_enabled henabled
  exact ⟨hcalls.step hstep hok,
    fun hclient => (hremoval hclient).step hcalls hthreads hclient hstep,
    hthreads.step hcalls hremoval hstep hok⟩

/-- The steps that insert a handle or start the thread of one. -/
def Label.adds : Label ι → Bool
  | .startThread _ | .insert _ | .startAccepted _ => true
  | _ => false

/-- Once `stop` has returned, no handle is left, every thread of a handle has
been joined, and no step inserts a handle or starts a thread. -/
theorem stop_empties (config : Config ι) (s : State ι)
    (h : (plugin config).ReachableWith (Undisturbed config) s) (hreturned : s.stopper = .returned) :
    s.handles = [] ∧ (∀ handle, (s.threads handle).joinable = false) ∧
      ∀ label, enabled config s label = true → label.adds = false := by
  obtain ⟨hcalls, -, hthreads⟩ := invariant_of_reachable h
  obtain ⟨hempty, hphases⟩ := hthreads.returned hreturned
  refine ⟨hempty, fun handle => ?_, fun label henabled => ?_⟩
  · by_contra hjoinable
    rw [Bool.not_eq_false] at hjoinable
    rcases hthreads.owned handle hjoinable with hmem | hstarted
    · rw [hempty] at hmem
      cases hmem
    · exact (hphases handle).2 hstarted
  · obtain ⟨t, hstep⟩ : ∃ t, Step config s label t := ⟨_, .of_enabled henabled⟩
    cases hstep with
    | startThread handle hclient hphase => exact absurd hphase (hphases handle).1
    | insert handle hfound =>
        rcases hfound with ⟨-, hphase⟩ | ⟨-, hphase, -⟩
        · exact absurd hphase (hphases handle).2
        · exact absurd hphase (hphases handle).1
    | startAccepted handle hphase =>
        have hmem := (hcalls.accepting handle hphase).2.1
        rw [hempty] at hmem
        cases hmem
    | _ => rfl

/-- A client with one call. -/
def singleCall : Config Unit := ⟨.serviceClientHandle, fun _ => [7]⟩

/-- The handle is in the map when `stop` is called. -/
theorem stop_empties_client :
    ∃ s : State Unit, s.threads () = .joined ∧ s.handles = [] ∧
      (∀ handle, (s.threads handle).joinable = false) ∧
      ∀ label, enabled singleCall s label = true → label.adds = false := by
  have hrun : ∃ s, (plugin singleCall).ReachableWith (Undisturbed singleCall) s ∧
      s.stopper = .returned ∧ s.threads () = .joined :=
    Machine.ReachableWith.exists_replay (fun _ _ h => h)
      (fun s : State Unit => s.stopper = .returned ∧ s.threads () = .joined) .start
      [.check (), .startThread (), .insert (), .stop, .removerEnd, .joinRemover, .walk (),
        .finish () true, .walkJoin, .walkErase, .walkEnd] (by decide)
  obtain ⟨s, hreach, hreturned, hthread⟩ := hrun
  exact ⟨s, hthread, stop_empties singleCall s hreach hreturned⟩

/-- `handle` of a client has read `stopping` as false, `stop` runs and returns,
and then the thread is started and the handle inserted. -/
theorem stop_leaves_handle :
    ∃ s : State Unit, (plugin singleCall).Reachable s ∧
      s.stopper = .returned ∧ s.handles = [()] ∧ s.threads () = .running :=
  Machine.exists_reachable
    (fun s : State Unit => s.stopper = .returned ∧ s.handles = [()] ∧ s.threads () = .running)
    [.check (), .stop, .removerEnd, .joinRemover, .walkEnd, .startThread (), .insert ()]
    (by decide)

end Stopping

end Ros2Connect
