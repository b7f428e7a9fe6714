import Ros2Connect.Lib.Transition
import Ros2Connect.ServiceAction.Handle

/-!
`Service::stop` and `Action::stop` next to the functions that insert into
`handles`: the check of `stopping`, the start of a handle's thread and the
insertion are steps of their own, as are those of `stop` and of
`executeRemove`. `handles` is given by the handles it holds, each under its own
key.
-/

namespace Ros2Connect

open Lib

namespace Stopping

/-- The functions that insert into `handles`. -/
inductive EntryPoint where
  | serviceServerSendAndWait
  | serviceClientHandle
  | actionServerSendGoalAndWait
  | actionClientHandle
  deriving Repr, DecidableEq

/-- The clients hold `handlesMutex` from the lookup to the insertion and start
the thread of the handle in between. -/
def EntryPoint.isClient : EntryPoint → Bool
  | .serviceServerSendAndWait | .actionServerSendGoalAndWait => false
  | .serviceClientHandle | .actionClientHandle => true

/-- A call creates one handle and is named by it. -/
structure Config (ι : Type) where
  entryPoint : EntryPoint
  gID : ι → Bytes

def Config.gIDString {ι : Type} (config : Config ι) (handle : ι) : Bytes :=
  ServiceActionHandle.gIDString (config.gID handle)

inductive Phase where
  | idle
  | refused
  /-- The call has read `stopping` as false. -/
  | checked
  /-- The thread of the handle runs, and the handle is not inserted yet. -/
  | started
  | inserted
  /-- `handleAccepted` has read `stopping` as false. -/
  | accepting
  deriving Repr, DecidableEq

/-- `ServiceActionHandle::thread`. -/
inductive HandleThread where
  | absent
  | running
  | ended
  | joined
  deriving Repr, DecidableEq

def HandleThread.joinable : HandleThread → Bool
  | absent | joined => false
  | running | ended => true

def HandleThread.join : HandleThread → HandleThread
  | absent => absent
  | _ => joined

@[simp] theorem HandleThread.joinable_join (thread : HandleThread) :
    thread.join.joinable = false := by
  cases thread <;> rfl

/-- How far `executeRemove` has come. -/
inductive Remover (ι : Type) where
  | waiting
  | joining (handle : ι)
  | erasing (handle : ι)
  | ended
  deriving Repr, DecidableEq

/-- How far `stop` has come. -/
inductive Stopper (ι : Type) where
  | idle
  | joiningRemover
  | walking
  | joining (handle : ι)
  | erasing (handle : ι)
  | returned
  deriving Repr, DecidableEq

structure State (ι : Type) where
  stopping : Bool
  phases : ι → Phase
  threads : ι → HandleThread
  handles : List ι
  /-- The call that holds `handlesMutex` from one step to the next. -/
  handlesMutex : Option ι
  toRemove : List ι
  remover : Remover ι
  stopper : Stopper ι

inductive Label (ι : Type) where
  | check (handle : ι)
  | startThread (handle : ι)
  | insert (handle : ι)
  | accept (handle : ι)
  | startAccepted (handle : ι)
  | removeHandle (handle : ι)
  /-- The thread of a handle ends, most often with a call of `removeHandle`. -/
  | finish (handle : ι) (removed : Bool)
  | removerTake
  | removerJoin
  | removerErase
  | removerEnd
  | stop
  | joinRemover
  | walk (handle : ι)
  | walkJoin
  | walkErase
  | walkEnd
  deriving DecidableEq

variable {ι : Type} [DecidableEq ι]

namespace State

def start : State ι where
  stopping := false
  phases := fun _ => .idle
  threads := fun _ => .absent
  handles := []
  handlesMutex := none
  toRemove := []
  remover := .waiting
  stopper := .idle

def setPhase (s : State ι) (handle : ι) (phase : Phase) : State ι :=
  { s with phases := Function.update s.phases handle phase }

def setThread (s : State ι) (handle : ι) (thread : HandleThread) : State ι :=
  { s with threads := Function.update s.threads handle thread }

def find (config : Config ι) (s : State ι) (gidString : Bytes) : Option ι :=
  s.handles.find? fun handle => config.gIDString handle == gidString

def insertHandle (config : Config ι) (s : State ι) (handle : ι) : State ι :=
  match s.find config (config.gIDString handle) with
  | some _ => s
  | none => { s with handles := s.handles ++ [handle] }

def eraseHandle (config : Config ι) (s : State ι) (handle : ι) : State ι :=
  { s with
    handles := s.handles.filter fun other => config.gIDString other != config.gIDString handle }

/-- The start of `sendAndWait` and of `sendGoalAndWait`. -/
def checkServer (s : State ι) (handle : ι) : State ι :=
  s.setPhase handle (if s.stopping then .refused else .checked)

/-- The start of `handle` of a client for a request or a goal. -/
def checkClient (config : Config ι) (s : State ι) (handle : ι) : State ι :=
  match s.find config (config.gIDString handle) with
  | some _ => s.setPhase handle .refused
  | none =>
      if s.stopping then s.setPhase handle .refused
      else { s.setPhase handle .checked with handlesMutex := some handle }

end State

def check (config : Config ι) (s : State ι) (handle : ι) : State ι :=
  match config.entryPoint with
  | .serviceServerSendAndWait | .actionServerSendGoalAndWait => s.checkServer handle
  | .serviceClientHandle | .actionClientHandle => s.checkClient config handle

def enabled (config : Config ι) (s : State ι) : Label ι → Bool
  | .check handle =>
      s.phases handle == .idle && (!config.entryPoint.isClient || s.handlesMutex.isNone)
  | .startThread handle => config.entryPoint.isClient && s.phases handle == .checked
  | .insert handle =>
      if config.entryPoint.isClient then s.phases handle == .started
      else s.phases handle == .checked && s.handlesMutex.isNone
  | .accept handle =>
      config.entryPoint == .actionServerSendGoalAndWait && s.phases handle == .inserted &&
        s.handlesMutex.isNone && s.find config (config.gIDString handle) == some handle &&
        !(s.threads handle).joinable && !s.stopping
  | .startAccepted handle => s.phases handle == .accepting
  | .removeHandle handle =>
      !config.entryPoint.isClient &&
        (s.phases handle == .inserted || s.phases handle == .accepting)
  | .finish handle _ => s.threads handle == .running
  | .removerTake => s.remover == .waiting && !s.stopping && !s.toRemove.isEmpty
  | .removerJoin =>
      match s.remover with
      | .joining handle => s.threads handle != .running
      | _ => false
  | .removerErase =>
      match s.remover with
      | .erasing _ => s.handlesMutex.isNone
      | _ => false
  | .removerEnd => s.remover == .waiting && s.stopping
  | .stop => s.stopper == .idle
  | .joinRemover => s.stopper == .joiningRemover && s.remover == .ended
  | .walk handle => s.stopper == .walking && decide (handle ∈ s.handles)
  | .walkJoin =>
      match s.stopper with
      | .joining handle => s.threads handle == .ended
      | _ => false
  | .walkErase =>
      match s.stopper with
      | .erasing _ => true
      | _ => false
  | .walkEnd => s.stopper == .walking && s.handles.isEmpty

def next (config : Config ι) (s : State ι) : Label ι → State ι
  | .check handle => check config s handle
  | .startThread handle => (s.setPhase handle .started).setThread handle .running
  | .insert handle =>
      { (s.setPhase handle .inserted).insertHandle config handle with handlesMutex := none }
  | .accept handle => { s.setPhase handle .accepting with handlesMutex := some handle }
  | .startAccepted handle =>
      { (s.setPhase handle .inserted).setThread handle .running with handlesMutex := none }
  | .removeHandle handle => { s with toRemove := s.toRemove ++ [handle] }
  | .finish handle removed =>
      { s.setThread handle .ended with
        toRemove := s.toRemove ++ if removed then [handle] else [] }
  | .removerTake =>
      match s.toRemove with
      | [] => s
      | handle :: rest => { s with toRemove := rest, remover := .joining handle }
  | .removerJoin =>
      match s.remover with
      | .joining handle =>
          { s.setThread handle (s.threads handle).join with remover := .erasing handle }
      | _ => s
  | .removerErase =>
      match s.remover with
      | .erasing handle => { s.eraseHandle config handle with remover := .waiting }
      | _ => s
  | .removerEnd => { s with remover := .ended }
  | .stop => { s with stopping := true, stopper := .joiningRemover }
  | .joinRemover => { s with stopper := .walking }
  | .walk handle =>
      { s with stopper := if (s.threads handle).joinable then .joining handle else .erasing handle }
  | .walkJoin =>
      match s.stopper with
      | .joining handle => { s.setThread handle .joined with stopper := .erasing handle }
      | _ => s
  | .walkErase =>
      match s.stopper with
      | .erasing handle => { s.eraseHandle config handle with stopper := .walking }
      | _ => s
  | .walkEnd => { s with toRemove := [], stopper := .returned }

/-- The handles of one plugin. -/
def plugin (config : Config ι) : Machine (State ι) (Label ι) where
  start := .start
  enabled := enabled config
  next := next config

variable {config : Config ι} {s : State ι}

theorem phases_setPhase {handle other : ι} {phase found : Phase}
    (h : (s.setPhase handle phase).phases other = found) :
    (other = handle ∧ phase = found) ∨ (other ≠ handle ∧ s.phases other = found) := by
  by_cases hother : other = handle
  · subst hother
    exact Or.inl ⟨rfl, by simpa [State.setPhase] using h⟩
  · exact Or.inr ⟨hother, by simpa [State.setPhase, hother] using h⟩

theorem mem_eraseHandle {ι : Type} {config : Config ι} {s : State ι} {handle other : ι} :
    other ∈ (s.eraseHandle config handle).handles ↔
      other ∈ s.handles ∧ config.gIDString other ≠ config.gIDString handle := by
  simp [State.eraseHandle]

theorem find_eq_none {ι : Type} {config : Config ι} {s : State ι} {gidString : Bytes} :
    s.find config gidString = none ↔ ∀ other ∈ s.handles, config.gIDString other ≠ gidString := by
  simp [State.find]

/-- `check` refuses the call or finds that it may go on. -/
theorem check_cases (config : Config ι) (s : State ι) (handle : ι) :
    check config s handle = s.setPhase handle .refused ∨
    (config.entryPoint.isClient = false ∧ s.stopping = false ∧
      check config s handle = s.setPhase handle .checked) ∨
    (config.entryPoint.isClient = true ∧ s.stopping = false ∧
      (∀ other ∈ s.handles, config.gIDString other ≠ config.gIDString handle) ∧
      check config s handle =
        { s.setPhase handle .checked with handlesMutex := some handle }) := by
  have hserver : s.checkServer handle = s.setPhase handle .refused ∨
      (s.stopping = false ∧ s.checkServer handle = s.setPhase handle .checked) := by
    unfold State.checkServer
    cases s.stopping with
    | false => exact Or.inr ⟨rfl, rfl⟩
    | true => exact Or.inl rfl
  have hclient : s.checkClient config handle = s.setPhase handle .refused ∨
      (s.stopping = false ∧
        (∀ other ∈ s.handles, config.gIDString other ≠ config.gIDString handle) ∧
        s.checkClient config handle =
          { s.setPhase handle .checked with handlesMutex := some handle }) := by
    unfold State.checkClient
    cases hfind : s.find config (config.gIDString handle) with
    | some _ => exact Or.inl rfl
    | none =>
        cases s.stopping with
        | false => exact Or.inr ⟨rfl, find_eq_none.mp hfind, rfl⟩
        | true => exact Or.inl rfl
  unfold check
  cases config.entryPoint with
  | serviceServerSendAndWait | actionServerSendGoalAndWait =>
      rcases hserver with hrefused | ⟨hstopping, hchecked⟩
      · exact Or.inl hrefused
      · exact Or.inr (Or.inl ⟨rfl, hstopping, hchecked⟩)
  | serviceClientHandle | actionClientHandle =>
      rcases hclient with hrefused | ⟨hstopping, hfresh, hchecked⟩
      · exact Or.inl hrefused
      · exact Or.inr (Or.inr ⟨rfl, hstopping, hfresh, hchecked⟩)

theorem insertHandle_cases {ι : Type} (config : Config ι) (s : State ι) (handle : ι) :
    (s.insertHandle config handle = s ∧
      ∃ other ∈ s.handles, config.gIDString other = config.gIDString handle) ∨
    (s.insertHandle config handle = { s with handles := s.handles ++ [handle] } ∧
      ∀ other ∈ s.handles, config.gIDString other ≠ config.gIDString handle) := by
  unfold State.insertHandle
  cases hfind : s.find config (config.gIDString handle) with
  | some other =>
      refine Or.inl ⟨rfl, other, List.mem_of_find?_eq_some hfind, ?_⟩
      simpa using List.find?_some hfind
  | none => exact Or.inr ⟨rfl, find_eq_none.mp hfind⟩

theorem insertHandle_frame {ι : Type} (config : Config ι) (s : State ι) (handle : ι) :
    (s.insertHandle config handle).phases = s.phases ∧
      (s.insertHandle config handle).threads = s.threads ∧
      (s.insertHandle config handle).handlesMutex = s.handlesMutex := by
  rcases insertHandle_cases config s handle with ⟨hsame, -⟩ | ⟨hinsert, -⟩
  · rw [hsame]
    exact ⟨rfl, rfl, rfl⟩
  · rw [hinsert]
    exact ⟨rfl, rfl, rfl⟩

theorem insertHandle_setPhase (config : Config ι) (s : State ι) (handle : ι) (phase : Phase) :
    (s.setPhase handle phase).insertHandle config handle =
      (s.insertHandle config handle).setPhase handle phase := by
  have hfind : (s.setPhase handle phase).find config (config.gIDString handle) =
      s.find config (config.gIDString handle) := rfl
  unfold State.insertHandle
  rw [hfind]
  cases s.find config (config.gIDString handle) <;> rfl

/-- A handle is in the map after its insertion if its key was free. -/
theorem mem_insertHandle {ι : Type} {config : Config ι} {s : State ι} {handle : ι}
    (hfresh : ∀ other ∈ s.handles, config.gIDString other ≠ config.gIDString handle) :
    handle ∈ (s.insertHandle config handle).handles := by
  rcases insertHandle_cases config s handle with ⟨-, other, hother, hkey⟩ | ⟨hinsert, -⟩
  · exact absurd hkey (hfresh other hother)
  · simp [hinsert]

/-- What is left to be true of the steps for `stop` to keep its promise: the
thread of an accepted goal is not about to start when `stop` takes its handle,
the removal thread of an action server erases no handle whose thread has not
been joined, and no call is between its check of `stopping` and its insertion
when `stop` finds no handle left. -/
def Undisturbed (config : Config ι) (s : State ι) : Label ι → Prop
  | .walk handle => s.phases handle ≠ .accepting
  | .removerErase => config.entryPoint = .actionServerSendGoalAndWait →
      ∀ handle, s.remover = .erasing handle → ∀ other ∈ s.handles,
        config.gIDString other = config.gIDString handle → (s.threads other).joinable = false
  | .walkEnd => ∀ handle, s.phases handle ≠ .checked ∧ s.phases handle ≠ .started
  | _ => True

instance [Fintype ι] (config : Config ι) (s : State ι) :
    (label : Label ι) → Decidable (Undisturbed config s label)
  | .walk handle => inferInstanceAs (Decidable (s.phases handle ≠ .accepting))
  | .removerErase => inferInstanceAs (Decidable
      (config.entryPoint = .actionServerSendGoalAndWait →
        ∀ handle, s.remover = .erasing handle → ∀ other ∈ s.handles,
          config.gIDString other = config.gIDString handle →
            (s.threads other).joinable = false))
  | .walkEnd => inferInstanceAs (Decidable
      (∀ handle, s.phases handle ≠ .checked ∧ s.phases handle ≠ .started))
  | .check _ | .startThread _ | .insert _ | .accept _ | .startAccepted _ | .removeHandle _
  | .finish _ _ | .removerTake | .removerJoin | .removerEnd | .stop | .joinRemover | .walkJoin
  | .walkErase => isTrue trivial

/-- Each thing a step can do, with what it found. -/
inductive Step (config : Config ι) (s : State ι) : Label ι → State ι → Prop where
  | refuse (handle : ι) (hidle : s.phases handle = .idle) :
      Step config s (.check handle) (s.setPhase handle .refused)
  | checkServer (handle : ι) (hidle : s.phases handle = .idle)
      (hserver : config.entryPoint.isClient = false) (hstopping : s.stopping = false) :
      Step config s (.check handle) (s.setPhase handle .checked)
  | checkClient (handle : ι) (hidle : s.phases handle = .idle)
      (hclient : config.entryPoint.isClient = true) (hstopping : s.stopping = false)
      (hmutex : s.handlesMutex = none)
      (hfresh : ∀ other ∈ s.handles, config.gIDString other ≠ config.gIDString handle) :
      Step config s (.check handle)
        { s.setPhase handle .checked with handlesMutex := some handle }
  | startThread (handle : ι) (hclient : config.entryPoint.isClient = true)
      (hphase : s.phases handle = .checked) :
      Step config s (.startThread handle)
        ((s.setPhase handle .started).setThread handle .running)
  | insert (handle : ι) (hfound :
      config.entryPoint.isClient = true ∧ s.phases handle = .started ∨
        config.entryPoint.isClient = false ∧ s.phases handle = .checked ∧
          s.handlesMutex = none) :
      Step config s (.insert handle)
        { (s.setPhase handle .inserted).insertHandle config handle with handlesMutex := none }
  | accept (handle : ι) (hentry : config.entryPoint = .actionServerSendGoalAndWait)
      (hphase : s.phases handle = .inserted) (hmutex : s.handlesMutex = none)
      (hmem : handle ∈ s.handles) (hstopping : s.stopping = false) :
      Step config s (.accept handle)
        { s.setPhase handle .accepting with handlesMutex := some handle }
  | startAccepted (handle : ι) (hphase : s.phases handle = .accepting) :
      Step config s (.startAccepted handle)
        { (s.setPhase handle .inserted).setThread handle .running with handlesMutex := none }
  | removeHandle (handle : ι) (hserver : config.entryPoint.isClient = false) :
      Step config s (.removeHandle handle) { s with toRemove := s.toRemove ++ [handle] }
  | finish (handle : ι) (removed : Bool) (hrunning : s.threads handle = .running) :
      Step config s (.finish handle removed)
        { s.setThread handle .ended with
          toRemove := s.toRemove ++ if removed then [handle] else [] }
  | removerTake (handle : ι) (rest : List ι) (hremover : s.remover = .waiting)
      (hqueue : s.toRemove = handle :: rest) :
      Step config s .removerTake { s with toRemove := rest, remover := .joining handle }
  | removerJoin (handle : ι) (hremover : s.remover = .joining handle) :
      Step config s .removerJoin
        { s.setThread handle (s.threads handle).join with remover := .erasing handle }
  | removerErase (handle : ι) (hremover : s.remover = .erasing handle)
      (hmutex : s.handlesMutex = none) :
      Step config s .removerErase { s.eraseHandle config handle with remover := .waiting }
  | removerEnd : Step config s .removerEnd { s with remover := .ended }
  | stop : Step config s .stop { s with stopping := true, stopper := .joiningRemover }
  | joinRemover (hstopper : s.stopper = .joiningRemover) (hremover : s.remover = .ended) :
      Step config s .joinRemover { s with stopper := .walking }
  | walkJoinable (handle : ι) (hstopper : s.stopper = .walking) (hmem : handle ∈ s.handles) :
      Step config s (.walk handle) { s with stopper := .joining handle }
  | walkJoined (handle : ι) (hstopper : s.stopper = .walking) (hmem : handle ∈ s.handles)
      (hjoined : (s.threads handle).joinable = false) :
      Step config s (.walk handle) { s with stopper := .erasing handle }
  | walkJoin (handle : ι) (hstopper : s.stopper = .joining handle) :
      Step config s .walkJoin { s.setThread handle .joined with stopper := .erasing handle }
  | walkErase (handle : ι) (hstopper : s.stopper = .erasing handle) :
      Step config s .walkErase { s.eraseHandle config handle with stopper := .walking }
  | walkEnd (hstopper : s.stopper = .walking) (hempty : s.handles = []) :
      Step config s .walkEnd { s with toRemove := [], stopper := .returned }

theorem Step.of_check {handle : ι} (henabled : enabled config s (.check handle) = true) :
    Step config s (.check handle) (check config s handle) := by
  obtain ⟨hidle, hmutex⟩ : s.phases handle = .idle ∧
      (config.entryPoint.isClient = true → s.handlesMutex = none) := by
    simpa [enabled, imp_iff_not_or] using henabled
  rcases check_cases config s handle with hcheck | ⟨hserver, hstopping, hcheck⟩ |
    ⟨hclient, hstopping, hfresh, hcheck⟩
  · rw [hcheck]
    exact .refuse handle hidle
  · rw [hcheck]
    exact .checkServer handle hidle hserver hstopping
  · rw [hcheck]
    exact .checkClient handle hidle hclient hstopping (hmutex hclient) hfresh

theorem Step.of_remover {label : Label ι} (henabled : enabled config s label = true)
    (hlabel : label = .removerTake ∨ label = .removerJoin ∨ label = .removerErase) :
    Step config s label (next config s label) := by
  rcases hlabel with rfl | rfl | rfl
  · simp only [enabled, Bool.and_eq_true, beq_iff_eq] at henabled
    cases hqueue : s.toRemove with
    | nil => simp [hqueue] at henabled
    | cons handle rest =>
        simp only [next, hqueue]
        exact .removerTake handle rest henabled.1.1 hqueue
  · cases hremover : s.remover with
    | joining handle =>
        simp only [next, hremover]
        exact .removerJoin handle hremover
    | waiting | erasing handle | ended => simp [enabled, hremover] at henabled
  · cases hremover : s.remover with
    | erasing handle =>
        simp only [next, hremover]
        exact .removerErase handle hremover (by simpa [enabled, hremover] using henabled)
    | waiting | joining handle | ended => simp [enabled, hremover] at henabled

theorem Step.of_walk {label : Label ι} (henabled : enabled config s label = true)
    (hlabel : label = .walkJoin ∨ label = .walkErase) :
    Step config s label (next config s label) := by
  rcases hlabel with rfl | rfl
  · cases hstopper : s.stopper with
    | joining handle =>
        simp only [next, hstopper]
        exact .walkJoin handle hstopper
    | idle | joiningRemover | walking | erasing handle | returned =>
        simp [enabled, hstopper] at henabled
  · cases hstopper : s.stopper with
    | erasing handle =>
        simp only [next, hstopper]
        exact .walkErase handle hstopper
    | idle | joiningRemover | walking | joining handle | returned =>
        simp [enabled, hstopper] at henabled

theorem Step.of_enabled {label : Label ι} (henabled : enabled config s label = true) :
    Step config s label (next config s label) := by
  cases label with
  | check handle => exact .of_check henabled
  | startThread handle =>
      simp only [enabled, Bool.and_eq_true, beq_iff_eq] at henabled
      exact .startThread handle henabled.1 henabled.2
  | insert handle =>
      refine .insert handle ?_
      cases hclient : config.entryPoint.isClient <;>
        simpa [enabled, hclient] using henabled
  | accept handle =>
      simp only [enabled, Bool.and_eq_true, beq_iff_eq, Option.isNone_iff_eq_none,
        Bool.not_eq_true'] at henabled
      obtain ⟨⟨⟨⟨⟨hentry, hphase⟩, hmutex⟩, hfind⟩, -⟩, hstopping⟩ := henabled
      exact .accept handle hentry hphase hmutex (List.mem_of_find?_eq_some hfind) hstopping
  | startAccepted handle => exact .startAccepted handle (by simpa [enabled] using henabled)
  | removeHandle handle =>
      simp only [enabled, Bool.and_eq_true, Bool.not_eq_true'] at henabled
      exact .removeHandle handle henabled.1
  | finish handle removed => exact .finish handle removed (by simpa [enabled] using henabled)
  | removerTake => exact .of_remover henabled (Or.inl rfl)
  | removerJoin => exact .of_remover henabled (Or.inr (Or.inl rfl))
  | removerErase => exact .of_remover henabled (Or.inr (Or.inr rfl))
  | removerEnd => exact .removerEnd
  | stop => exact .stop
  | joinRemover =>
      simp only [enabled, Bool.and_eq_true, beq_iff_eq] at henabled
      exact .joinRemover henabled.1 henabled.2
  | walk handle =>
      simp only [enabled, Bool.and_eq_true, beq_iff_eq, decide_eq_true_eq] at henabled
      simp only [next]
      split
      · exact .walkJoinable handle henabled.1 henabled.2
      · rename_i hjoinable
        exact .walkJoined handle henabled.1 henabled.2 (by simpa using hjoinable)
  | walkJoin => exact .of_walk henabled (Or.inl rfl)
  | walkErase => exact .of_walk henabled (Or.inr rfl)
  | walkEnd =>
      simp only [enabled, Bool.and_eq_true, beq_iff_eq, List.isEmpty_iff] at henabled
      exact .walkEnd henabled.1 henabled.2

end Stopping

end Ros2Connect
