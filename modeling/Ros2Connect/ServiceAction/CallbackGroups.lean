import Ros2Connect.Lib.Transition
import Ros2Connect.Parameters.Accepted

/-!
The callback groups `ServiceActionManager` puts its plugins in, and the
schedules of an executor: callbacks of a mutually exclusive group do not overlap,
those of a reentrant group may.
-/

namespace Ros2Connect

open Lib

namespace CallbackGroups

inductive CallbackGroupType where
  | mutuallyExclusive
  | reentrant
  deriving Repr, DecidableEq

structure CallbackGroup where
  id : Nat
  type : CallbackGroupType
  deriving Repr, DecidableEq

/-- A plugin `init` has created. -/
structure Registration where
  role : Role
  entry : ServiceActionDefinition
  callbackGroup : CallbackGroup
  deriving DecidableEq

/-- The groups the constructor creates. -/
def serviceReentrantCallbackGroup : CallbackGroup := ⟨0, .reentrant⟩

def actionReentrantCallbackGroup : CallbackGroup := ⟨1, .reentrant⟩

/-- The group of an entry; `created` is what `create_callback_group` numbers
the next group with. -/
def callbackGroup (shared : CallbackGroup) (created : Nat) (entry : ServiceActionDefinition) :
    CallbackGroup :=
  if entry.useOwnThread then
    if entry.allowSimultaneous then ⟨created, .mutuallyExclusive⟩ else ⟨created, .reentrant⟩
  else shared

/-- One of the four loops of `init`. -/
def initEntries (role : Role) (shared : CallbackGroup) (created : Nat) :
    List ServiceActionDefinition → List Registration
  | [] => []
  | entry :: rest =>
      ⟨role, entry, callbackGroup shared created entry⟩ ::
        initEntries role shared (created + 1) rest

def init (accepted : Accepted) : List Registration :=
  let servers := accepted.serviceServer.length
  let clients := accepted.serviceClient.length
  let actions := accepted.actionServer.length
  initEntries .serviceServer serviceReentrantCallbackGroup 2 accepted.serviceServer ++
    initEntries .serviceClient serviceReentrantCallbackGroup (2 + servers)
      accepted.serviceClient ++
    initEntries .actionServer actionReentrantCallbackGroup (2 + servers + clients)
      accepted.actionServer ++
    initEntries .actionClient actionReentrantCallbackGroup (2 + servers + clients + actions)
      accepted.actionClient

/-- A callback begins or ends; it is named by the place of its registration. -/
inductive Label where
  | begin (place : Nat)
  | finish (place : Nat)
  deriving Repr, DecidableEq

def groupAt (registrations : List Registration) (place : Nat) : Option CallbackGroup :=
  (registrations[place]?).map Registration.callbackGroup

/-- The executor with the callbacks that are active. -/
def executor (registrations : List Registration) : Machine (List Nat) Label where
  start := []
  enabled := fun active label =>
    match label with
    | .begin place =>
        match groupAt registrations place with
        | none => false
        | some group =>
            group.type == .reentrant ||
              active.all fun other => groupAt registrations other != some group
    | .finish place => decide (place ∈ active)
  next := fun active label =>
    match label with
    | .begin place => place :: active
    | .finish place => active.erase place

variable {registrations : List Registration} {place : Nat} {registration : Registration}

/-- Two callbacks of the registration are never active at the same time. -/
def Sequential (registrations : List Registration) (place : Nat) : Prop :=
  ∀ active, (executor registrations).Reachable active → active.count place ≤ 1

/-- What the parameters of an entry say about its callbacks. -/
def AsDocumented (registrations : List Registration) (place : Nat)
    (entry : ServiceActionDefinition) : Prop :=
  (entry.allowSimultaneous = false → Sequential registrations place) ∧
    (entry.useOwnThread = true → entry.allowSimultaneous = true → ¬ Sequential registrations place)

theorem sequential_of_mutuallyExclusive {group : CallbackGroup}
    (hgroup : groupAt registrations place = some group) (htype : group.type = .mutuallyExclusive) :
    Sequential registrations place := by
  intro active h
  refine h.invariant (fun active => active.count place ≤ 1) (by simp [executor]) ?_
  intro active label hcount henabled _
  cases label with
  | finish other =>
      exact ((List.erase_sublist (l := active)).count_le place).trans hcount
  | begin other =>
      simp only [executor]
      by_cases hother : other = place
      · subst hother
        have hidle : other ∉ active := by
          intro hmem
          have hothers : ∀ running ∈ active, ¬ groupAt registrations running = some group := by
            simpa [executor, hgroup, htype] using henabled
          exact hothers other hmem hgroup
        simp [List.count_eq_zero.mpr hidle]
      · simpa [List.count_cons, hother] using hcount

theorem not_sequential_of_reentrant {group : CallbackGroup}
    (hgroup : groupAt registrations place = some group) (htype : group.type = .reentrant) :
    ¬ Sequential registrations place := by
  intro hsequential
  have henabled : ∀ active, (executor registrations).enabled active (.begin place) = true := by
    intro active
    simp [executor, hgroup, htype]
  have hfirst : (executor registrations).Reachable [place] := .step .start (henabled []) trivial
  have hsecond : (executor registrations).Reachable [place, place] :=
    .step hfirst (henabled [place]) trivial
  have hcount := hsequential _ hsecond
  simp at hcount

/-- The type of the group an entry ends up in. -/
theorem type_of_mem_initEntries {role : Role} {shared : CallbackGroup} {created : Nat}
    {entries : List ServiceActionDefinition} (hshared : shared.type = .reentrant)
    (h : registration ∈ initEntries role shared created entries) :
    registration.entry ∈ entries ∧ registration.role = role ∧
      registration.callbackGroup.type =
        if registration.entry.useOwnThread && registration.entry.allowSimultaneous then
          .mutuallyExclusive
        else .reentrant := by
  induction entries generalizing created with
  | nil => cases h
  | cons entry rest ih =>
      rcases List.mem_cons.mp h with rfl | hrest
      · refine ⟨List.mem_cons_self, rfl, ?_⟩
        unfold callbackGroup
        cases entry.useOwnThread <;> cases entry.allowSimultaneous <;> simp [hshared]
      · obtain ⟨hmem, hrole, htype⟩ := ih hrest
        exact ⟨List.mem_cons_of_mem _ hmem, hrole, htype⟩

theorem mem_init {accepted : Accepted} (h : registration ∈ init accepted) :
    registration.entry ∈ accepted.entries registration.role ∧
      registration.callbackGroup.type =
        if registration.entry.useOwnThread && registration.entry.allowSimultaneous then
          .mutuallyExclusive
        else .reentrant := by
  unfold init at h
  simp only [List.mem_append] at h
  rcases h with ((h | h) | h) | h
  all_goals
    obtain ⟨hmem, hrole, htype⟩ := type_of_mem_initEntries rfl h
    rw [hrole]
    exact ⟨hmem, htype⟩

theorem length_initEntries (role : Role) (shared : CallbackGroup) (created : Nat)
    (entries : List ServiceActionDefinition) :
    (initEntries role shared created entries).length = entries.length := by
  induction entries generalizing created with
  | nil => rfl
  | cons entry rest ih => simp [initEntries, ih]

/-- `init` creates a plugin for every entry. -/
theorem init_eq_nil {accepted : Accepted} :
    init accepted = [] ↔ ∀ role, accepted.entries role = [] := by
  rw [← List.length_eq_zero_iff]
  simp only [init, List.length_append, length_initEntries, Nat.add_eq_zero_iff,
    List.length_eq_zero_iff]
  constructor
  · rintro ⟨⟨⟨hservers, hclients⟩, hactions⟩, hactionClients⟩ role
    cases role with
    | serviceServer => exact hservers
    | serviceClient => exact hclients
    | actionServer => exact hactions
    | actionClient => exact hactionClients
  · intro hempty
    exact ⟨⟨⟨hempty .serviceServer, hempty .serviceClient⟩, hempty .actionServer⟩,
      hempty .actionClient⟩

/-- A check of `initializeParameters` the groups rest on. -/
theorem useOwnThread_of_allowSimultaneous {env : Environment}
    {parameters : Parameters} {accepted : Accepted}
    (h : Parameters.Initialized env parameters accepted) {role : Role}
    {entry : ServiceActionDefinition} (hentry : entry ∈ accepted.entries role)
    (hsimultaneous : entry.allowSimultaneous = true) : entry.useOwnThread = true := by
  have hservices := h.services.2 entry
  have hactions := h.actions.2 entry
  cases role with
  | serviceServer => exact hservices (List.mem_append_left _ hentry) (.inr hsimultaneous)
  | serviceClient => exact hservices (List.mem_append_right _ hentry) (.inr hsimultaneous)
  | actionServer => exact hactions (List.mem_append_left _ hentry) (.inr hsimultaneous)
  | actionClient => exact hactions (List.mem_append_right _ hentry) (.inr hsimultaneous)

/-- The two types are swapped: a plugin that is to work sequentially is in a
reentrant group, one that may work simultaneously in a mutually exclusive one. -/
theorem not_asDocumented {env : Environment} {parameters : Parameters}
    {accepted : Accepted} (h : Parameters.Initialized env parameters accepted)
    (hplace : (init accepted)[place]? = some registration) :
    ¬ AsDocumented (init accepted) place registration.entry := by
  obtain ⟨hentry, htype⟩ := mem_init (List.mem_of_getElem? hplace)
  have hgroup : groupAt (init accepted) place = some registration.callbackGroup := by
    simp [groupAt, hplace]
  rintro ⟨hsequential, hsimultaneous⟩
  cases hallow : registration.entry.allowSimultaneous with
  | false =>
      rw [hallow, Bool.and_false] at htype
      exact not_sequential_of_reentrant hgroup htype (hsequential hallow)
  | true =>
      have hown := useOwnThread_of_allowSimultaneous h hentry hallow
      rw [hallow, hown] at htype
      exact hsimultaneous hown hallow (sequential_of_mutuallyExclusive hgroup htype)

/-- Of an accepted configuration no service or action entry runs its callbacks
as documented. -/
theorem init_documented {env : Environment} {parameters : Parameters}
    {authentication : Bool} {accepted : Accepted}
    (h : initializeParameters env parameters authentication = .ok accepted) :
    ((∀ place registration, (init accepted)[place]? = some registration →
        AsDocumented (init accepted) place registration.entry) ↔
      ∀ role, accepted.entries role = []) ∧
    ∀ place registration, (init accepted)[place]? = some registration →
      ¬ AsDocumented (init accepted) place registration.entry := by
  have hinitialized := Parameters.initializeParameters_eq_ok h
  have hnone : ∀ place registration, (init accepted)[place]? = some registration →
      ¬ AsDocumented (init accepted) place registration.entry :=
    fun _ _ hplace => not_asDocumented hinitialized hplace
  refine ⟨⟨?_, ?_⟩, hnone⟩
  · intro hall
    rw [← init_eq_nil]
    refine List.eq_nil_iff_forall_not_mem.mpr fun registration hmem => ?_
    obtain ⟨place, hplace⟩ := List.mem_iff_getElem?.mp hmem
    exact hnone place registration hplace (hall place registration hplace)
  · intro hempty place registration hplace
    rw [init_eq_nil.mpr hempty] at hplace
    cases hplace

/-- The service server of the sample is the first plugin. -/
theorem sample_init {accepted : Accepted}
    (h : initializeParameters Sample.env (Sample.parameters false) true = .ok accepted) :
    ∃ registration, (init accepted)[0]? = some registration := by
  have hlength : (initializeParameters Sample.env (Sample.parameters false) true).toOption.map
      (fun accepted => (init accepted).length) = some 1 := by
    decide +kernel
  rw [h] at hlength
  have hone : (init accepted).length = 1 := Option.some.inj hlength
  have hpositive : 0 < (init accepted).length := by omega
  exact ⟨_, List.getElem?_eq_getElem hpositive⟩

theorem init_documented_sample : ∃ accepted registration,
    (init accepted)[0]? = some registration ∧
      ¬ AsDocumented (init accepted) 0 registration.entry := by
  obtain ⟨accepted, haccepted, -⟩ := Sample.accepts false
  obtain ⟨registration, hplace⟩ := sample_init haccepted
  exact ⟨accepted, registration, hplace, (init_documented haccepted).2 0 registration hplace⟩

/-- A service server that allows simultaneous calls answers one after the other. -/
theorem init_swaps_types : ¬ ∀ env parameters authentication accepted,
    initializeParameters env parameters authentication = .ok accepted →
      ∀ place registration, (init accepted)[place]? = some registration →
        AsDocumented (init accepted) place registration.entry := by
  intro hall
  obtain ⟨accepted, haccepted, -⟩ := Sample.accepts false
  obtain ⟨registration, hplace⟩ := sample_init haccepted
  exact not_asDocumented (Parameters.initializeParameters_eq_ok haccepted) hplace
    (hall Sample.env (Sample.parameters false) true accepted haccepted 0 registration hplace)

end CallbackGroups

end Ros2Connect
