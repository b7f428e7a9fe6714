import Ros2Connect.Action.GoalHandle

/-!
What `executeAccepted` calls on the goal handle of an accepted goal. As long as
the thread runs, the calls made, the messages queued for it and those on the
link are together what the client's plugin has emitted; the thread ends with the
first result.
-/

namespace Ros2Connect

open Lib

namespace Action

variable {config : Config} {s t : State} {label : Label} {g : GoalUUID}

/-- A sequence up to and including its first element with a property. -/
def cutAfter {α : Type} (stop : α → Bool) : List α → List α
  | [] => []
  | x :: rest => if stop x then [x] else x :: cutAfter stop rest

theorem cutAfter_append {α : Type} {stop : α → Bool} {xs : List α} (ys : List α)
    (h : ∀ x ∈ xs, stop x = false) : cutAfter stop (xs ++ ys) = xs ++ cutAfter stop ys := by
  induction xs with
  | nil => rfl
  | cons x rest ih =>
      have hrest := ih fun y hy => h y (List.mem_cons_of_mem _ hy)
      simp [cutAfter, h x List.mem_cons_self, hrest]

theorem cutAfter_append_of_stop {α : Type} {stop : α → Bool} {xs : List α} (ys : List α)
    (h : ∃ x ∈ xs, stop x = true) : cutAfter stop (xs ++ ys) = cutAfter stop xs := by
  induction xs with
  | nil => simp at h
  | cons x rest ih =>
      by_cases hx : stop x = true
      · simp [cutAfter, hx]
      · have hrest : ∃ y ∈ rest, stop y = true := by
          simpa [hx] using h
        simp [cutAfter, hx, ih hrest]

theorem cutAfter_map {α β : Type} (stop : β → Bool) (f : α → β) (xs : List α) :
    cutAfter stop (xs.map f) = (cutAfter (fun x => stop (f x)) xs).map f := by
  induction xs with
  | nil => rfl
  | cons x rest ih =>
      by_cases hx : stop (f x) = true <;> simp [cutAfter, hx, ih]

/-- The call an emission is to lead to. -/
def Emission.asCall (emission : Emission × Bytes) : PluginCall × Bytes :=
  (emission.1.call, emission.2)

def isResultCall (call : PluginCall × Bytes) : Bool := call.1 != .feedback

theorem isResultCall_asCall (emission : Emission × Bytes) :
    isResultCall (Emission.asCall emission) = emission.1.isResult := by
  obtain ⟨emission, data⟩ := emission
  cases emission <;> rfl

/-- The calls the client's plugin has asked for. -/
def emittedCalls (s : State) (g : GoalUUID) : List (PluginCall × Bytes) :=
  (s.emitted g).map Emission.asCall

/-- The calls the messages of a link lead to at a goal. -/
def linkCalls (g : GoalUUID) (link : List Transfer) : List (PluginCall × Bytes) :=
  (link.filter (·.gID == g.bytes)).filterMap Transfer.asCall?

/-- The calls that wait in the goal's queue or are on their way to it. -/
def pendingCalls (s : State) (g : GoalUUID) : List (PluginCall × Bytes) :=
  (s.goals g).waitQueue.filterMap Transfer.asCall? ++ linkCalls g s.toServer

theorem linkCalls_append (g : GoalUUID) (link other : List Transfer) :
    linkCalls g (link ++ other) = linkCalls g link ++ linkCalls g other := by
  simp [linkCalls]

/-- A message of another goal, or one that leads to no call, adds nothing. -/
theorem linkCalls_singleton_of_silent {m : Transfer}
    (h : m.gID ≠ g.bytes ∨ Transfer.asCall? m = none) : linkCalls g [m] = [] := by
  by_cases hgID : m.gID = g.bytes
  · have hnone := h.resolve_left (fun hne => hne hgID)
    simp [linkCalls, hgID, hnone]
  · simp [linkCalls, hgID]

theorem linkCalls_cons_of_silent {m : Transfer} {rest : List Transfer}
    (h : m.gID ≠ g.bytes ∨ Transfer.asCall? m = none) :
    linkCalls g (m :: rest) = linkCalls g rest := by
  have happend := linkCalls_append g [m] rest
  rwa [linkCalls_singleton_of_silent h] at happend

/-- An emission arrives as the call it asks for. -/
theorem asCall_emission {emission : Emission} {data : Bytes}
    (hreception : ∀ opCode data, config.reception opCode g.bytes data = some data) :
    Transfer.asCall? (.arriving config.reception emission.opCode g.bytes data) =
      some (Emission.asCall (emission, data)) := by
  cases emission <;>
    simp [Transfer.asCall?, Emission.opCode, Emission.asCall, Emission.call,
      PluginCall.ofOpCode?, hreception]

/-- The calls made are the emissions so far, but for those that are pending; the
thread's end is the first result. -/
structure Streams (s : State) (g : GoalUUID) : Prop where
  live : (s.goals g).IsLive → s.calls g ++ pendingCalls s g = emittedCalls s g
  feedback : (s.goals g).thread ≠ .finished → ∀ call ∈ s.calls g, isResultCall call = false
  ended : (s.goals g).thread = .finished →
    s.calls g = cutAfter isResultCall (emittedCalls s g) ∧
      ∃ call ∈ emittedCalls s g, isResultCall call = true
  link : ∀ m ∈ s.toServer, m.gID = g.bytes → m.data ≠ none
  queued : ∀ m ∈ (s.goals g).waitQueue, m.data ≠ none

theorem Streams.start (g : GoalUUID) : Streams State.start g where
  live := by simp [State.start, Goal.IsLive]
  feedback := by simp [State.start]
  ended := by simp [State.start]
  link := by simp [State.start]
  queued := by simp [State.start]

/-- A step that leaves a goal's queue, its thread and the link alone. -/
theorem Streams.of_same (h : Streams s g)
    (hqueue : (t.goals g).waitQueue = (s.goals g).waitQueue)
    (hthread : (t.goals g).thread = .finished ↔ (s.goals g).thread = .finished)
    (hlive : (t.goals g).IsLive → (s.goals g).IsLive) (hcalls : t.calls g = s.calls g)
    (hemitted : t.emitted g = s.emitted g) (hlink : t.toServer = s.toServer) :
    Streams t g := by
  have hpending : pendingCalls t g = pendingCalls s g := by
    simp [pendingCalls, hqueue, hlink]
  have hasked : emittedCalls t g = emittedCalls s g := by simp [emittedCalls, hemitted]
  refine ⟨?_, ?_, ?_, ?_, ?_⟩
  · intro hgoal
    rw [hcalls, hpending, hasked]
    exact h.live (hlive hgoal)
  · intro hrunning
    rw [hcalls]
    exact h.feedback (fun hfinished => hrunning (hthread.mpr hfinished))
  · intro hfinished
    rw [hcalls, hasked]
    exact h.ended (hthread.mp hfinished)
  · rw [hlink]
    exact h.link
  · rw [hqueue]
    exact h.queued

/-- A step on another goal. -/
theorem Streams.of_other (h : Streams s g) (hgoal : t.goals g = s.goals g)
    (hcalls : t.calls g = s.calls g) (hemitted : t.emitted g = s.emitted g)
    (hlink : t.toServer = s.toServer) : Streams t g :=
  h.of_same (by rw [hgoal]) (by rw [hgoal]) (fun hlive => hgoal ▸ hlive) hcalls hemitted hlink

/-- A field of a goal that a change to some goal leaves alone. -/
theorem field_update {α : Type} (field : Goal → α) {other : GoalUUID} {goal : Goal}
    (h : field goal = field (s.goals other)) :
    field (Function.update s.goals other goal g) = field (s.goals g) := by
  by_cases hsame : g = other
  · subst hsame
    simpa using h
  · rw [Function.update_of_ne hsame]

/-- A step is no insertion, no turn of `executeAccepted` and no receipt. -/
def Label.keepsQueue : Label → Bool
  | .insertHandle _ | .executeAccepted _ | .serverHandle => false
  | _ => true

theorem Streams.of_kept (h : Streams s g) (hgoal : GoalStep s g label (t.goals g))
    (hlabel : label.keepsQueue = true) (hcalls : t.calls = s.calls)
    (hemitted : t.emitted = s.emitted) (hlink : t.toServer = s.toServer) : Streams t g := by
  have hqueue : (t.goals g).waitQueue = (s.goals g).waitQueue := by
    generalize t.goals g = goal at hgoal
    cases hgoal with
    | take m rest hrunning hmessages => cases hlabel
    | finish m rest hrunning hmessages => cases hlabel
    | queue m hmem hgID => cases hlabel
    | _ => rfl
  have hthread : (t.goals g).thread = .finished ↔ (s.goals g).thread = .finished := by
    generalize t.goals g = goal at hgoal
    cases hgoal with
    | start hphase haccepted habsent => simp [habsent]
    | finish m rest hrunning hmessages => cases hlabel
    | _ => exact Iff.rfl
  have hlive : (t.goals g).IsLive → (s.goals g).IsLive := by
    intro hlive
    apply (hgoal.isLive_cases hlive).resolve_right
    rintro ⟨rfl, -⟩
    cases hlabel
  exact h.of_same hqueue hthread hlive (congrFun hcalls g) (congrFun hemitted g) hlink

/-- A step that sends the server a message which is no emission for the goal. -/
theorem Streams.of_sent (h : Streams s g) {m : Transfer} (hgoals : t.goals = s.goals)
    (hcalls : t.calls g = s.calls g) (hemitted : t.emitted g = s.emitted g)
    (hlink : t.toServer = s.toServer ++ [m])
    (hsilent : m.gID ≠ g.bytes ∨ Transfer.asCall? m = none)
    (hdata : m.gID = g.bytes → m.data ≠ none) : Streams t g := by
  have hpending : pendingCalls t g = pendingCalls s g := by
    simp [pendingCalls, hgoals, hlink, linkCalls_append, linkCalls_singleton_of_silent hsilent]
  have hasked : emittedCalls t g = emittedCalls s g := by simp [emittedCalls, hemitted]
  refine ⟨?_, ?_, ?_, ?_, ?_⟩
  · rw [hgoals, hcalls, hpending, hasked]
    exact h.live
  · rw [hgoals, hcalls]
    exact h.feedback
  · rw [hgoals, hcalls, hasked]
    exact h.ended
  · rw [hlink]
    intro other hother hgID
    rcases List.mem_append.mp hother with hold | hnew
    · exact h.link other hold hgID
    · rw [List.mem_singleton.mp hnew] at hgID ⊢
      exact hdata hgID
  · rw [hgoals]
    exact h.queued

/-- A step that takes a message off the link which leads to no call at the
goal. -/
theorem Streams.of_received (h : Streams s g) {m : Transfer} {rest : List Transfer}
    (hlink : s.toServer = m :: rest) (hrest : t.toServer = rest)
    (hsilent : (s.goals g).IsLive → m.gID ≠ g.bytes ∨ Transfer.asCall? m = none)
    (hqueue : (t.goals g).waitQueue = (s.goals g).waitQueue)
    (hthread : (t.goals g).thread = (s.goals g).thread)
    (hlive : (t.goals g).IsLive → (s.goals g).IsLive) (hcalls : t.calls g = s.calls g)
    (hemitted : t.emitted g = s.emitted g) : Streams t g := by
  have hasked : emittedCalls t g = emittedCalls s g := by simp [emittedCalls, hemitted]
  refine ⟨?_, ?_, ?_, ?_, ?_⟩
  · intro hgoal
    have hpending : pendingCalls t g = pendingCalls s g := by
      simp [pendingCalls, hqueue, hlink, hrest,
        linkCalls_cons_of_silent (hsilent (hlive hgoal))]
    rw [hcalls, hpending, hasked]
    exact h.live (hlive hgoal)
  · rw [hthread, hcalls]
    exact h.feedback
  · rw [hthread, hcalls, hasked]
    exact h.ended
  · intro other hother
    exact h.link other (by rw [hlink]; exact List.mem_cons_of_mem _ (hrest ▸ hother))
  · rw [hqueue]
    exact h.queued

/-- What the first message of the queue leads to comes first among the pending
calls. -/
theorem pendingCalls_of_queue {m : Transfer} {rest : List Transfer}
    (hqueue : (s.goals g).waitQueue = m :: rest) (hrest : (t.goals g).waitQueue = rest)
    (hlink : t.toServer = s.toServer) :
    pendingCalls s g = (Transfer.asCall? m).toList ++ pendingCalls t g := by
  cases hcall : Transfer.asCall? m <;>
    simp [pendingCalls, hqueue, hrest, hlink, hcall]

/-- The thread takes a message from its queue and goes on: it made no call, or
one of feedback. -/
theorem Streams.of_taken (h : Streams s g) {m : Transfer} {rest : List Transfer}
    (hqueue : (s.goals g).waitQueue = m :: rest) (hrest : (t.goals g).waitQueue = rest)
    (hrunning : (s.goals g).thread = .running) (hthread : (t.goals g).thread = .running)
    (hlive : (s.goals g).IsLive) (hcalls : t.calls g = s.calls g ++ (Transfer.asCall? m).toList)
    (hfeedback : ∀ call ∈ Transfer.asCall? m, isResultCall call = false)
    (hemitted : t.emitted g = s.emitted g) (hlink : t.toServer = s.toServer) :
    Streams t g := by
  refine ⟨?_, ?_, ?_, ?_, ?_⟩
  · intro _
    have hstream := h.live hlive
    rw [pendingCalls_of_queue hqueue hrest hlink] at hstream
    rw [hcalls, List.append_assoc, hstream, emittedCalls, emittedCalls, hemitted]
  · intro _ call hcall
    rw [hcalls] at hcall
    rcases List.mem_append.mp hcall with hold | hnew
    · exact h.feedback (by simp [hrunning]) call hold
    · exact hfeedback call (Option.mem_toList.mp hnew)
  · intro hfinished
    rw [hthread] at hfinished
    cases hfinished
  · rw [hlink]
    exact h.link
  · rw [hrest]
    exact fun other hother => h.queued other (by rw [hqueue]; exact List.mem_cons_of_mem _ hother)

/-- The thread takes a result from its queue and ends with it. -/
theorem Streams.of_result (h : Streams s g) {m : Transfer} {rest : List Transfer}
    {call : PluginCall × Bytes}
    (hqueue : (s.goals g).waitQueue = m :: rest) (hrest : (t.goals g).waitQueue = rest)
    (hrunning : (s.goals g).thread = .running) (hthread : (t.goals g).thread = .finished)
    (hlive : (s.goals g).IsLive) (hcall : Transfer.asCall? m = some call)
    (hresult : isResultCall call = true) (hcalls : t.calls g = s.calls g ++ [call])
    (hemitted : t.emitted g = s.emitted g) (hlink : t.toServer = s.toServer) :
    Streams t g := by
  have hstream := h.live hlive
  rw [pendingCalls_of_queue hqueue hrest hlink, hcall] at hstream
  have hasked : emittedCalls t g = s.calls g ++ (call :: pendingCalls t g) := by
    rw [emittedCalls, hemitted, ← emittedCalls, ← hstream]
    rfl
  have hbefore := h.feedback (by simp [hrunning])
  refine ⟨?_, ?_, ?_, ?_, ?_⟩
  · intro hgoal
    exact absurd hthread hgoal.2.2.2
  · intro hnot
    exact absurd hthread hnot
  · intro _
    rw [hasked, cutAfter_append _ hbefore, hcalls]
    exact ⟨by simp [cutAfter, hresult], call, by simp, hresult⟩
  · rw [hlink]
    exact h.link
  · rw [hrest]
    exact fun other hother => h.queued other (by rw [hqueue]; exact List.mem_cons_of_mem _ hother)

/-- A message for the goal moves from the link to the end of its queue. -/
theorem Streams.of_queued (h : Streams s g) {m : Transfer} {rest : List Transfer}
    (hlink : s.toServer = m :: rest) (hrest : t.toServer = rest) (hgID : m.gID = g.bytes)
    (hqueue : (t.goals g).waitQueue = (s.goals g).waitQueue ++ [m])
    (hthread : (t.goals g).thread = (s.goals g).thread)
    (hlive : (t.goals g).IsLive → (s.goals g).IsLive) (hcalls : t.calls g = s.calls g)
    (hemitted : t.emitted g = s.emitted g) : Streams t g := by
  have hpending : pendingCalls t g = pendingCalls s g := by
    cases hcall : Transfer.asCall? m <;>
      simp [pendingCalls, linkCalls, hlink, hrest, hqueue, hgID, hcall]
  have hasked : emittedCalls t g = emittedCalls s g := by simp [emittedCalls, hemitted]
  refine ⟨?_, ?_, ?_, ?_, ?_⟩
  · intro hgoal
    rw [hcalls, hpending, hasked]
    exact h.live (hlive hgoal)
  · rw [hthread, hcalls]
    exact h.feedback
  · rw [hthread, hcalls, hasked]
    exact h.ended
  · intro other hother
    exact h.link other (by rw [hlink]; exact List.mem_cons_of_mem _ (hrest ▸ hother))
  · rw [hqueue]
    intro other hother
    rcases List.mem_append.mp hother with hold | hnew
    · exact h.queued other hold
    · rw [List.mem_singleton.mp hnew]
      exact h.link m (by rw [hlink]; exact List.mem_cons_self) hgID

/-- The client's plugin emits for the goal. -/
theorem Streams.of_emitted (h : Streams s g) {emission : Emission} {data : Bytes}
    (hreception : ∀ opCode data, config.reception opCode g.bytes data = some data)
    (hgoals : t.goals = s.goals) (hcalls : t.calls g = s.calls g)
    (hlink : t.toServer = s.toServer ++
      [.arriving config.reception emission.opCode g.bytes data])
    (hemitted : t.emitted g = s.emitted g ++ [(emission, data)]) : Streams t g := by
  have hasked : emittedCalls t g = emittedCalls s g ++ [Emission.asCall (emission, data)] := by
    simp [emittedCalls, hemitted]
  have hpending : pendingCalls t g =
      pendingCalls s g ++ [Emission.asCall (emission, data)] := by
    have hcall : linkCalls g [.arriving config.reception emission.opCode g.bytes data] =
        [Emission.asCall (emission, data)] := by
      simp [linkCalls, asCall_emission hreception]
    rw [pendingCalls, pendingCalls, hgoals, hlink, linkCalls_append, hcall, List.append_assoc]
  refine ⟨?_, ?_, ?_, ?_, ?_⟩
  · intro hgoal
    rw [hgoals] at hgoal
    rw [hcalls, hpending, hasked, ← h.live hgoal, List.append_assoc]
  · rw [hgoals, hcalls]
    exact h.feedback
  · intro hfinished
    rw [hgoals] at hfinished
    obtain ⟨hended, hresult⟩ := h.ended hfinished
    rw [hcalls, hasked, cutAfter_append_of_stop _ hresult]
    obtain ⟨call, hmem, hcall⟩ := hresult
    exact ⟨hended, call, List.mem_append_left _ hmem, hcall⟩
  · rw [hlink]
    intro other hother hgID
    rcases List.mem_append.mp hother with hold | hnew
    · exact h.link other hold hgID
    · rw [List.mem_singleton.mp hnew]
      simp [hreception]
  · rw [hgoals]
    exact h.queued

theorem Streams.step (h : Streams s g) (hregistered : Registered s g)
    (hsilent : (s.goals g).IsUnsent → Silent s g)
    (hreception : ∀ opCode data, config.reception opCode g.bytes data = some data)
    (hstep : Step config s label t) : Streams t g := by
  have hrunning : (s.goals g).thread = .running → (s.goals g).IsLive := by
    intro hrunning
    have haccepted := hregistered.started.mp (by simp [hrunning])
    have hphase := hregistered.returned (by simp [haccepted])
    simp [Goal.IsLive, hphase, haccepted, hrunning]
  have hgoal := hstep.goal hregistered.keyed g
  have hbefore (hlabel : label ≠ .insertHandle g) :
      (t.goals g).IsLive → (s.goals g).IsLive :=
    fun hlive => (hgoal.isLive_cases hlive).resolve_right (fun h => hlabel h.1)
  have hanswer (opCode : ServiceActionOpCode) (gID : Bytes) (hop : answersCall opCode) :
      Transfer.asCall? (.arriving config.reception opCode gID []) = none :=
    asCall_of_answersCall hop
  have hreadable (opCode : ServiceActionOpCode) (gID : Bytes) (hgID : gID = g.bytes) :
      (Transfer.arriving config.reception opCode gID []).data ≠ none := by
    simp [hgID, hreception]
  cases hstep with
  | insertHandle other hphase =>
      by_cases hsame : other = g
      · subst hsame
        obtain ⟨hemitted, hcalls, hlink, hqueued⟩ := hsilent (Or.inl hphase)
        have hlinked : linkCalls other s.toServer = [] := by
          simpa [linkCalls, List.filterMap_eq_nil_iff] using hlink
        have hwaiting : (s.goals other).waitQueue.filterMap Transfer.asCall? = [] :=
          List.filterMap_eq_nil_iff.mpr hqueued
        refine ⟨?_, ?_, ?_, h.link, ?_⟩
        · simp [hcalls, pendingCalls, emittedCalls, hemitted, hlinked, hwaiting]
        · simp [hcalls]
        · simpa [emittedCalls] using h.ended
        · simpa using h.queued
      · exact h.of_other (Function.update_of_ne (Ne.symm hsame) _ _) rfl rfl rfl
  | startHandling other hphase => exact h.of_kept hgoal rfl rfl rfl rfl
  | sendGoal other data hphase => exact h.of_kept hgoal rfl rfl rfl rfl
  | acceptGoal other m hphase hm hop => exact h.of_kept hgoal rfl rfl rfl rfl
  | rejectGoal other hphase => exact h.of_kept hgoal rfl rfl rfl rfl
  | goalTimeout other hphase => exact h.of_kept hgoal rfl rfl rfl rfl
  | acceptUnknown other hphase haccepted hknown => exact h.of_kept hgoal rfl rfl rfl rfl
  | acceptJoinable other owner hphase haccepted hknown hthread =>
      exact h.of_kept hgoal rfl rfl rfl rfl
  | acceptStart other owner hphase haccepted hknown hthread => exact h.of_kept hgoal rfl rfl rfl rfl
  | dropQueued other m rest hthread hqueue hdrop =>
      by_cases hsame : other = g
      · subst hsame
        have hnone : Transfer.asCall? m = none := by
          rcases hdrop with hcall | hdata <;> simp [Transfer.asCall?, *]
        exact h.of_taken hqueue (by simp) hthread (by simpa using hthread) (hrunning hthread)
          (by simp [hnone]) (by simp [hnone]) rfl rfl
      · exact h.of_other (Function.update_of_ne (Ne.symm hsame) _ _) rfl rfl rfl
  | callFeedback other m rest data hthread hqueue hcall hdata =>
      by_cases hsame : other = g
      · subst hsame
        have hsome : Transfer.asCall? m = some (.feedback, data) := by
          simp [Transfer.asCall?, hcall, hdata]
        exact h.of_taken hqueue (by simp) hthread (by simpa using hthread) (hrunning hthread)
          (by simp [hsome]) (by simp [hsome, isResultCall]) rfl rfl
      · have hne := Ne.symm hsame
        exact h.of_other (Function.update_of_ne hne _ _) (Function.update_of_ne hne _ _) rfl rfl
  | callResult other m rest call data hthread hqueue hresult hcall =>
      by_cases hsame : other = g
      · subst hsame
        have hdata : m.data ≠ none := h.queued m (by rw [hqueue]; exact List.mem_cons_self)
        obtain ⟨hop, hm⟩ := hcall.resolve_left hdata
        have hsome : Transfer.asCall? m = some (call, data) := by
          simp [Transfer.asCall?, hop, hm]
        exact h.of_result hqueue (by simp) hthread (by simp) (hrunning hthread) hsome
          (by simpa [isResultCall] using hresult) (by simp) rfl rfl
      · have hne := Ne.symm hsame
        exact h.of_other (Function.update_of_ne hne _ _) (Function.update_of_ne hne _ _) rfl rfl
  | findNone other => exact h
  | findCancel other owner hknown => exact h.of_kept hgoal rfl rfl rfl rfl
  | startCancel other hfound => exact h.of_kept hgoal rfl rfl rfl rfl
  | sendCancel other harmed => exact h.of_kept hgoal rfl rfl rfl rfl
  | endCancel other label hlabel =>
      exact h.of_kept hgoal (by rcases hlabel with rfl | rfl <;> rfl) rfl rfl rfl
  | endCancelRemoving other hwaiting hwait => exact h.of_kept hgoal rfl rfl rfl rfl
  | serverDrop m rest hm hdrop =>
      refine h.of_received hm rfl ?_ rfl rfl id rfl rfl
      intro hlive
      refine hdrop.imp ?_ asCall_of_answersCall
      intro hnone hgID
      have hknown := (hregistered.handle hlive).1
      rw [GoalUUID.gIDString, ← hgID, hnone] at hknown
      cases hknown
  | serverGoalResponse m rest owner hm hknown hop =>
      have hnone : Transfer.asCall? m = none := asCall_of_answersCall (hop.imp_right Or.inl)
      exact h.of_received hm rfl (fun _ => Or.inr hnone) (field_update Goal.waitQueue rfl)
        (field_update Goal.thread rfl) (hbefore (by simp)) rfl rfl
  | serverCancelResponse m rest owner hm hknown hop =>
      have hnone : Transfer.asCall? m = none := asCall_of_answersCall (Or.inr (Or.inr hop))
      exact h.of_received hm rfl (fun _ => Or.inr hnone) (field_update Goal.waitQueue rfl)
        (field_update Goal.thread rfl) (hbefore (by simp)) rfl rfl
  | serverQueue m rest owner hm hknown =>
      have hgID := gID_of_keyed hregistered.keyed hknown
      by_cases hsame : g = owner
      · subst hsame
        exact h.of_queued hm rfl hgID (by simp) (by simp) (hbefore (by simp)) rfl rfl
      · have hother : m.gID ≠ g.bytes := by
          rw [hgID]
          exact fun heq => hsame (GoalUUID.ext heq.symm)
        have hgoals := Function.update_of_ne hsame { s.goals owner with
          waitQueue := (s.goals owner).waitQueue ++ [m] } s.goals
        exact h.of_received hm rfl (fun _ => Or.inl hother) (congrArg Goal.waitQueue hgoals)
          (congrArg Goal.thread hgoals) (hbefore (by simp)) rfl rfl
  | clientReject m rest hm =>
      exact h.of_sent rfl rfl rfl rfl (Or.inr (hanswer _ _ (Or.inl rfl))) (hreadable _ _)
  | refuseGoal other available m rest hqueue hop =>
      exact h.of_sent rfl rfl rfl rfl (Or.inr (hanswer _ _ (Or.inl rfl))) (hreadable _ _)
  | goalAccepted other hpending =>
      exact h.of_sent rfl rfl rfl rfl (Or.inr (hanswer _ _ (Or.inr (Or.inl rfl))))
        (hreadable _ _)
  | goalRejected other hpending =>
      exact h.of_sent rfl rfl rfl rfl (Or.inr (hanswer _ _ (Or.inr (Or.inl rfl))))
        (hreadable _ _)
  | answerCancel other label opCode settling hlabel hop =>
      exact h.of_sent rfl rfl rfl rfl (Or.inr (hanswer _ _ (Or.inr (Or.inr hop))))
        (hreadable _ _)
  | emit other emission data settling hemit =>
      by_cases hsame : other = g
      · subst hsame
        exact h.of_emitted hreception rfl rfl rfl (by simp)
      · have hother : other.bytes ≠ g.bytes := fun heq => hsame (GoalUUID.ext heq)
        exact h.of_sent rfl rfl (Function.update_of_ne (Ne.symm hsame) _ _) rfl (Or.inl hother)
          (fun heq => absurd heq hother)
  | serverRemove other rest hqueue => exact h.of_same rfl Iff.rfl id rfl rfl rfl
  | _ => exact h.of_same rfl Iff.rfl id rfl rfl rfl

/-- The configuration of a channel whose messages go through the codecs. -/
def codedConfig (codecs : Codecs) (compression : Compression) (channel : UInt8)
    (expectedSize : Nat) (dynamicSize : Bool) : Config :=
  ⟨expectedSize, dynamicSize, Transfer.receivedData codecs compression channel⟩

/-- What the runs keep in which rclcpp cancels the goal after `handleAccepted`
only. -/
theorem streams_of_cancelsLater (hreception : ∀ opCode data,
      config.reception opCode g.bytes data = some data)
    (h : (pair config).ReachableWith (CancelsLater g) s) : Registered s g ∧ Streams s g := by
  have hinvariant : Registered s g ∧ ((s.goals g).IsUnsent → Unasked s g) ∧
      ((s.goals g).IsUnsent → Silent s g) ∧ Streams s g := by
    refine h.invariant (fun s => Registered s g ∧ ((s.goals g).IsUnsent → Unasked s g) ∧
      ((s.goals g).IsUnsent → Silent s g) ∧ Streams s g) ?_ ?_
    · exact ⟨.start g, fun _ => .start g, fun _ => .start g, .start g⟩
    · rintro s label ⟨hregistered, hunasked, hsilent, hstreams⟩ henabled hlater
      have hstep : Step config s label (next config s label) := .of_enabled henabled
      exact ⟨hregistered.step hstep hlater, Unasked.step hunasked hregistered.keyed hstep,
        Silent.step hsilent hunasked hregistered hstep,
        hstreams.step hregistered hsilent hreception hstep⟩
  exact ⟨hinvariant.1, hinvariant.2.2.2⟩

theorem Streams.isPrefix (h : Streams s g) (hlive : (s.goals g).thread = .finished ∨
    (s.goals g).IsLive) : s.calls g <+: cutAfter isResultCall (emittedCalls s g) := by
  rcases hlive with hfinished | hlive
  · rw [(h.ended hfinished).1]
  · rw [← h.live hlive, cutAfter_append _ (h.feedback hlive.2.2.2)]
    exact List.prefix_append _ _

/-- The calls of an accepted goal's thread are a prefix of the emissions for the
goal up to the first result, however many goals and cancels run beside it; until
the thread ends, no emission is missing. -/
theorem executeAccepted_prefix {codecs : Codecs} (hcodecs : codecs.RoundTrip)
    (compression : Compression) (channel : UInt8) (expectedSize : Nat) (dynamicSize : Bool)
    (g : GoalUUID) (s : State)
    (h : (pair (codedConfig codecs compression channel expectedSize
      dynamicSize)).ReachableWith (CancelsLater g) s)
    (hphase : (s.goals g).phase = .returned true)
    (haccepted : (s.goals g).accepted = some true) :
    s.calls g <+: (cutAfter (fun e => e.1.isResult) (s.emitted g)).map Emission.asCall ∧
      ((s.goals g).thread ≠ .finished →
        s.calls g ++ pendingCalls s g = (s.emitted g).map Emission.asCall) := by
  have hreception (opCode : ServiceActionOpCode) (data : Bytes) :
      (codedConfig codecs compression channel expectedSize dynamicSize).reception opCode
        g.bytes data = some data :=
    Transfer.receivedData_eq hcodecs compression channel opCode g.bytes data
      (by simp [g.size]) (by simp [g.size])
  obtain ⟨-, hstreams⟩ := streams_of_cancelsLater hreception h
  have hlive (hrunning : (s.goals g).thread ≠ .finished) : (s.goals g).IsLive := by
    simp [Goal.IsLive, hphase, haccepted, hrunning]
  have hcut : cutAfter isResultCall (emittedCalls s g) =
      (cutAfter (fun e => e.1.isResult) (s.emitted g)).map Emission.asCall := by
    rw [emittedCalls, cutAfter_map]
    simp only [isResultCall_asCall]
  refine ⟨hcut ▸ hstreams.isPrefix ?_, fun hrunning => hstreams.live (hlive hrunning)⟩
  by_cases hfinished : (s.goals g).thread = .finished
  · exact Or.inl hfinished
  · exact Or.inr (hlive hfinished)

private def streamed : GoalUUID := ⟨List.replicate 16 5, by simp⟩

/-- A goal whose feedback arrives before its thread is started, and which ends
with a result. -/
theorem executeAccepted_prefix_succeeded :
    ∃ s : State, s.calls streamed = [(.feedback, [1]), (.succeed, [2])] ∧
      s.calls streamed <+:
        (cutAfter (fun e => e.1.isResult) (s.emitted streamed)).map Emission.asCall ∧
      ((s.goals streamed).thread ≠ .finished →
        s.calls streamed ++ pendingCalls s streamed =
          (s.emitted streamed).map Emission.asCall) := by
  have hrun : ∃ s, (pair (codedConfig literalCodecs ⟨.lz4Default, 1⟩ 3 0 true)).ReachableWith
      (CancelsLater streamed) s ∧ (s.goals streamed).phase = .returned true ∧
        (s.goals streamed).accepted = some true ∧
        s.calls streamed = [(.feedback, [1]), (.succeed, [2])] :=
    Machine.ReachableWith.exists_replay
      (fun (_ : State) (label : Label) (hlabel : label ≠ .findCancel streamed) heq =>
        absurd heq hlabel)
      (fun s => (s.goals streamed).phase = .returned true ∧
        (s.goals streamed).accepted = some true ∧
        s.calls streamed = [(.feedback, [1]), (.succeed, [2])]) .start
      [.insertHandle streamed, .startHandling streamed, .sendGoal streamed [0], .clientHandle,
        .executeHandle streamed true, .goalAccepted streamed, .emit streamed .feedback [1],
        .serverHandle, .receiveGoalResponse streamed, .serverHandle,
        .handleAccepted streamed, .executeAccepted streamed,
        .emit streamed .resultSucceeded [2], .serverHandle, .executeAccepted streamed]
      (by decide)
  obtain ⟨s, hreachable, hphase, haccepted, hcalls⟩ := hrun
  exact ⟨s, hcalls, executeAccepted_prefix literalCodecs_roundTrip ⟨.lz4Default, 1⟩ 3 0 true
    streamed s hreachable hphase haccepted⟩

end Action

end Ros2Connect
