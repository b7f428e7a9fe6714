import Ros2Connect.Lib.Transition

/-!
`ConnectionManager`: connections are started and managed, requests to stop one
are posted to the strand and executed there, and all of them may be stopped at
once, also by the callback that runs when one was closed. What was done with a
connection so far is its `history`, which no step reads.
-/

namespace Ros2Connect

open Lib

namespace ConnectionManager

/-- The close codes in use. -/
inductive CloseCode where
  | normal
  | goingAway
  | internalError
  deriving Repr, DecidableEq

/-- The arguments of `close`: none, or a code and a reason. -/
inductive Closing where
  | default
  | reason (cc : CloseCode) (cr : String)
  deriving Repr, DecidableEq

/-- `connectionCloseCallback`: empty, or a client's, which stops its thread and
with it all connections. -/
inductive Callback where
  | empty
  | stopAllConnections
  deriving Repr, DecidableEq

/-- What the manager does with a connection. -/
inductive Event where
  | managed
  | stopThread
  | joinThread
  | close (closing : Closing)
  | callback
  deriving Repr, DecidableEq

/-- A posted call of `stopConnectionInternal`, of the overload its arguments
select. -/
structure Request (κ : Type) where
  connection : κ
  closing : Closing
  deriving Repr, DecidableEq

structure State (κ : Type) where
  connections : List κ
  connectionCloseCallback : Callback
  requests : List (Request κ)
  started : List κ
  history : κ → List Event

/-- `started` is what `ConnectionBase::start` returns. -/
inductive Label (κ : Type) where
  | setConnectionCloseCallback (callback : Callback)
  | startConnection (connection : κ) (started : Bool)
  | stopConnection (request : Request κ)
  | execute (request : Request κ)
  | stopAllConnections
  deriving Repr, DecidableEq

variable {κ : Type} [DecidableEq κ]

namespace State

def start : State κ where
  connections := []
  connectionCloseCallback := .empty
  requests := []
  started := []
  history := fun _ => []

def record (s : State κ) (connection : κ) (events : List Event) : State κ :=
  { s with history := Function.update s.history connection (s.history connection ++ events) }

def startConnection (s : State κ) (connection : κ) (started : Bool) : State κ :=
  let s := { s with started := connection :: s.started }
  if started then
    { s with connections := s.connections ++ [connection] }.record connection [.managed]
  else s

/-- Both overloads of `stopConnectionInternal`: the loop takes the connection
out where it finds it and ends after the callback. -/
def stopInternal (callback : State κ → State κ) (connection : κ) (closing : Closing)
    (callCallback : Bool) (s : State κ) : State κ :=
  if connection ∈ s.connections then
    let s := { s with connections := s.connections.erase connection }.record connection
      [.stopThread, .joinThread, .close closing]
    if callCallback then callback (s.record connection [.callback]) else s
  else s

theorem stopInternal_head {s : State κ} {connection : κ} {rest : List κ}
    (h : s.connections = connection :: rest) (closing : Closing) :
    (s.stopInternal id connection closing false).connections = rest := by
  simp [stopInternal, record, h]

/-- Every turn of the loop stops the first connection, without the callback. -/
def stopAllConnections (s : State κ) : State κ :=
  match _ : s.connections with
  | [] => s
  | connection :: _ =>
      stopAllConnections (s.stopInternal id connection
        (.reason .goingAway "Application shutdown") false)
termination_by s.connections.length
decreasing_by
  rename_i hconnections
  rw [stopInternal_head hconnections, hconnections]
  exact Nat.lt_succ_self _

/-- `stopConnectionInternal` as far as `stopThread`, which joins the threads of the
managers. -/
def stopping (connection : κ) (s : State κ) : State κ :=
  { s with connections := s.connections.erase connection }.record connection [.stopThread]

/-- `stopAllConnections` as far as the `stopThread` of a connection. -/
def stopAllUpTo (connection : κ) (s : State κ) : State κ :=
  let before := s.connections.takeWhile fun other => decide (other ≠ connection)
  (before.foldl (fun s other => s.stopInternal id other
    (.reason .goingAway "Application shutdown") false) s).stopping connection

def runCallback (s : State κ) : State κ :=
  match s.connectionCloseCallback with
  | .empty => s
  | .stopAllConnections => s.stopAllConnections

def stopConnectionInternal (connection : κ) (callCallback : Bool) (s : State κ) : State κ :=
  s.stopInternal runCallback connection .default callCallback

def stopConnectionInternalWith (connection : κ) (cc : CloseCode) (cr : String)
    (callCallback : Bool) (s : State κ) : State κ :=
  s.stopInternal runCallback connection (.reason cc cr) callCallback

/-- The strand executes a posted request. -/
def execute (s : State κ) (request : Request κ) : State κ :=
  match request.closing with
  | .default => s.stopConnectionInternal request.connection true
  | .reason cc cr => s.stopConnectionInternalWith request.connection cc cr true

end State

/-- `startConnection` is called once for a connection; a request is executed
after it was posted. -/
def enabled (s : State κ) : Label κ → Bool
  | .startConnection connection _ => connection ∉ s.started
  | .execute request => request ∈ s.requests
  | _ => true

def next (s : State κ) : Label κ → State κ
  | .setConnectionCloseCallback callback => { s with connectionCloseCallback := callback }
  | .startConnection connection started => s.startConnection connection started
  | .stopConnection request => { s with requests := s.requests ++ [request] }
  | .execute request => { s with requests := s.requests.erase request }.execute request
  | .stopAllConnections => s.stopAllConnections

def machine (κ : Type) [DecidableEq κ] : Machine (State κ) (Label κ) where
  start := .start
  enabled := enabled
  next := next

/-- The history of a connection that is not managed: it never was, or it was
stopped, joined and closed, in this order and once, perhaps with the callback. -/
inductive Ended : List Event → Prop where
  | unmanaged : Ended []
  | closed (closing : Closing) : Ended [.managed, .stopThread, .joinThread, .close closing]
  | notified (closing : Closing) :
      Ended [.managed, .stopThread, .joinThread, .close closing, .callback]

structure Orderly (s : State κ) : Prop where
  nodup : s.connections.Nodup
  started : ∀ connection ∈ s.connections, connection ∈ s.started
  fresh : ∀ connection ∉ s.started, s.history connection = []
  managed : ∀ connection ∈ s.connections, s.history connection = [.managed]
  ended : ∀ connection ∉ s.connections, Ended (s.history connection)

section Steps

variable {s : State κ} {connection other : κ}

@[simp] theorem record_history_self (events : List Event) :
    (s.record connection events).history connection = s.history connection ++ events :=
  Function.update_self ..

theorem record_history_of_ne (events : List Event) (h : other ≠ connection) :
    (s.record connection events).history other = s.history other :=
  Function.update_of_ne h ..

theorem stopInternal_of_notMem (callback : State κ → State κ) (h : connection ∉ s.connections)
    (closing : Closing) (callCallback : Bool) :
    s.stopInternal callback connection closing callCallback = s := if_neg h

/-- What a call of `stopConnectionInternal` does with the connection it finds. -/
def ending (closing : Closing) (callCallback : Bool) : List Event :=
  if callCallback then [.stopThread, .joinThread, .close closing, .callback]
  else [.stopThread, .joinThread, .close closing]

/-- The state in which the callback is called. -/
def State.closed (s : State κ) (connection : κ) (closing : Closing) (callCallback : Bool) :
    State κ :=
  { s with connections := s.connections.erase connection }.record connection
    (ending closing callCallback)

theorem stopInternal_of_mem (callback : State κ → State κ) (h : connection ∈ s.connections)
    (closing : Closing) (callCallback : Bool) :
    s.stopInternal callback connection closing callCallback =
      if callCallback then callback (s.closed connection closing true)
      else s.closed connection closing false := by
  unfold State.stopInternal
  rw [if_pos h]
  cases callCallback with
  | false => rfl
  | true => simp [State.closed, State.record, ending]

theorem Orderly.closed (h : Orderly s) (hmem : connection ∈ s.connections) (closing : Closing)
    (callCallback : Bool) : Orderly (s.closed connection closing callCallback) := by
  have herase : ∀ other, other ∈ (s.closed connection closing callCallback).connections ↔
      other ≠ connection ∧ other ∈ s.connections := fun other => h.nodup.mem_erase_iff
  have hother : ∀ other ≠ connection,
      (s.closed connection closing callCallback).history other = s.history other :=
    fun other hne => record_history_of_ne _ hne
  constructor
  · exact h.nodup.erase connection
  · exact fun other hmem => h.started other ((herase other).mp hmem).2
  · intro other hnew
    have hne : other ≠ connection := fun heq => hnew (heq ▸ h.started connection hmem)
    exact (hother other hne).trans (h.fresh other hnew)
  · intro other hother'
    obtain ⟨hne, hmem'⟩ := (herase other).mp hother'
    exact (hother other hne).trans (h.managed other hmem')
  · intro other hgone
    by_cases heq : other = connection
    · subst heq
      have hhistory : (s.closed other closing callCallback).history other =
          [.managed] ++ ending closing callCallback := by
        rw [← h.managed other hmem]
        exact record_history_self ..
      rw [hhistory]
      cases callCallback with
      | false => exact .closed closing
      | true => exact .notified closing
    · rw [hother other heq]
      exact h.ended other fun hmem' => hgone ((herase other).mpr ⟨heq, hmem'⟩)

/-- What `stopAllConnections` does: every managed connection is closed for the
shutdown, nothing else happens. -/
structure StoppedAll (s t : State κ) : Prop where
  connections : t.connections = []
  closed : ∀ connection ∈ s.connections, t.history connection = s.history connection ++
    [.stopThread, .joinThread, .close (.reason .goingAway "Application shutdown")]
  others : ∀ connection ∉ s.connections, t.history connection = s.history connection

theorem stopAllConnections_nil (h : s.connections = []) : s.stopAllConnections = s := by
  rw [State.stopAllConnections]
  split
  · rfl
  next hcons => rw [h] at hcons; cases hcons

/-- One turn of the loop is a call of the second overload, -/
theorem stopAllConnections_cons {rest : List κ} (h : s.connections = connection :: rest) :
    s.stopAllConnections = (s.stopConnectionInternalWith connection .goingAway
      "Application shutdown" false).stopAllConnections := by
  rw [State.stopAllConnections]
  split
  next hnil => rw [h] at hnil; cases hnil
  next first others hcons =>
    obtain ⟨rfl, rfl⟩ := List.cons.inj (h.symm.trans hcons)
    rfl

/-- which closes the first connection and leaves the others. -/
theorem stopConnectionInternalWith_head {rest : List κ}
    (h : s.connections = connection :: rest) (cc : CloseCode) (cr : String) :
    s.stopConnectionInternalWith connection cc cr false =
        s.closed connection (.reason cc cr) false ∧
      (s.closed connection (.reason cc cr) false).connections = rest := by
  have hmem : connection ∈ s.connections := by simp [h]
  exact ⟨stopInternal_of_mem _ hmem _ false, by simp [State.closed, State.record, h]⟩

theorem stopAllConnections_connections (s : State κ) : s.stopAllConnections.connections = [] := by
  induction hconnections : s.connections generalizing s with
  | nil =>
      rw [stopAllConnections_nil hconnections]
      exact hconnections
  | cons connection rest ih =>
      obtain ⟨hturn, hrest⟩ :=
        stopConnectionInternalWith_head hconnections .goingAway "Application shutdown"
      rw [stopAllConnections_cons hconnections, hturn]
      exact ih _ hrest

theorem stopAllConnections_stoppedAll (s : State κ) (hnodup : s.connections.Nodup) :
    StoppedAll s s.stopAllConnections := by
  induction hconnections : s.connections generalizing s with
  | nil =>
      rw [stopAllConnections_nil hconnections]
      exact ⟨hconnections, fun connection hmem => absurd hmem (by simp [hconnections]),
        fun _ _ => rfl⟩
  | cons connection rest ih =>
      obtain ⟨hturn, hrest⟩ :=
        stopConnectionInternalWith_head hconnections .goingAway "Application shutdown"
      rw [stopAllConnections_cons hconnections, hturn]
      rw [hconnections, List.nodup_cons] at hnodup
      have hall := ih _ (hrest ▸ hnodup.2) hrest
      have hself := hall.others connection (hrest ▸ hnodup.1)
      constructor
      · exact hall.connections
      · intro other hother
        rw [hconnections] at hother
        rcases List.mem_cons.mp hother with rfl | hlater
        · rw [hself]
          exact record_history_self ..
        · have hne : other ≠ connection := fun heq => hnodup.1 (heq ▸ hlater)
          rw [hall.closed other (hrest ▸ hlater)]
          exact congrArg (· ++ _) (record_history_of_ne _ hne)
      · intro other hother
        rw [hconnections, List.mem_cons, not_or] at hother
        rw [hall.others other (hrest ▸ hother.2)]
        exact record_history_of_ne _ hother.1

theorem Orderly.stopAllConnections (h : Orderly s) : Orderly s.stopAllConnections := by
  induction hconnections : s.connections generalizing s with
  | nil =>
      rw [stopAllConnections_nil hconnections]
      exact h
  | cons connection rest ih =>
      obtain ⟨hturn, hrest⟩ :=
        stopConnectionInternalWith_head hconnections .goingAway "Application shutdown"
      have hmem : connection ∈ s.connections := by simp [hconnections]
      rw [stopAllConnections_cons hconnections, hturn]
      exact ih (h.closed hmem _ false) hrest

theorem Orderly.runCallback (h : Orderly s) : Orderly s.runCallback := by
  unfold State.runCallback
  split
  · exact h
  · exact h.stopAllConnections

theorem Orderly.stopInternal (h : Orderly s) (connection : κ) (closing : Closing)
    (callCallback : Bool) :
    Orderly (s.stopInternal State.runCallback connection closing callCallback) := by
  by_cases hmem : connection ∈ s.connections
  · rw [stopInternal_of_mem _ hmem]
    split
    · exact (h.closed hmem closing true).runCallback
    · exact h.closed hmem closing false
  · rw [stopInternal_of_notMem _ hmem]
    exact h

theorem Orderly.execute (h : Orderly s) (request : Request κ) : Orderly (s.execute request) := by
  unfold State.execute
  split
  · exact h.stopInternal ..
  · exact h.stopInternal ..

/-- Both overloads look for the connection first. -/
theorem execute_of_notMem {request : Request κ} (h : request.connection ∉ s.connections) :
    s.execute request = s := by
  unfold State.execute
  split
  · exact stopInternal_of_notMem _ h ..
  · exact stopInternal_of_notMem _ h ..

theorem Orderly.startConnection (h : Orderly s) (hnew : connection ∉ s.started)
    (started : Bool) : Orderly (s.startConnection connection started) := by
  have hunmanaged : connection ∉ s.connections := fun hmem => hnew (h.started connection hmem)
  cases started with
  | false =>
      exact ⟨h.nodup, fun other hmem => List.mem_cons_of_mem _ (h.started other hmem),
        fun other hother => h.fresh other fun hmem => hother (List.mem_cons_of_mem _ hmem),
        h.managed, h.ended⟩
  | true =>
      have hother : ∀ other ≠ connection,
          (s.startConnection connection true).history other = s.history other :=
        fun other hne => record_history_of_ne _ hne
      have hself : (s.startConnection connection true).history connection = [.managed] := by
        have hempty : s.history connection ++ [.managed] = [.managed] := by
          rw [h.fresh connection hnew, List.nil_append]
        exact (record_history_self ..).trans hempty
      have hmem : ∀ other, other ∈ (s.startConnection connection true).connections ↔
          other ∈ s.connections ∨ other = connection := by
        simp [State.startConnection, State.record]
      constructor
      · exact List.nodup_append.mpr ⟨h.nodup, List.nodup_singleton _, by
          rintro other hmem' _ hsingle rfl
          exact hunmanaged (List.mem_singleton.mp hsingle ▸ hmem')⟩
      · intro other hmem'
        rcases (hmem other).mp hmem' with hold | rfl
        · exact List.mem_cons_of_mem _ (h.started other hold)
        · exact List.mem_cons_self
      · intro other hfresh
        obtain ⟨hne, hold⟩ := not_or.mp (fun hor => hfresh (List.mem_cons.mpr hor))
        exact (hother other hne).trans (h.fresh other hold)
      · intro other hmem'
        rcases (hmem other).mp hmem' with hold | rfl
        · have hne : other ≠ connection := fun heq => hunmanaged (heq ▸ hold)
          exact (hother other hne).trans (h.managed other hold)
        · exact hself
      · intro other hgone
        obtain ⟨hold, hne⟩ := not_or.mp (fun hor => hgone ((hmem other).mpr hor))
        rw [hother other hne]
        exact h.ended other hold

end Steps

omit [DecidableEq κ] in
theorem Orderly.start : Orderly (State.start : State κ) :=
  ⟨List.nodup_nil, fun _ h => absurd h List.not_mem_nil, fun _ _ => rfl,
    fun _ h => absurd h List.not_mem_nil, fun _ _ => .unmanaged⟩

theorem Orderly.reachable {s : State κ} (h : (machine κ).Reachable s) : Orderly s := by
  refine h.invariant Orderly .start fun s label hs henabled _ => ?_
  cases label with
  | setConnectionCloseCallback callback =>
      exact ⟨hs.nodup, hs.started, hs.fresh, hs.managed, hs.ended⟩
  | startConnection connection started =>
      exact hs.startConnection (of_decide_eq_true henabled) started
  | stopConnection request => exact ⟨hs.nodup, hs.started, hs.fresh, hs.managed, hs.ended⟩
  | execute request =>
      have hqueued : Orderly { s with requests := s.requests.erase request } :=
        ⟨hs.nodup, hs.started, hs.fresh, hs.managed, hs.ended⟩
      exact hqueued.execute request
  | stopAllConnections => exact hs.stopAllConnections

/-- A managed connection is untouched, any other one was stopped, joined and
closed at most once and only if it was managed; requests for others change
nothing, and stopping all connections closes each managed one. -/
structure StoppedOnce (s : State κ) : Prop where
  managed : ∀ connection ∈ s.connections, s.history connection = [.managed]
  ended : ∀ connection ∉ s.connections, Ended (s.history connection)
  unknown : ∀ request : Request κ, request.connection ∉ s.connections → s.execute request = s
  stopAllConnections : StoppedAll s s.stopAllConnections

/-- However often and in whichever order connections are requested to stop. -/
theorem stopConnection_once {s : State κ} (h : (machine κ).Reachable s) : StoppedOnce s := by
  have horderly := Orderly.reachable h
  exact ⟨horderly.managed, horderly.ended, fun _ => execute_of_notMem,
    stopAllConnections_stoppedAll s horderly.nodup⟩

/-- Two connections, of which the first is requested to stop twice, and the
callback that stops the other. -/
theorem stopConnection_once_reentrant : ∃ s : State Nat,
    (s.history 1 = [.managed, .stopThread, .joinThread, .close .default, .callback] ∧
      s.history 2 = [.managed, .stopThread, .joinThread,
        .close (.reason .goingAway "Application shutdown")]) ∧ StoppedOnce s := by
  have hrun : ∃ s : State Nat, (machine Nat).Reachable s ∧
      s.history 1 = [.managed, .stopThread, .joinThread, .close .default, .callback] ∧
      s.history 2 = [.managed, .stopThread, .joinThread,
        .close (.reason .goingAway "Application shutdown")] :=
    Machine.exists_reachable (fun s : State Nat =>
      s.history 1 = [.managed, .stopThread, .joinThread, .close .default, .callback] ∧
      s.history 2 = [.managed, .stopThread, .joinThread,
        .close (.reason .goingAway "Application shutdown")])
      [.setConnectionCloseCallback .stopAllConnections, .startConnection 1 true,
        .startConnection 2 true, .stopConnection ⟨1, .default⟩,
        .stopConnection ⟨1, .reason .internalError "Error on read"⟩,
        .stopConnection ⟨2, .default⟩, .execute ⟨1, .default⟩,
        .execute ⟨1, .reason .internalError "Error on read"⟩, .execute ⟨2, .default⟩]
      (by decide +kernel)
  obtain ⟨s, hs, hhistory⟩ := hrun
  exact ⟨s, hhistory, stopConnection_once hs⟩

end ConnectionManager

end Ros2Connect
