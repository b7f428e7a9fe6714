import Ros2Connect.Connection.ConnectionManager
import Ros2Connect.Lib.Simulation

/-!
`Client` and the part of `main` that runs it: the main thread starts the
client's thread, spins the executor and halts the client; the client's thread
connects once and runs its `io_context` until it is stopped. Both call
`stopThread`, whose parts interleave. A call of `Executor::cancel` ends a spin
that runs and has no effect on a later one. A call that stops a connection may
join a thread of a manager that has missed its notification, and then does not
return.
-/

namespace Ros2Connect

open Lib

namespace Client

/-- What a call of `stopThread` does next. -/
inductive StopStep where
  | stopping
  | iocStop
  | stopAllConnections
  | cancel
  deriving Repr, DecidableEq

/-- Where the main thread is: `ConnectClient::spin`, `add_node`,
`executor.spin`, `halt` and its end. A SIGINT may halt the client `early`, before
the spin, and then has `reset` it. -/
inductive Main where
  | starting
  | adding (reset : Bool)
  | spinning (reset : Bool)
  | halting (early : Bool) (step : StopStep)
  | joining (early : Bool)
  | halted
  /-- In the `stopThread` of a connection, for ever. -/
  | blocked
  deriving Repr, DecidableEq

/-- Where the client's thread is. -/
inductive Position where
  | unstarted
  | connecting
  /-- In `connect`, with the callback set. -/
  | opening
  /-- In `io_context::run`, between two handlers. -/
  | running
  /-- The callback of a closed connection cancels the executor. -/
  | callback
  | stopping (step : StopStep)
  | returned
  /-- In the `stopThread` of a connection, for ever. -/
  | blocked
  deriving Repr, DecidableEq

/-- The calls on the executor, logged. -/
inductive Call where
  | spin
  | cancel
  deriving Repr, DecidableEq

structure State (κ : Type) where
  main : Main
  position : Position
  stopping : Bool
  isConnecting : Bool
  iocStopped : Bool
  manager : ConnectionManager.State κ
  /-- `rclcpp::ok`. -/
  ok : Bool
  spinning : Bool
  calls : List Call

/-- `connect` gets no connection, or one whose thread may have been started. A
label that blocks is a call which stops a connection and does not return. -/
inductive Label (κ : Type) where
  | startThread (created : Bool)
  | spin
  | spinReturns
  | halt
  | join
  | connect
  | opened (connection : Option κ) (started : Bool)
  | execute (request : ConnectionManager.Request κ)
  | callback
  | runReturns
  | stopThread
  | haltBlocks (connection : κ)
  | stopThreadBlocks (connection : κ)
  | executeBlocks (request : ConnectionManager.Request κ)
  /-- SIGTERM. -/
  | shutdown
  /-- SIGINT, which halts the client in the middle of what the main thread does. -/
  | signal
  | stopConnection (request : ConnectionManager.Request κ)
  | throws
  deriving Repr, DecidableEq

/-- A step that waits for something outside of the client: a signal, a
connection that ends, a handler that throws. -/
def Label.isExternal {κ : Type} : Label κ → Bool
  | .shutdown | .signal | .stopConnection _ | .throws => true
  | _ => false

variable {κ : Type} [DecidableEq κ]

namespace State

def start : State κ where
  main := .starting
  position := .unstarted
  stopping := false
  isConnecting := false
  iocStopped := false
  manager := .start
  ok := true
  spinning := false
  calls := []

def cancel (s : State κ) : State κ :=
  { s with spinning := false, calls := s.calls ++ [.cancel] }

def stop (s : State κ) : StopStep → State κ
  | .stopping => { s with stopping := true }
  | .iocStop => { s with iocStopped := true }
  | .stopAllConnections => { s with manager := s.manager.stopAllConnections }
  | .cancel => s.cancel

/-- `rclcpp::shutdown` is called for a thread that could not be created. -/
def startThread (s : State κ) (created : Bool) : State κ :=
  let s := { s with stopping := false, iocStopped := false, main := .adding false }
  if created then { s with position := .connecting } else { s with ok := false }

def halt (s : State κ) : State κ :=
  match s.main with
  | .halting early .stopping => { s.stop .stopping with main := .halting early .iocStop }
  | .halting early .iocStop => { s.stop .iocStop with main := .halting early .stopAllConnections }
  | .halting early .stopAllConnections =>
      { s.stop .stopAllConnections with main := .halting early .cancel }
  | .halting early .cancel => { s.stop .cancel with main := .joining early }
  | _ => s

/-- The client that is joined is reset: there is none to halt after the spin. -/
def join (s : State κ) : State κ :=
  match s.main with
  | .joining early => { s with main := if early then .adding true else .halted }
  | _ => s

def spin (s : State κ) : State κ :=
  match s.main with
  | .adding reset =>
      { s with main := .spinning reset, spinning := true, calls := s.calls ++ [.spin] }
  | _ => s

def spinReturns (s : State κ) : State κ :=
  match s.main with
  | .spinning reset =>
      { s with main := if reset then .halted else .halting false .stopping, spinning := false }
  | _ => s

/-- The handler of SIGINT halts a client that was started and not reset. -/
def signal (s : State κ) : State κ :=
  match s.main with
  | .adding false => { s with main := .halting true .stopping }
  | .spinning false => { s with main := .halting false .stopping }
  | _ => s

/-- The thread's own call of `stopThread`. -/
def stopThread (s : State κ) : State κ :=
  match s.position with
  | .stopping .stopping => { s.stop .stopping with position := .stopping .iocStop }
  | .stopping .iocStop => { s.stop .iocStop with position := .stopping .stopAllConnections }
  | .stopping .stopAllConnections =>
      { s.stop .stopAllConnections with position := .stopping .cancel }
  | .stopping .cancel => { s.stop .cancel with position := .returned }
  | _ => s

def connect (s : State κ) : State κ :=
  if s.isConnecting || !s.manager.connections.isEmpty then { s with position := .running }
  else
    { s with
      isConnecting := true
      manager := { s.manager with connectionCloseCallback := .stopAllConnections }
      position := .opening }

/-- `run` stops the thread if `connect` fails. -/
def opened (s : State κ) (connection : Option κ) (started : Bool) : State κ :=
  match connection with
  | none => { s with isConnecting := false, position := .stopping .stopping }
  | some connection =>
      { s with
        manager := s.manager.startConnection connection started
        isConnecting := false
        position := .running }

/-- The handler of a posted request. The callback sets `stopping`, stops the
`io_context` and all connections, and goes on to cancel the executor. -/
def execute (s : State κ) (request : ConnectionManager.Request κ) : State κ :=
  let manager := ConnectionManager.next s.manager (.execute request)
  if request.connection ∈ s.manager.connections then
    { s with manager := manager, stopping := true, iocStopped := true, position := .callback }
  else { s with manager := manager }

end State

/-- A handler runs while the `io_context` is not stopped; the work guard keeps
`io_context::run` from returning before. No second SIGINT comes while the client
halts. -/
def enabled (s : State κ) : Label κ → Bool
  | .startThread _ => s.main == .starting
  | .spin => match s.main with
      | .adding _ => true
      | _ => false
  | .spinReturns => match s.main with
      | .spinning _ => !s.spinning || !s.ok
      | _ => false
  | .halt => match s.main with
      | .halting _ _ => true
      | _ => false
  | .join => match s.main with
      | .joining _ => s.position == .returned || s.position == .unstarted
      | _ => false
  | .connect => s.position == .connecting
  | .opened connection _ => s.position == .opening &&
      connection.all fun connection => connection ∉ s.manager.started
  | .execute request => s.position == .running && !s.iocStopped &&
      ConnectionManager.enabled s.manager (.execute request)
  | .callback => s.position == .callback
  | .runReturns => s.position == .running && s.iocStopped
  | .stopThread => match s.position with
      | .stopping _ => true
      | _ => false
  | .haltBlocks connection => match s.main with
      | .halting _ .stopAllConnections => decide (connection ∈ s.manager.connections)
      | _ => false
  | .stopThreadBlocks connection => s.position == .stopping .stopAllConnections &&
      decide (connection ∈ s.manager.connections)
  | .executeBlocks request => s.position == .running && !s.iocStopped &&
      ConnectionManager.enabled s.manager (.execute request) &&
      decide (request.connection ∈ s.manager.connections)
  | .shutdown => true
  | .signal => match s.main with
      | .starting | .adding _ | .spinning _ => true
      | .halting _ _ | .joining _ | .halted | .blocked => false
  | .stopConnection request => decide (request.connection ∈ s.manager.started)
  | .throws => s.position == .running || s.position == .callback

def next (s : State κ) : Label κ → State κ
  | .startThread created => s.startThread created
  | .spin => s.spin
  | .spinReturns => s.spinReturns
  | .halt => s.halt
  | .join => s.join
  | .connect => s.connect
  | .opened connection started => s.opened connection started
  | .execute request => s.execute request
  | .callback => { s.cancel with position := .running }
  | .runReturns | .throws => { s with position := .stopping .stopping }
  | .stopThread => s.stopThread
  | .haltBlocks connection =>
      { s with manager := s.manager.stopAllUpTo connection, main := .blocked }
  | .stopThreadBlocks connection =>
      { s with manager := s.manager.stopAllUpTo connection, position := .blocked }
  | .executeBlocks request =>
      let manager := { s.manager with requests := s.manager.requests.erase request }
      { s with manager := manager.stopping request.connection, position := .blocked }
  | .shutdown => { s with ok := false }
  | .signal => s.signal
  | .stopConnection request =>
      { s with manager := { s.manager with requests := s.manager.requests ++ [request] } }

def client (κ : Type) [DecidableEq κ] : Machine (State κ) (Label κ) where
  start := .start
  enabled := enabled
  next := next

/-- A call that does not return. -/
def Label.blocks : Label κ → Bool
  | .haltBlocks _ | .stopThreadBlocks _ | .executeBlocks _ => true
  | _ => false

/-- The `io_context` has been stopped at this step of `stopThread`. -/
def StopStep.isIocStopped : StopStep → Bool
  | .stopAllConnections | .cancel => true
  | .stopping | .iocStop => false

def Main.isIocStopped : Main → Bool
  | .halting _ step => step.isIocStopped
  | .adding reset | .spinning reset => reset
  | .joining _ | .halted => true
  | .starting | .blocked => false

/-- `halt` has canceled the executor. -/
def Main.isCanceled : Main → Bool
  | .adding reset | .spinning reset => reset
  | .joining _ | .halted => true
  | .starting | .halting _ _ | .blocked => false

/-- `halt` has joined the client's thread. -/
def Main.isJoined : Main → Bool
  | .adding reset | .spinning reset => reset
  | .halted => true
  | .starting | .halting _ _ | .joining _ | .blocked => false

/-- The thread connects yet. -/
def Position.isEarly : Position → Bool
  | .unstarted | .connecting | .opening => true
  | .running | .callback | .stopping _ | .returned | .blocked => false

/-- Nothing is managed any more. -/
def Position.isEmptied : Position → Bool
  | .stopping .cancel | .returned => true
  | _ => false

/-- What the steps of a client keep until a call does not return. -/
structure Inv (s : State κ) : Prop where
  starting : s.main = .starting → s.position = .unstarted
  unstarted : s.position = .unstarted → s.main = .starting ∨ s.ok = false
  early : s.position.isEarly = true → s.manager.started = []
  once : s.manager.started.length ≤ 1
  opening : s.isConnecting = true → s.position = .opening
  main : s.main.isIocStopped = true → s.iocStopped = true
  own : ∀ step, s.position = .stopping step → step.isIocStopped = true → s.iocStopped = true
  emptied : s.position.isEmptied = true → s.manager.connections = []
  returned : s.position = .returned → .cancel ∈ s.calls
  canceled : s.main.isCanceled = true → .cancel ∈ s.calls
  joined : s.main.isJoined = true → s.position = .returned ∨ s.position = .unstarted
  unmanaged : s.iocStopped = false → s.manager.connections = [] →
    ∀ connection, s.manager.history connection = []
  spinning : s.spinning = true → ∃ before, s.calls = before ++ [.spin]

omit [DecidableEq κ] in
theorem Inv.start : Inv (.start : State κ) where
  starting := fun _ => rfl
  unstarted := fun _ => .inl rfl
  early := fun _ => rfl
  once := Nat.zero_le 1
  opening := nofun
  main := nofun
  own := nofun
  emptied := fun _ => rfl
  returned := nofun
  canceled := nofun
  joined := nofun
  unmanaged := fun _ _ _ => rfl
  spinning := nofun

section Steps

variable {s : State κ}

/-- Stopping connections starts none and takes no request back. -/
theorem kept_stopAllConnections (manager : ConnectionManager.State κ) :
    manager.stopAllConnections.started = manager.started ∧
      manager.stopAllConnections.requests = manager.requests := by
  induction hconnections : manager.connections generalizing manager with
  | nil =>
      rw [ConnectionManager.stopAllConnections_nil hconnections]
      exact ⟨rfl, rfl⟩
  | cons connection rest ih =>
      obtain ⟨hturn, hrest⟩ := ConnectionManager.stopConnectionInternalWith_head hconnections
        .goingAway "Application shutdown"
      rw [ConnectionManager.stopAllConnections_cons hconnections, hturn]
      exact ih _ hrest

theorem kept_execute (manager : ConnectionManager.State κ)
    (request : ConnectionManager.Request κ) :
    (manager.execute request).started = manager.started ∧
      (manager.execute request).requests = manager.requests := by
  have hinternal : ∀ closing, (manager.stopInternal ConnectionManager.State.runCallback
      request.connection closing true).started = manager.started ∧
      (manager.stopInternal ConnectionManager.State.runCallback
        request.connection closing true).requests = manager.requests := by
    intro closing
    by_cases hmem : request.connection ∈ manager.connections
    · rw [ConnectionManager.stopInternal_of_mem _ hmem, if_pos rfl,
        ConnectionManager.State.runCallback]
      split
      · exact ⟨rfl, rfl⟩
      · exact kept_stopAllConnections _
    · rw [ConnectionManager.stopInternal_of_notMem _ hmem]
      exact ⟨rfl, rfl⟩
  unfold ConnectionManager.State.execute
  split <;> exact hinternal _

/-- The first part of `stopThread` finds nothing stopped. -/
theorem nothingStopped {P : Prop} : ∀ step, Position.stopping .stopping = .stopping step →
    step.isIocStopped = true → P := by
  rintro step ⟨⟩ hstopped
  cases hstopped

omit [DecidableEq κ] in
/-- A step of the main thread past the start. -/
theorem Inv.toMain (h : Inv s) (main : Main) (hmain : main ≠ .starting)
    (hstarted : s.position = .unstarted → s.ok = false)
    (hstopped : main.isIocStopped = true → s.iocStopped = true)
    (hcanceled : main.isCanceled = true → .cancel ∈ s.calls)
    (hjoined : main.isJoined = true → s.position = .returned ∨ s.position = .unstarted) :
    Inv { s with main := main } where
  starting := fun hstarting => absurd hstarting hmain
  unstarted := fun hposition => .inr (hstarted hposition)
  early := h.early
  once := h.once
  opening := h.opening
  main := hstopped
  own := h.own
  emptied := h.emptied
  returned := h.returned
  canceled := hcanceled
  joined := hjoined
  unmanaged := h.unmanaged
  spinning := h.spinning

omit [DecidableEq κ] in
/-- A step of the client's thread after it has connected. -/
theorem Inv.toPosition (h : Inv s) (position : Position) (hactive : s.position ≠ .returned)
    (hstarted : s.position ≠ .unstarted) (hearly : position.isEarly = false)
    (hconnecting : s.isConnecting = false)
    (hown : ∀ step, position = .stopping step → step.isIocStopped = true → s.iocStopped = true)
    (hemptied : position.isEmptied = true → s.manager.connections = [])
    (hreturned : position = .returned → .cancel ∈ s.calls) :
    Inv { s with position := position } where
  starting := fun hstarting => absurd (h.starting hstarting) hstarted
  unstarted := by
    rintro rfl
    cases hearly
  early := fun hstill => by
    rw [hearly] at hstill
    cases hstill
  once := h.once
  opening := fun hstill => by
    rw [hconnecting] at hstill
    cases hstill
  main := h.main
  own := hown
  emptied := hemptied
  returned := hreturned
  canceled := h.canceled
  joined := fun hjoined => ((h.joined hjoined).elim hactive hstarted).elim
  unmanaged := h.unmanaged
  spinning := h.spinning

omit [DecidableEq κ] in
theorem Inv.cancel (h : Inv s) : Inv s.cancel where
  starting := h.starting
  unstarted := h.unstarted
  early := h.early
  once := h.once
  opening := h.opening
  main := h.main
  own := h.own
  emptied := h.emptied
  returned := fun hposition => List.mem_append_left _ (h.returned hposition)
  canceled := fun hmain => List.mem_append_left _ (h.canceled hmain)
  joined := h.joined
  unmanaged := h.unmanaged
  spinning := nofun

/-- The parts of `stopThread`. -/
theorem Inv.stop (h : Inv s) (horderly : ConnectionManager.Orderly s.manager) (step : StopStep)
    (hstopped : step = .stopAllConnections → s.iocStopped = true) : Inv (s.stop step) := by
  cases step with
  | stopping => exact ⟨h.starting, h.unstarted, h.early, h.once, h.opening, h.main, h.own,
      h.emptied, h.returned, h.canceled, h.joined, h.unmanaged, h.spinning⟩
  | iocStop => exact ⟨h.starting, h.unstarted, h.early, h.once, h.opening, fun _ => rfl,
      fun _ _ _ => rfl, h.emptied, h.returned, h.canceled, h.joined, nofun, h.spinning⟩
  | stopAllConnections =>
      have hstarted := (kept_stopAllConnections s.manager).1
      have hempty :=
        (ConnectionManager.stopAllConnections_stoppedAll s.manager horderly.nodup).connections
      refine ⟨h.starting, h.unstarted, fun hearly => hstarted.trans (h.early hearly), ?_,
        h.opening, h.main, h.own, fun _ => hempty, h.returned, h.canceled, h.joined, ?_,
        h.spinning⟩
      · simp only [State.stop, hstarted]
        exact h.once
      · intro hrunning
        simp only [State.stop, hstopped rfl] at hrunning
        cases hrunning
  | cancel => exact h.cancel

omit [DecidableEq κ] in
/-- `isConnecting` is reset when `connect` returns. -/
theorem Inv.not_connecting (h : Inv s) (hposition : s.position ≠ .opening) :
    s.isConnecting = false := by
  cases hconnecting : s.isConnecting with
  | false => rfl
  | true => exact absurd (h.opening hconnecting) hposition

omit [DecidableEq κ] in
/-- A thread that goes on has not been joined. -/
theorem Inv.not_joined (h : Inv s) (hactive : s.position ≠ .returned)
    (hstarted : s.position ≠ .unstarted) {P : Prop} : s.main.isJoined = true → P :=
  fun hjoined => ((h.joined hjoined).elim hactive hstarted).elim

theorem Inv.halt (h : Inv s) (horderly : ConnectionManager.Orderly s.manager) :
    Inv s.halt := by
  have hstarted : ∀ {early step}, s.main = .halting early step → s.position = .unstarted →
      s.ok = false :=
    fun hmain hposition => (h.unstarted hposition).resolve_left (by rw [hmain]; nofun)
  unfold State.halt
  split
  next early hmain =>
    exact (h.stop horderly .stopping nofun).toMain (.halting early .iocStop) nofun
      (hstarted hmain) nofun nofun nofun
  next early hmain =>
    exact (h.stop horderly .iocStop nofun).toMain (.halting early .stopAllConnections) nofun
      (hstarted hmain) (fun _ => rfl) nofun nofun
  next early hmain =>
    have hstopped : s.iocStopped = true := h.main (by rw [hmain]; rfl)
    exact (h.stop horderly .stopAllConnections fun _ => hstopped).toMain (.halting early .cancel)
      nofun (hstarted hmain) (fun _ => hstopped) nofun nofun
  next early hmain =>
    have hstopped : s.iocStopped = true := h.main (by rw [hmain]; rfl)
    exact h.cancel.toMain (.joining early) nofun (hstarted hmain) (fun _ => hstopped)
      (fun _ => List.mem_append_right _ (List.mem_singleton.mpr rfl)) nofun
  next => exact h

theorem Inv.stopThread (h : Inv s) (horderly : ConnectionManager.Orderly s.manager) :
    Inv s.stopThread := by
  unfold State.stopThread
  split
  next hposition =>
    have hconnecting := h.not_connecting (by rw [hposition]; nofun)
    exact (h.stop horderly .stopping nofun).toPosition (.stopping .iocStop)
      (by simp [State.stop, hposition]) (by simp [State.stop, hposition]) rfl hconnecting
      (by rintro step ⟨⟩ hstopped; cases hstopped) nofun nofun
  next hposition =>
    have hconnecting := h.not_connecting (by rw [hposition]; nofun)
    exact (h.stop horderly .iocStop nofun).toPosition (.stopping .stopAllConnections)
      (by simp [State.stop, hposition]) (by simp [State.stop, hposition]) rfl hconnecting
      (fun _ _ _ => rfl) nofun nofun
  next hposition =>
    have hconnecting := h.not_connecting (by rw [hposition]; nofun)
    have hstopped := h.own .stopAllConnections hposition rfl
    have hempty :=
      (ConnectionManager.stopAllConnections_stoppedAll s.manager horderly.nodup).connections
    exact (h.stop horderly .stopAllConnections fun _ => hstopped).toPosition (.stopping .cancel)
      (by simp [State.stop, hposition]) (by simp [State.stop, hposition]) rfl hconnecting
      (fun _ _ _ => hstopped) (fun _ => hempty) nofun
  next hposition =>
    have hconnecting := h.not_connecting (by rw [hposition]; nofun)
    exact h.cancel.toPosition .returned (by simp [State.cancel, hposition])
      (by simp [State.cancel, hposition]) rfl hconnecting nofun
      (fun _ => h.emptied (by rw [hposition]; rfl))
      fun _ => List.mem_append_right _ (List.mem_singleton.mpr rfl)
  next => exact h

omit [DecidableEq κ] in
theorem Inv.connect (h : Inv s) (hposition : s.position = .connecting) : Inv s.connect := by
  have hnone := h.early (by rw [hposition]; rfl)
  have hconnecting := h.not_connecting (by rw [hposition]; nofun)
  have hmain : s.main ≠ .starting := fun hstarting => by
    rw [h.starting hstarting] at hposition
    cases hposition
  have hactive : ∀ {P : Prop}, s.main.isJoined = true → P :=
    h.not_joined (by rw [hposition]; nofun) (by rw [hposition]; nofun)
  unfold State.connect
  split
  · exact h.toPosition .running (by rw [hposition]; nofun) (by rw [hposition]; nofun) rfl
      hconnecting nofun nofun nofun
  · exact ⟨fun hstarting => absurd hstarting hmain, nofun, fun _ => hnone, h.once, fun _ => rfl,
      h.main, nofun, nofun, nofun, h.canceled, hactive, h.unmanaged,
      h.spinning⟩

/-- The only connection of the client. -/
theorem Inv.opened (h : Inv s) (hposition : s.position = .opening) (connection : Option κ)
    (started : Bool) : Inv (s.opened connection started) := by
  have hnone := h.early (by rw [hposition]; rfl)
  have hmain : s.main ≠ .starting := fun hstarting => by
    rw [h.starting hstarting] at hposition
    cases hposition
  have hactive : ∀ {P : Prop}, s.main.isJoined = true → P :=
    h.not_joined (by rw [hposition]; nofun) (by rw [hposition]; nofun)
  cases connection with
  | none =>
      exact ⟨fun hstarting => absurd hstarting hmain, nofun, nofun, h.once, nofun, h.main,
        nothingStopped, nofun, nofun, h.canceled, hactive, h.unmanaged, h.spinning⟩
  | some connection =>
      refine ⟨fun hstarting => absurd hstarting hmain, nofun, nofun, ?_, nofun, h.main, nofun,
        nofun, nofun, h.canceled, hactive, fun hrunning hempty => ?_,
        h.spinning⟩
      · cases started <;>
          simp [State.opened, ConnectionManager.State.startConnection,
            ConnectionManager.State.record, hnone]
      · cases started with
        | false => exact h.unmanaged hrunning hempty
        | true =>
            simp [State.opened, ConnectionManager.State.startConnection,
              ConnectionManager.State.record] at hempty

theorem Inv.execute (h : Inv s) (hposition : s.position = .running)
    (request : ConnectionManager.Request κ) : Inv (s.execute request) := by
  let manager := { s.manager with requests := s.manager.requests.erase request }
  have hconnecting := h.not_connecting (by rw [hposition]; nofun)
  have hstarted : (manager.execute request).started = s.manager.started :=
    (kept_execute manager request).1
  have hmain : s.main ≠ .starting := fun hstarting => by
    rw [h.starting hstarting] at hposition
    cases hposition
  have hactive : ∀ {P : Prop}, s.main.isJoined = true → P :=
    h.not_joined (by rw [hposition]; nofun) (by rw [hposition]; nofun)
  unfold State.execute
  split
  · refine ⟨fun hstarting => absurd hstarting hmain, nofun, nofun, ?_, fun hstill => ?_,
      fun _ => rfl, nofun, nofun, nofun, h.canceled, hactive, nofun,
      h.spinning⟩
    · exact hstarted.symm ▸ h.once
    · exact absurd (hconnecting.symm.trans hstill) nofun
  · rename_i hmem
    have hsame : ConnectionManager.next s.manager (.execute request) = manager :=
      @ConnectionManager.execute_of_notMem _ _ manager request hmem
    simp only [hsame]
    exact ⟨h.starting, h.unstarted, h.early, h.once, h.opening, h.main, h.own, h.emptied,
      h.returned, h.canceled, h.joined, h.unmanaged, h.spinning⟩

omit [DecidableEq κ] in
/-- The thread is started once, over nothing. -/
theorem Inv.startThread (h : Inv s) (horderly : ConnectionManager.Orderly s.manager)
    (hmain : s.main = .starting) (created : Bool) : Inv (s.startThread created) := by
  have hposition := h.starting hmain
  have hnone := h.early (by rw [hposition]; rfl)
  have hconnecting := h.not_connecting (by rw [hposition]; nofun)
  cases created with
  | true =>
      exact {
        starting := nofun
        unstarted := nofun
        early := fun _ => hnone
        once := h.once
        opening := fun hstill => absurd (hconnecting.symm.trans hstill) nofun
        main := nofun
        own := fun _ hstopping => by cases hstopping
        emptied := nofun
        returned := nofun
        canceled := nofun
        joined := nofun
        unmanaged := fun _ _ connection =>
          horderly.fresh connection (by rw [hnone]; exact List.not_mem_nil)
        spinning := h.spinning }
  | false =>
      exact {
        starting := nofun
        unstarted := fun _ => .inr rfl
        early := fun _ => hnone
        once := h.once
        opening := h.opening
        main := nofun
        own := fun _ hstopping => by cases hposition.symm.trans hstopping
        emptied := h.emptied
        returned := h.returned
        canceled := nofun
        joined := nofun
        unmanaged := fun _ _ connection =>
          horderly.fresh connection (by rw [hnone]; exact List.not_mem_nil)
        spinning := h.spinning }

omit [DecidableEq κ] in
theorem Inv.spin (h : Inv s) : Inv s.spin := by
  unfold State.spin
  split
  next reset hmain =>
    have hmoved := h.toMain (.spinning reset) nofun
      (fun hposition => (h.unstarted hposition).resolve_left (by rw [hmain]; nofun))
      (fun hreset => h.main (by rw [hmain]; exact hreset))
      (fun hreset => h.canceled (by rw [hmain]; exact hreset))
      fun hreset => h.joined (by rw [hmain]; exact hreset)
    exact ⟨hmoved.starting, hmoved.unstarted, hmoved.early, hmoved.once, hmoved.opening,
      hmoved.main, hmoved.own, hmoved.emptied,
      fun hposition => List.mem_append_left _ (hmoved.returned hposition),
      fun hreset => List.mem_append_left _ (hmoved.canceled hreset), hmoved.joined,
      hmoved.unmanaged, fun _ => ⟨s.calls, rfl⟩⟩
  next => exact h

omit [DecidableEq κ] in
/-- There is nothing to halt behind the spin of a client that was reset. -/
theorem Inv.spinReturns (h : Inv s) : Inv s.spinReturns := by
  unfold State.spinReturns
  split
  next reset hmain =>
    have hstarted : s.position = .unstarted → s.ok = false :=
      fun hposition => (h.unstarted hposition).resolve_left (by rw [hmain]; nofun)
    have hmoved : Inv { s with main := if reset then .halted else .halting false .stopping } := by
      cases reset with
      | true =>
          exact h.toMain .halted nofun hstarted (fun _ => h.main (by rw [hmain]; rfl))
            (fun _ => h.canceled (by rw [hmain]; rfl)) fun _ => h.joined (by rw [hmain]; rfl)
      | false => exact h.toMain (.halting false .stopping) nofun hstarted nofun nofun nofun
    exact ⟨hmoved.starting, hmoved.unstarted, hmoved.early, hmoved.once, hmoved.opening,
      hmoved.main, hmoved.own, hmoved.emptied, hmoved.returned, hmoved.canceled, hmoved.joined,
      hmoved.unmanaged, nofun⟩
  next => exact h

omit [DecidableEq κ] in
theorem Inv.join (h : Inv s) (hposition : s.position = .returned ∨ s.position = .unstarted) :
    Inv s.join := by
  unfold State.join
  split
  next early hmain =>
    have hstarted : s.position = .unstarted → s.ok = false :=
      fun hunstarted => (h.unstarted hunstarted).resolve_left (by rw [hmain]; nofun)
    have hstopped : s.iocStopped = true := h.main (by rw [hmain]; rfl)
    have hcanceled : .cancel ∈ s.calls := h.canceled (by rw [hmain]; rfl)
    cases early with
    | true =>
        exact h.toMain (.adding true) nofun hstarted (fun _ => hstopped) (fun _ => hcanceled)
          fun _ => hposition
    | false =>
        exact h.toMain .halted nofun hstarted (fun _ => hstopped) (fun _ => hcanceled)
          fun _ => hposition
  next => exact h

omit [DecidableEq κ] in
theorem Inv.signal (h : Inv s) : Inv s.signal := by
  unfold State.signal
  split
  next hmain =>
    exact h.toMain (.halting true .stopping) nofun
      (fun hposition => (h.unstarted hposition).resolve_left (by rw [hmain]; nofun)) nofun nofun
      nofun
  next hmain =>
    exact h.toMain (.halting false .stopping) nofun
      (fun hposition => (h.unstarted hposition).resolve_left (by rw [hmain]; nofun)) nofun nofun
      nofun
  next => exact h

/-- What one step keeps. -/
theorem Inv.next (h : Inv s) (horderly : ConnectionManager.Orderly s.manager) {label : Label κ}
    (henabled : enabled s label = true) (hreturns : label.blocks = false) :
    Inv (next s label) := by
  cases label with
  | startThread created =>
      simp only [enabled, beq_iff_eq] at henabled
      exact h.startThread horderly henabled created
  | spin => exact h.spin
  | spinReturns => exact h.spinReturns
  | halt => exact h.halt horderly
  | join =>
      refine h.join ?_
      simp only [enabled] at henabled
      split at henabled
      · simpa using henabled
      · cases henabled
  | connect =>
      simp only [enabled, beq_iff_eq] at henabled
      exact h.connect henabled
  | opened connection started =>
      simp only [enabled, Bool.and_eq_true, beq_iff_eq] at henabled
      exact h.opened henabled.1 connection started
  | execute request =>
      simp only [enabled, Bool.and_eq_true, beq_iff_eq] at henabled
      exact h.execute henabled.1.1 request
  | callback =>
      simp only [enabled, beq_iff_eq] at henabled
      exact h.cancel.toPosition .running (by simp [State.cancel, henabled])
        (by simp [State.cancel, henabled]) rfl
        (h.not_connecting (by rw [henabled]; nofun)) nofun nofun nofun
  | runReturns =>
      simp only [enabled, Bool.and_eq_true, beq_iff_eq] at henabled
      exact h.toPosition (.stopping .stopping) (by rw [henabled.1]; nofun)
        (by rw [henabled.1]; nofun) rfl (h.not_connecting (by rw [henabled.1]; nofun))
        nothingStopped nofun nofun
  | throws =>
      simp only [enabled, Bool.or_eq_true, beq_iff_eq] at henabled
      have hactive : s.position ≠ .returned ∧ s.position ≠ .unstarted ∧ s.position ≠ .opening := by
        rcases henabled with hposition | hposition <;> rw [hposition] <;>
          exact ⟨nofun, nofun, nofun⟩
      exact h.toPosition (.stopping .stopping) hactive.1 hactive.2.1 rfl
        (h.not_connecting hactive.2.2) nothingStopped nofun nofun
  | stopThread => exact h.stopThread horderly
  | haltBlocks | stopThreadBlocks | executeBlocks => cases hreturns
  | shutdown =>
      exact ⟨h.starting, fun _ => .inr rfl, h.early, h.once, h.opening, h.main, h.own, h.emptied,
        h.returned, h.canceled, h.joined, h.unmanaged, h.spinning⟩
  | signal => exact h.signal
  | stopConnection request =>
      exact ⟨h.starting, h.unstarted, h.early, h.once, h.opening, h.main, h.own, h.emptied,
        h.returned, h.canceled, h.joined, h.unmanaged, h.spinning⟩

/-- A call that stops a connection does not return. -/
def Blocked (s : State κ) : Prop :=
  s.main = .blocked ∨ s.position = .blocked ∧ s.main ≠ .starting

/-- The main thread goes on only from where it can. -/
theorem main_blocked (h : s.main = .blocked) {label : Label κ} (henabled : enabled s label = true) :
    (next s label).main = .blocked := by
  cases label with
  | startThread | spin | spinReturns | halt | join | haltBlocks | signal =>
      simp [enabled, h] at henabled
  | opened connection started => cases connection <;> exact h
  | connect | execute | stopThread =>
      simp only [next, State.connect, State.execute, State.stopThread]
      split <;> exact h
  | callback | runReturns | stopThreadBlocks | executeBlocks | throws | shutdown
  | stopConnection => exact h

theorem position_blocked (h : s.position = .blocked) (hmain : s.main ≠ .starting)
    {label : Label κ} (henabled : enabled s label = true) :
    (next s label).position = .blocked ∧ (next s label).main ≠ .starting := by
  cases label with
  | startThread created => exact absurd (by simpa [enabled] using henabled) hmain
  | spin | signal =>
      simp only [next, State.spin, State.signal]
      split <;> first | exact ⟨h, hmain⟩ | exact ⟨h, nofun⟩
  | spinReturns | join =>
      simp only [next, State.spinReturns, State.join]
      split
      · refine ⟨h, fun hstarting => ?_⟩
        split at hstarting <;> cases hstarting
      · exact ⟨h, hmain⟩
  | halt =>
      simp only [next, State.halt]
      split <;> first | exact ⟨h, hmain⟩ | exact ⟨h, nofun⟩
  | connect | opened | execute | callback | runReturns | stopThread | stopThreadBlocks
  | executeBlocks | throws => simp [enabled, h] at henabled
  | haltBlocks connection => exact ⟨h, nofun⟩
  | shutdown | stopConnection => exact ⟨h, hmain⟩

/-- It never does. -/
theorem Blocked.next (h : Blocked s) {label : Label κ} (henabled : enabled s label = true) :
    Blocked (next s label) := by
  rcases h with hmain | ⟨hposition, hmain⟩
  · exact .inl (main_blocked hmain henabled)
  · exact .inr (position_blocked hposition hmain henabled)

theorem Inv.blocked (h : Inv s) {label : Label κ} (henabled : enabled s label = true)
    (hblocks : label.blocks = true) : Blocked (Client.next s label) := by
  have hlater : s.position ≠ .unstarted → s.main ≠ .starting := fun hposition hstarting =>
    hposition (h.starting hstarting)
  cases label with
  | haltBlocks connection => exact .inl rfl
  | stopThreadBlocks connection =>
      simp only [enabled, Bool.and_eq_true, beq_iff_eq] at henabled
      exact .inr ⟨rfl, hlater (by rw [henabled.1]; nofun)⟩
  | executeBlocks request =>
      simp only [enabled, Bool.and_eq_true, beq_iff_eq] at henabled
      exact .inr ⟨rfl, hlater (by rw [henabled.1.1.1]; nofun)⟩
  | startThread | spin | spinReturns | halt | join | connect | opened | execute | callback
  | runReturns | throws | stopThread | shutdown | signal | stopConnection => cases hblocks

end Steps

end Client

end Ros2Connect
