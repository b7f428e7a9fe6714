import Ros2Connect.Connection.ConnectionManager
import Ros2Connect.Connection.Server
import Ros2Connect.Lib.Simulation

/-!
`ConnectServer` and the part of `main` that runs it: the main thread starts the
server's thread, spins the executor and halts the server, while the server's
thread accepts and stops connections. The parts of `halt` and the steps of the
thread interleave. A call that stops a connection may join a thread of a manager
that has missed its notification, and then does not return. `late` logs the
connections that are managed after all of them have been stopped, and is read by
no step.
-/

namespace Ros2Connect

open Lib

namespace ConnectServer

/-- What the call of `stopThread` does next. -/
inductive StopStep where
  | stopping
  | iocStop
  | stopListening
  | stopAllConnections
  | cancel
  deriving Repr, DecidableEq

/-- Where the main thread is: `ConnectServer::spin`, `add_node`,
`executor.spin`, `halt` and its end. A SIGINT may halt the server `early`, before
the spin, and then has `reset` it. -/
inductive Main where
  | starting
  | adding (reset : Bool)
  | spinning (reset : Bool)
  | halting (early : Bool) (step : StopStep)
  | joining (early : Bool)
  | halted
  /-- In the `stopThread` of a connection, for ever. -/
  | blocked
  deriving Repr, DecidableEq

structure State (κ : Type) where
  main : Main
  /-- The server's thread, which may not have been created. -/
  server : Option Server.State
  /-- The server's thread is in the `stopThread` of a connection, for ever. -/
  blocked : Bool
  manager : ConnectionManager.State κ
  /-- `rclcpp::ok`. -/
  ok : Bool
  spinning : Bool
  late : List κ

/-- `thread` is a step of the server's thread that starts no connection and
throws nothing, or an accept that completes. A label that blocks is a call which
stops a connection and does not return. -/
inductive Label (κ : Type) where
  | startThread (listening created : Bool)
  | spin
  | spinReturns
  | halt
  | join
  | thread (label : Server.Label)
  | startConnection (connection : κ) (started : Bool)
  | execute (request : ConnectionManager.Request κ)
  | haltBlocks (connection : κ)
  | executeBlocks (request : ConnectionManager.Request κ)
  | throws
  /-- SIGTERM. -/
  | shutdown
  /-- SIGINT, which halts the server in the middle of what the main thread does. -/
  | signal
  | stopConnection (request : ConnectionManager.Request κ)
  deriving Repr, DecidableEq

/-- A step that waits for something outside of the server: a signal, a client,
a connection that ends, a handler that throws. -/
def Label.isExternal {κ : Type} : Label κ → Bool
  | .thread (.complete _) | .throws | .shutdown | .signal | .stopConnection _ => true
  | _ => false

/-- The steps of the server's thread that need nothing but the thread. -/
def isThreadStep : Server.Label → Bool
  | .checkStopping | .startListening _ | .asyncAccept | .complete _ | .enterHandler | .handle
  | .rearm | .returnRun | .stopListening | .restart => true
  | .otherHandler _ | .startConnection | .throwHandler | .stopThread | .stopIoc
  | .closeAcceptor => false

/-- An accept that completes needs no thread. -/
def isCompletion : Server.Label → Bool
  | .complete _ => true
  | _ => false

variable {κ : Type} [DecidableEq κ]

namespace State

def start : State κ where
  main := .starting
  server := none
  blocked := false
  manager := .start
  ok := true
  spinning := false
  late := []

/-- `rclcpp::shutdown` is called for a thread that could not be started. -/
def startThread (s : State κ) (listening created : Bool) : State κ :=
  if listening && created then { s with main := .adding false, server := some .start }
  else { s with main := .adding false, ok := false }

def spin (s : State κ) : State κ :=
  match s.main with
  | .adding reset => { s with main := .spinning reset, spinning := true }
  | _ => s

def spinReturns (s : State κ) : State κ :=
  match s.main with
  | .spinning reset =>
      { s with main := if reset then .halted else .halting false .stopping, spinning := false }
  | _ => s

/-- The handler of SIGINT halts a server that was started and not reset. -/
def signal (s : State κ) : State κ :=
  match s.main with
  | .adding false => { s with main := .halting true .stopping }
  | .spinning false => { s with main := .halting false .stopping }
  | _ => s

def onServer (s : State κ) (label : Server.Label) : State κ :=
  { s with server := s.server.map fun server => Server.next server label }

/-- The parts of `halt`, which joins the thread after them. -/
def halt (s : State κ) : State κ :=
  match s.main with
  | .halting early .stopping => { s.onServer .stopThread with main := .halting early .iocStop }
  | .halting early .iocStop => { s.onServer .stopIoc with main := .halting early .stopListening }
  | .halting early .stopListening =>
      { s.onServer .closeAcceptor with main := .halting early .stopAllConnections }
  | .halting early .stopAllConnections =>
      { s with manager := s.manager.stopAllConnections, main := .halting early .cancel }
  | .halting early .cancel => { s with spinning := false, main := .joining early }
  | _ => s

/-- The server that is joined is reset: there is none to halt after the spin. -/
def join (s : State κ) : State κ :=
  match s.main with
  | .joining early => { s with main := if early then .adding true else .halted }
  | _ => s

/-- All connections have been stopped. -/
def isEmptied (s : State κ) : Bool :=
  match s.main with
  | .halting _ .cancel | .joining _ | .halted => true
  | .adding reset | .spinning reset => reset
  | .starting | .halting _ _ | .blocked => false

/-- The handler of an accept hands its connection to the manager. -/
def startConnection (s : State κ) (connection : κ) (started : Bool) : State κ :=
  { s.onServer .startConnection with
    manager := s.manager.startConnection connection started
    late := if started && s.isEmptied then s.late ++ [connection] else s.late }

end State

/-- In `io_context::run`, which has not been stopped. -/
def isRunning (server : Server.State) : Bool :=
  server.position == .running && !server.iocStopped

/-- A handler runs while the `io_context` is not stopped. A null thread is joined
at once. No second SIGINT comes while the server halts. -/
def enabled (s : State κ) : Label κ → Bool
  | .startThread _ _ => s.main == .starting
  | .spin => match s.main with
      | .adding _ => true
      | _ => false
  | .spinReturns => match s.main with
      | .spinning _ => !s.spinning || !s.ok
      | _ => false
  | .halt => match s.main with
      | .halting _ _ => true
      | _ => false
  | .join => match s.main with
      | .joining _ => s.server.all fun server => server.position == .returned
      | _ => false
  | .thread label => isThreadStep label && (!s.blocked || isCompletion label) &&
      s.server.any fun server => Server.enabled server label
  | .startConnection connection _ => !s.blocked && decide (connection ∉ s.manager.started) &&
      s.server.any fun server => Server.enabled server .startConnection
  | .execute request => !s.blocked && ConnectionManager.enabled s.manager (.execute request) &&
      s.server.any isRunning
  | .haltBlocks connection => match s.main with
      | .halting _ .stopAllConnections => decide (connection ∈ s.manager.connections)
      | _ => false
  | .executeBlocks request => !s.blocked &&
      ConnectionManager.enabled s.manager (.execute request) &&
      decide (request.connection ∈ s.manager.connections) && s.server.any isRunning
  | .throws => !s.blocked &&
      s.server.any fun server => isRunning server || server.position.isHandler
  | .shutdown => true
  | .signal => match s.main with
      | .starting | .adding _ | .spinning _ => true
      | .halting _ _ | .joining _ | .halted | .blocked => false
  | .stopConnection request => decide (request.connection ∈ s.manager.started)

def next (s : State κ) : Label κ → State κ
  | .startThread listening created => s.startThread listening created
  | .spin => s.spin
  | .spinReturns => s.spinReturns
  | .halt => s.halt
  | .join => s.join
  | .thread label => s.onServer label
  | .startConnection connection started => s.startConnection connection started
  | .execute request => { s with manager := ConnectionManager.next s.manager (.execute request) }
  | .haltBlocks connection =>
      { s with manager := s.manager.stopAllUpTo connection, main := .blocked }
  | .executeBlocks request =>
      let manager := { s.manager with requests := s.manager.requests.erase request }
      { s with manager := manager.stopping request.connection, blocked := true }
  | .throws => s.onServer .throwHandler
  | .shutdown => { s with ok := false }
  | .signal => s.signal
  | .stopConnection request =>
      { s with manager := { s.manager with requests := s.manager.requests ++ [request] } }

def node (κ : Type) [DecidableEq κ] : Machine (State κ) (Label κ) where
  start := .start
  enabled := enabled
  next := next

/-- A call that stops a connection does not return. -/
def Blocked (s : State κ) : Prop := s.main = .blocked ∨ s.blocked = true

/-- `stopping` has been set. -/
def Main.isStopping : Main → Bool
  | .halting _ .stopping => false
  | .halting _ _ | .joining _ | .halted | .blocked => true
  | .adding reset | .spinning reset => reset
  | .starting => false

/-- The `io_context` has been stopped. -/
def Main.isIocStopped : Main → Bool
  | .halting _ .stopping | .halting _ .iocStop => false
  | .halting _ _ | .joining _ | .halted | .blocked => true
  | .adding reset | .spinning reset => reset
  | .starting => false

/-- The acceptor has been closed. -/
def Main.isClosed : Main → Bool
  | .halting _ .stopAllConnections | .halting _ .cancel | .joining _ | .halted | .blocked => true
  | .adding reset | .spinning reset => reset
  | .starting | .halting _ _ => false

/-- `halt` has joined the server's thread. -/
def Main.isJoined : Main → Bool
  | .halted => true
  | .adding reset | .spinning reset => reset
  | .starting | .halting _ _ | .joining _ | .blocked => false

/-- The handler of an accept goes on to start its connection. -/
def isPastCheck (server : Server.State) : Bool :=
  match server.position with
  | .startConnection _ => true
  | _ => false

theorem Main.isStopping_of_isIocStopped {main : Main} (h : main.isIocStopped = true) :
    main.isStopping = true := by
  cases main with
  | halting early step => cases step <;> first | rfl | cases h
  | starting => cases h
  | adding | spinning => exact h
  | joining | halted | blocked => rfl

theorem Main.isIocStopped_of_isClosed {main : Main} (h : main.isClosed = true) :
    main.isIocStopped = true := by
  cases main with
  | halting early step => cases step <;> first | rfl | cases h
  | starting => cases h
  | adding | spinning => exact h
  | joining | halted | blocked => rfl

/-- What the server's thread has seen of a halt. -/
structure Follows (main : Main) (server : Server.State) : Prop where
  stopping : main.isStopping = server.stopping
  /-- A stop of the `io_context` that a restart undoes comes after `stopping`. -/
  ioc : main.isIocStopped = true →
    server.iocStopped = true ∨ server.position = .loop ∨ server.position = .returned
  closed : main.isClosed = true → ∀ completion,
    server.position = .handling completion → server.isOpen = false
  accepting : server.outstanding ≠ [] → server.isOpen = true
  returned : server.position = .returned → server.stopping = true

namespace Follows

variable {main : Main} {server : Server.State}

/-- A thread whose `io_context` was stopped executes no further handler. -/
theorem not_isRunning (h : Follows main server) (hmain : main.isIocStopped = true) :
    isRunning server = false := by
  rcases h.ioc hmain with hstopped | hloop | hreturned
  · simp [isRunning, hstopped]
  · simp [isRunning, hloop]
  · simp [isRunning, hreturned]

/-- The thread goes to another place, which is not its end. -/
theorem move (h : Follows main server) (position : Server.Position)
    (hposition : server.position ≠ .loop) (hactive : server.position ≠ .returned)
    (hhandling : ∀ completion, position = .handling completion → isRunning server = true)
    (hreturned : position ≠ .returned) :
    Follows main { server with position := position } where
  stopping := h.stopping
  ioc := fun hmain => Or.inl (((h.ioc hmain).resolve_right fun hor => hor.elim hposition hactive))
  closed := by
    intro hmain completion hcompletion
    have hidle := h.not_isRunning (Main.isIocStopped_of_isClosed hmain)
    rw [hhandling completion hcompletion] at hidle
    cases hidle
  accepting := h.accepting
  returned := fun hposition => absurd hposition hreturned

theorem asyncAccept (h : Follows main server) : Follows main server.asyncAccept := by
  unfold Server.State.asyncAccept
  split
  next hopen => exact ⟨h.stopping, h.ioc, h.closed, fun _ => hopen, h.returned⟩
  next => exact ⟨h.stopping, h.ioc, h.closed, h.accepting, h.returned⟩

theorem stopListening (h : Follows main server) : Follows main server.stopListening :=
  ⟨h.stopping, h.ioc, fun _ _ _ => rfl, fun houtstanding => absurd rfl houtstanding, h.returned⟩

theorem complete (h : Follows main server) (result : Server.Result) :
    Follows main (server.complete result) := by
  unfold Server.State.complete
  cases houtstanding : server.outstanding with
  | nil => exact h
  | cons ioc rest =>
      exact ⟨h.stopping, h.ioc, h.closed, fun _ => h.accepting (by simp [houtstanding]),
        h.returned⟩

/-- The thread ends when it finds `stopping` set. -/
theorem finish (h : Follows main server) (hstopping : server.stopping = true) :
    Follows main { server with position := .returned } where
  stopping := h.stopping
  ioc := fun _ => Or.inr (Or.inr rfl)
  closed := fun _ completion hcompletion => by cases hcompletion
  accepting := h.accepting
  returned := fun _ => hstopping

/-- Before `stopping` is set the thread may go anywhere but to its end. -/
theorem goOn (h : Follows main server) (hstopping : server.stopping = false)
    (position : Server.Position) (hreturned : position ≠ .returned) :
    Follows main { server with position := position } where
  stopping := h.stopping
  ioc := fun hioc => by
    have hmain := Main.isStopping_of_isIocStopped hioc
    rw [h.stopping, hstopping] at hmain
    cases hmain
  closed := fun hclosed => by
    have hmain := Main.isStopping_of_isIocStopped (Main.isIocStopped_of_isClosed hclosed)
    rw [h.stopping, hstopping] at hmain
    cases hmain
  accepting := h.accepting
  returned := fun hposition => absurd hposition hreturned

theorem checkStopping (h : Follows main server) : Follows main server.checkStopping := by
  unfold Server.State.checkStopping
  by_cases hstopping : server.stopping = true
  · rw [if_pos hstopping]
    exact h.finish hstopping
  · rw [if_neg hstopping]
    have hrunning := eq_false_of_ne_true hstopping
    split
    · exact h.goOn hrunning _ (by split <;> nofun)
    · exact h.goOn hrunning _ nofun
    · exact h.goOn hrunning _ nofun

theorem startListening (h : Follows main server) (hposition : server.position = .startListening)
    (ok : Bool) : Follows main (server.startListening ok) := by
  have hmoved (position : Server.Position) (hhandling : ∀ completion,
      position ≠ .handling completion) (hreturned : position ≠ .returned) :
      Follows main { server with position := position } :=
    h.move position (by simp [hposition]) (by simp [hposition])
      (fun completion hcompletion => absurd hcompletion (hhandling completion)) hreturned
  unfold Server.State.startListening
  split
  · have hlistening := hmoved .listening nofun nofun
    exact ⟨hlistening.stopping, hlistening.ioc, nofun, fun _ => rfl, nofun⟩
  · have hloop := hmoved .listenLoop nofun nofun
    exact ⟨hloop.stopping, hloop.ioc, nofun, fun houtstanding => absurd rfl houtstanding, nofun⟩

theorem handle (h : Follows main server) : Follows main server.handle := by
  unfold Server.State.handle
  split
  next completion hposition =>
    have hmoved (position : Server.Position) (hhandling : ∀ completion,
        position ≠ .handling completion) (hreturned : position ≠ .returned) :
        Follows main { server with position := position } :=
      h.move position (by simp [hposition]) (by simp [hposition])
        (fun completion hcompletion => absurd hcompletion (hhandling completion)) hreturned
    split
    · split
      · exact hmoved _ nofun nofun
      · exact hmoved _ nofun nofun
      · exact hmoved _ nofun nofun
    · exact hmoved _ nofun nofun
  next => exact h

/-- A step of the server's thread. -/
theorem thread (h : Follows main server) {label : Server.Label}
    (hthread : isThreadStep label = true) (henabled : Server.enabled server label = true) :
    Follows main (Server.next server label) := by
  cases label with
  | otherHandler | startConnection | throwHandler | stopThread | stopIoc | closeAcceptor =>
      cases hthread
  | checkStopping => exact h.checkStopping
  | startListening ok =>
      exact h.startListening (by simpa [Server.enabled] using henabled) ok
  | asyncAccept =>
      have hposition : server.position = .asyncAccept := by simpa [Server.enabled] using henabled
      have hsame : server.asyncAccept.position = .asyncAccept := by
        unfold Server.State.asyncAccept
        split <;> exact hposition
      exact h.asyncAccept.move .running (by simp [hsame]) (by simp [hsame]) (by simp) (by simp)
  | complete result => exact h.complete result
  | enterHandler =>
      simp only [Server.enabled, Bool.and_eq_true, beq_iff_eq, Bool.not_eq_true',
        bne_iff_ne] at henabled
      obtain ⟨⟨hposition, hstopped⟩, hqueue⟩ := henabled
      obtain ⟨completion, rest, hcons⟩ := List.exists_cons_of_ne_nil hqueue
      have hrunning : isRunning server = true := by simp [isRunning, hposition, hstopped]
      have hmoved := h.move (.handling completion) (by simp [hposition]) (by simp [hposition])
        (fun _ _ => hrunning) (by simp)
      simp only [Server.next, Server.State.enterHandler, hcons]
      exact ⟨hmoved.stopping, hmoved.ioc, hmoved.closed, hmoved.accepting, hmoved.returned⟩
  | handle => exact h.handle
  | rearm =>
      have hposition : server.position = .rearm := by simpa [Server.enabled] using henabled
      have hsame : server.asyncAccept.position = .rearm := by
        unfold Server.State.asyncAccept
        split <;> exact hposition
      exact h.asyncAccept.move .running (by simp [hsame]) (by simp [hsame]) (by simp) (by simp)
  | returnRun =>
      simp only [Server.next]
      by_cases hstopping : server.stopping = true
      · rw [if_pos hstopping]
        exact h.finish hstopping
      · rw [if_neg hstopping]
        exact h.goOn (eq_false_of_ne_true hstopping) .lost (by simp)
  | stopListening =>
      have hposition : server.position = .lost := by simpa [Server.enabled] using henabled
      have hsame : server.stopListening.position = .lost := hposition
      exact h.stopListening.move .restart (by simp [hsame]) (by simp [hsame]) (by simp) (by simp)
  | restart =>
      refine ⟨h.stopping, fun _ => Or.inr (Or.inl rfl), ?_, h.accepting, ?_⟩
      · intro _ _ hloop
        cases hloop
      · intro hloop
        cases hloop

/-- The handler is done with its connection. -/
theorem startConnection (h : Follows main server)
    (henabled : Server.enabled server .startConnection = true) :
    Follows main (Server.next server .startConnection) := by
  cases hposition : server.position with
  | startConnection socket =>
      have hmoved := h.move .rearm (by simp [hposition]) (by simp [hposition]) nofun nofun
      simp only [Server.next, Server.State.startConnection, hposition]
      exact ⟨hmoved.stopping, hmoved.ioc, hmoved.closed, hmoved.accepting, hmoved.returned⟩
  | loop | listenLoop | startListening | listening | asyncAccept | running | handling | rearm
  | lost | restart | returned => simp [Server.enabled, hposition] at henabled

/-- A handler throws. -/
theorem throws (h : Follows main server)
    (hhandler : isRunning server = true ∨ server.position.isHandler = true) :
    Follows main (Server.next server .throwHandler) := by
  have hposition : server.position ≠ .loop ∧ server.position ≠ .returned := by
    constructor <;> intro hposition <;>
      simp [isRunning, hposition, Server.Position.isHandler] at hhandler
  exact h.move .lost hposition.1 hposition.2 nofun nofun

theorem start : Follows (.adding false) .start :=
  ⟨rfl, nofun, nofun, fun houtstanding => absurd rfl houtstanding, nofun⟩

/-- A step of the main thread that stops nothing of the server. -/
theorem toMain (h : Follows main server) {other : Main}
    (hstopping : other.isStopping = main.isStopping)
    (hioc : other.isIocStopped = main.isIocStopped) (hclosed : other.isClosed = main.isClosed) :
    Follows other server where
  stopping := hstopping.trans h.stopping
  ioc := fun hstopped => h.ioc (hioc ▸ hstopped)
  closed := fun hstopped => h.closed (hclosed ▸ hstopped)
  accepting := h.accepting
  returned := h.returned

theorem stopThread {early : Bool} (h : Follows (.halting early .stopping) server) :
    Follows (.halting early .iocStop) (Server.next server .stopThread) where
  stopping := rfl
  ioc := fun hioc => by cases hioc
  closed := fun hclosed => by cases hclosed
  accepting := h.accepting
  returned := fun _ => rfl

theorem stopIoc {early : Bool} (h : Follows (.halting early .iocStop) server) :
    Follows (.halting early .stopListening) (Server.next server .stopIoc) where
  stopping := h.stopping
  ioc := fun _ => Or.inl rfl
  closed := fun hclosed => by cases hclosed
  accepting := h.accepting
  returned := h.returned

theorem closeAcceptor {early : Bool} (h : Follows (.halting early .stopListening) server) :
    Follows (.halting early .stopAllConnections) (Server.next server .closeAcceptor) where
  stopping := h.stopping
  ioc := h.ioc
  closed := fun _ _ _ => rfl
  accepting := fun houtstanding => absurd rfl houtstanding
  returned := h.returned

end Follows

/-- Whether a connection is about to be started. -/
def owed (server : Option Server.State) : Nat := if server.any isPastCheck then 1 else 0

theorem owed_le_one (server : Option Server.State) : owed server ≤ 1 := by
  unfold owed
  split <;> omega

/-- A thread that has returned stays so. -/
theorem returned_thread {server : Server.State} {label : Server.Label}
    (hposition : server.position = .returned) (hthread : isThreadStep label = true)
    (henabled : Server.enabled server label = true) :
    (Server.next server label).position = .returned := by
  cases label with
  | complete result =>
      simp only [Server.next, Server.State.complete]
      split <;> exact hposition
  | checkStopping | startListening | asyncAccept | enterHandler | handle | rearm | returnRun
  | stopListening | restart => simp [Server.enabled, hposition] at henabled
  | otherHandler | startConnection | throwHandler | stopThread | stopIoc | closeAcceptor =>
      cases hthread

/-- No handler gets past its check of a closed acceptor. -/
theorem owed_thread {main : Main} {server : Server.State} {label : Server.Label}
    (h : Follows main server) (hclosed : main.isClosed = true) (hthread : isThreadStep label = true)
    (henabled : Server.enabled server label = true) :
    owed (some (Server.next server label)) ≤ owed (some server) := by
  have hnone {t : Server.State} (ht : isPastCheck t = false) :
      owed (some t) ≤ owed (some server) := by simp [owed, ht]
  have hasync : isPastCheck { server.asyncAccept with position := .running } = false := rfl
  cases label with
  | otherHandler | startConnection | throwHandler | stopThread | stopIoc | closeAcceptor =>
      cases hthread
  | checkStopping =>
      apply hnone
      simp only [Server.next, Server.State.checkStopping]
      split
      · rfl
      · split
        · simp only [isPastCheck]
          split <;> split at * <;> simp_all
        · rfl
        · rfl
  | startListening ok =>
      apply hnone
      simp only [Server.next, Server.State.startListening]
      split <;> rfl
  | asyncAccept | rearm => exact hnone hasync
  | complete result =>
      simp only [Server.next, Server.State.complete]
      split <;> exact Nat.le_refl _
  | enterHandler =>
      apply hnone
      simp only [Server.next, Server.State.enterHandler]
      simp only [Server.enabled, Bool.and_eq_true, beq_iff_eq] at henabled
      split <;> simp [isPastCheck, henabled.1.1]
  | handle =>
      cases hposition : server.position with
      | handling completion =>
          have hopen := h.closed hclosed completion hposition
          simp [Server.next, Server.State.handle, hposition, hopen, owed, isPastCheck]
      | loop | listenLoop | startListening | listening | asyncAccept | running | startConnection
      | rearm | lost | restart | returned => simp [Server.enabled, hposition] at henabled
  | returnRun =>
      apply hnone
      simp only [Server.next]
      split <;> rfl
  | stopListening | restart => exact hnone rfl

/-- What the steps of a server keep. -/
structure Inv (s : State κ) : Prop where
  starting : s.main = .starting → s.server = none
  uncreated : s.server = none → s.main = .starting ∨ s.ok = false
  follows : ∀ server, s.server = some server → Follows s.main server
  early : s.isEmptied = false → s.late = []
  late : s.isEmptied = true → s.manager.connections = s.late
  one : s.isEmptied = true → s.late.length + owed s.server ≤ 1
  joined : s.main.isJoined = true → ∀ server, s.server = some server →
    server.position = .returned

omit [DecidableEq κ] in
theorem Inv.start : Inv (State.start : State κ) where
  starting := fun _ => rfl
  uncreated := fun _ => Or.inl rfl
  follows := nofun
  early := fun _ => rfl
  late := nofun
  one := nofun
  joined := nofun

section Steps

variable {s : State κ}

omit [DecidableEq κ] in
theorem isClosed_of_isEmptied (h : s.isEmptied = true) : s.main.isClosed = true := by
  unfold State.isEmptied at h
  split at h <;> simp_all [Main.isClosed]

omit [DecidableEq κ] in
/-- A step of the main thread that stops nothing. -/
theorem Inv.toMain (h : Inv s) (main : Main) (hmain : main ≠ .starting)
    (hcreated : s.server = none → s.ok = false)
    (hstopping : main.isStopping = s.main.isStopping)
    (hioc : main.isIocStopped = s.main.isIocStopped)
    (hclosed : main.isClosed = s.main.isClosed)
    (hemptied : ({ s with main := main } : State κ).isEmptied = s.isEmptied)
    (hjoined : main.isJoined = true → ∀ server, s.server = some server →
      server.position = .returned) : Inv { s with main := main } where
  starting := fun hstarting => absurd hstarting hmain
  uncreated := fun hnone => Or.inr (hcreated hnone)
  follows := fun server hserver => (h.follows server hserver).toMain hstopping hioc hclosed
  early := fun hnot => h.early (hemptied ▸ hnot)
  late := fun hall => h.late (hemptied ▸ hall)
  one := fun hall => h.one (hemptied ▸ hall)
  joined := hjoined

omit [DecidableEq κ] in
/-- A step of the server's thread that leaves the connections alone. -/
theorem Inv.onServer (h : Inv s) (label : Server.Label)
    (hfollows : ∀ server, s.server = some server →
      Follows s.main (Server.next server label))
    (howed : s.isEmptied = true → ∀ server, s.server = some server →
      owed (some (Server.next server label)) ≤ owed (some server))
    (hjoined : s.main.isJoined = true → ∀ server, s.server = some server →
      (Server.next server label).position = .returned) : Inv (s.onServer label) := by
  cases hserver : s.server with
  | none =>
      have hsame : s.onServer label = s := by
        simp only [State.onServer, hserver, Option.map_none]
        rw [← hserver]
      rw [hsame]
      exact h
  | some server =>
      have hnext : (s.onServer label).server = some (Server.next server label) := by
        simp [State.onServer, hserver]
      constructor
      · intro hstarting
        rw [h.starting hstarting] at hserver
        cases hserver
      · intro hnone
        rw [hnext] at hnone
        cases hnone
      · intro other hother
        rw [hnext] at hother
        cases hother
        exact hfollows server hserver
      · exact h.early
      · exact h.late
      · intro hall
        have hone := h.one hall
        have hless := howed hall server hserver
        rw [hserver] at hone
        rw [hnext]
        exact (Nat.add_le_add_left hless _).trans hone
      · intro hmain other hother
        rw [hnext] at hother
        cases hother
        exact hjoined hmain server hserver

omit [DecidableEq κ] in
theorem Inv.thread (h : Inv s) {label : Server.Label} (hthread : isThreadStep label = true)
    (henabled : s.server.any (fun server => Server.enabled server label) = true) :
    Inv (s.onServer label) := by
  have hstep : ∀ server, s.server = some server → Server.enabled server label = true := by
    intro server hserver
    simpa [hserver] using henabled
  exact h.onServer label
    (fun server hserver => (h.follows server hserver).thread hthread (hstep server hserver))
    (fun hall server hserver => owed_thread (h.follows server hserver)
      (isClosed_of_isEmptied hall) hthread (hstep server hserver))
    (fun hmain server hserver => returned_thread (h.joined hmain server hserver) hthread
      (hstep server hserver))

omit [DecidableEq κ] in
theorem Inv.throws (h : Inv s)
    (henabled : s.server.any (fun server => isRunning server || server.position.isHandler) =
      true) : Inv (s.onServer .throwHandler) := by
  have hstep : ∀ server, s.server = some server →
      isRunning server = true ∨ server.position.isHandler = true := by
    intro server hserver
    simpa [hserver] using henabled
  refine h.onServer .throwHandler
    (fun server hserver => (h.follows server hserver).throws (hstep server hserver))
    (fun _ server _ => ?_) (fun hmain server hserver => ?_)
  · simp [owed, isPastCheck, Server.next]
  · have hposition := h.joined hmain server hserver
    have hhandler := hstep server hserver
    simp [isRunning, hposition, Server.Position.isHandler] at hhandler

/-- A connection that is started late is the one the handler was past its check
for. -/
theorem Inv.startConnection (h : Inv s) (connection : κ) (started : Bool)
    (henabled : s.server.any (fun server => Server.enabled server .startConnection) = true) :
    Inv (s.startConnection connection started) := by
  obtain ⟨server, hserver, hstep⟩ := (Option.any_eq_true _ _).mp henabled
  have hpast : owed s.server = 1 := by
    have hposition : isPastCheck server = true := by
      cases hposition : server.position <;> simp [Server.enabled, hposition] at hstep
      simp [isPastCheck, hposition]
    simp [owed, hserver, hposition]
  have hdone : (Server.next server .startConnection).position = .rearm := by
    cases hposition : server.position <;> simp [Server.enabled, hposition] at hstep
    simp [Server.next, Server.State.startConnection, hposition]
  have hbase : Inv (s.onServer .startConnection) := by
    refine h.onServer .startConnection ?_ ?_ ?_
    · intro other hother
      rw [hserver] at hother
      cases hother
      exact (h.follows server hserver).startConnection hstep
    · intro _ other hother
      rw [hserver] at hother
      cases hother
      simp [owed, isPastCheck, hdone]
    · intro hmain other hother
      have hposition := h.joined hmain server hserver
      simp [Server.enabled, hposition] at hstep
  refine ⟨hbase.starting, hbase.uncreated, hbase.follows, ?_, ?_, ?_, hbase.joined⟩
  · intro hnot
    have hbefore : s.isEmptied = false := hnot
    simp [State.startConnection, hbefore, h.early hbefore]
  · intro hall
    have hbefore : s.isEmptied = true := hall
    cases started <;>
      simp [State.startConnection, hbefore, ConnectionManager.State.startConnection,
        ConnectionManager.State.record, h.late hbefore]
  · intro hall
    have hbefore : s.isEmptied = true := hall
    have hone := h.one hbefore
    have hnone : owed (s.startConnection connection started).server = 0 := by
      simp [State.startConnection, State.onServer, hserver, owed, isPastCheck, hdone]
    rw [hpast] at hone
    rw [hnone]
    have hnothing : s.late = [] := List.eq_nil_of_length_eq_zero (by omega)
    cases started <;> simp [State.startConnection, hbefore, hnothing]

/-- The parts of `halt`. -/
theorem Inv.halt (h : Inv s) : Inv s.halt := by
  have hcreated : ∀ {early step}, s.main = .halting early step → s.server = none →
      s.ok = false :=
    fun hmain hnone => (h.uncreated hnone).resolve_left (by rw [hmain]; nofun)
  have hkept : ∀ label : Server.Label, (s.onServer label).server = none → s.server = none := by
    intro label hnone
    simpa [State.onServer] using hnone
  unfold State.halt
  split
  next early hmain =>
    have hearly : s.isEmptied = false := by simp [State.isEmptied, hmain]
    refine ⟨nofun, fun hnone => Or.inr (hcreated hmain (hkept _ hnone)), ?_,
      fun _ => h.early hearly, nofun, nofun, nofun⟩
    intro server hserver
    obtain ⟨before, hbefore, rfl⟩ := Option.map_eq_some_iff.mp hserver
    exact (hmain ▸ h.follows before hbefore).stopThread
  next early hmain =>
    have hearly : s.isEmptied = false := by simp [State.isEmptied, hmain]
    refine ⟨nofun, fun hnone => Or.inr (hcreated hmain (hkept _ hnone)), ?_,
      fun _ => h.early hearly, nofun, nofun, nofun⟩
    intro server hserver
    obtain ⟨before, hbefore, rfl⟩ := Option.map_eq_some_iff.mp hserver
    exact (hmain ▸ h.follows before hbefore).stopIoc
  next early hmain =>
    have hearly : s.isEmptied = false := by simp [State.isEmptied, hmain]
    refine ⟨nofun, fun hnone => Or.inr (hcreated hmain (hkept _ hnone)), ?_,
      fun _ => h.early hearly, nofun, nofun, nofun⟩
    intro server hserver
    obtain ⟨before, hbefore, rfl⟩ := Option.map_eq_some_iff.mp hserver
    exact (hmain ▸ h.follows before hbefore).closeAcceptor
  next early hmain =>
    have hearly : s.isEmptied = false := by simp [State.isEmptied, hmain]
    refine ⟨nofun, fun hnone => Or.inr (hcreated hmain hnone), ?_, nofun, fun _ => ?_,
      fun _ => ?_, nofun⟩
    · intro server hserver
      have hfollows := h.follows server hserver
      rw [hmain] at hfollows
      exact hfollows.toMain rfl rfl rfl
    · rw [h.early hearly]
      exact ConnectionManager.stopAllConnections_connections s.manager
    · rw [h.early hearly]
      simpa using owed_le_one s.server
  next early hmain =>
    have hmoved := h.toMain (.joining early) nofun (hcreated hmain) (by rw [hmain]; rfl)
      (by rw [hmain]; rfl) (by rw [hmain]; rfl) (by simp [State.isEmptied, hmain]) nofun
    exact ⟨hmoved.starting, hmoved.uncreated, hmoved.follows, hmoved.early, hmoved.late,
      hmoved.one, hmoved.joined⟩
  next => exact h

omit [DecidableEq κ] in
theorem Inv.startThread (h : Inv s) (hmain : s.main = .starting) (listening created : Bool) :
    Inv (s.startThread listening created) := by
  have hearly : s.isEmptied = false := by simp [State.isEmptied, hmain]
  unfold State.startThread
  split
  · refine ⟨nofun, nofun, ?_, fun _ => h.early hearly, nofun, nofun, nofun⟩
    rintro server ⟨⟩
    exact .start
  · refine ⟨nofun, fun _ => Or.inr rfl, ?_, fun _ => h.early hearly, nofun, nofun, nofun⟩
    intro server hserver
    rw [h.starting hmain] at hserver
    cases hserver

omit [DecidableEq κ] in
theorem Inv.spin (h : Inv s) : Inv s.spin := by
  unfold State.spin
  split
  next reset hmain =>
    have hmoved := h.toMain (.spinning reset) nofun
      (fun hnone => (h.uncreated hnone).resolve_left (by rw [hmain]; nofun)) (by rw [hmain]; rfl)
      (by rw [hmain]; rfl) (by rw [hmain]; rfl) (by simp [State.isEmptied, hmain])
      fun hreset => h.joined (by rw [hmain]; exact hreset)
    exact ⟨hmoved.starting, hmoved.uncreated, hmoved.follows, hmoved.early, hmoved.late,
      hmoved.one, hmoved.joined⟩
  next => exact h

omit [DecidableEq κ] in
/-- There is nothing to halt behind the spin of a server that was reset. -/
theorem Inv.spinReturns (h : Inv s) : Inv s.spinReturns := by
  unfold State.spinReturns
  split
  next reset hmain =>
    have hcreated : s.server = none → s.ok = false :=
      fun hnone => (h.uncreated hnone).resolve_left (by rw [hmain]; nofun)
    have hmoved : Inv { s with main := if reset then .halted else .halting false .stopping } := by
      cases reset with
      | true =>
          exact h.toMain .halted nofun hcreated (by rw [hmain]; rfl) (by rw [hmain]; rfl)
            (by rw [hmain]; rfl) (by simp [State.isEmptied, hmain])
            fun _ => h.joined (by rw [hmain]; rfl)
      | false =>
          exact h.toMain (.halting false .stopping) nofun hcreated (by rw [hmain]; rfl)
            (by rw [hmain]; rfl) (by rw [hmain]; rfl) (by simp [State.isEmptied, hmain]) nofun
    exact ⟨hmoved.starting, hmoved.uncreated, hmoved.follows, hmoved.early, hmoved.late,
      hmoved.one, hmoved.joined⟩
  next => exact h

omit [DecidableEq κ] in
theorem Inv.join (h : Inv s) (hreturned : ∀ server, s.server = some server →
    server.position = .returned) : Inv s.join := by
  unfold State.join
  split
  next early hmain =>
    have hcreated : s.server = none → s.ok = false :=
      fun hnone => (h.uncreated hnone).resolve_left (by rw [hmain]; nofun)
    cases early with
    | true =>
        exact h.toMain (.adding true) nofun hcreated (by rw [hmain]; rfl) (by rw [hmain]; rfl)
          (by rw [hmain]; rfl) (by simp [State.isEmptied, hmain]) fun _ => hreturned
    | false =>
        exact h.toMain .halted nofun hcreated (by rw [hmain]; rfl) (by rw [hmain]; rfl)
          (by rw [hmain]; rfl) (by simp [State.isEmptied, hmain]) fun _ => hreturned
  next => exact h

omit [DecidableEq κ] in
theorem Inv.signal (h : Inv s) : Inv s.signal := by
  have hcreated : s.main ≠ .starting → s.server = none → s.ok = false :=
    fun hmain hnone => (h.uncreated hnone).resolve_left hmain
  unfold State.signal
  split
  next hmain =>
    exact h.toMain (.halting true .stopping) nofun (hcreated (by rw [hmain]; nofun))
      (by rw [hmain]; rfl) (by rw [hmain]; rfl) (by rw [hmain]; rfl)
      (by simp [State.isEmptied, hmain]) nofun
  next hmain =>
    exact h.toMain (.halting false .stopping) nofun (hcreated (by rw [hmain]; nofun))
      (by rw [hmain]; rfl) (by rw [hmain]; rfl) (by rw [hmain]; rfl)
      (by simp [State.isEmptied, hmain]) nofun
  next => exact h

omit [DecidableEq κ] in
/-- A handler that is executed finds the connections not yet emptied. -/
theorem Inv.isEmptied_of_isRunning (h : Inv s) (henabled : s.server.any isRunning = true) :
    s.isEmptied = false := by
  obtain ⟨server, hserver, hrunning⟩ := (Option.any_eq_true _ _).mp henabled
  refine Bool.eq_false_iff.mpr fun hall => ?_
  rw [(h.follows server hserver).not_isRunning
    (Main.isIocStopped_of_isClosed (isClosed_of_isEmptied hall))] at hrunning
  cases hrunning

omit [DecidableEq κ] in
/-- A handler that stops a connection, and may not return. -/
theorem Inv.execute (h : Inv s) (hearly : s.isEmptied = false) (blocked : Bool)
    (manager : ConnectionManager.State κ) :
    Inv { s with blocked := blocked, manager := manager } :=
  ⟨h.starting, h.uncreated, h.follows, fun _ => h.early hearly,
    fun hall => absurd (hearly.symm.trans hall) nofun,
    fun hall => absurd (hearly.symm.trans hall) nofun, h.joined⟩

/-- What one step keeps. -/
theorem Inv.next (h : Inv s) {label : Label κ} (henabled : enabled s label = true) :
    Inv (next s label) := by
  cases label with
  | startThread listening created =>
      exact h.startThread (by simpa [enabled] using henabled) listening created
  | spin => exact h.spin
  | spinReturns => exact h.spinReturns
  | halt => exact h.halt
  | join =>
      refine h.join fun server hserver => ?_
      simp only [enabled, hserver, Option.all_some] at henabled
      split at henabled
      · exact eq_of_beq henabled
      · cases henabled
  | thread label =>
      simp only [enabled, Bool.and_eq_true] at henabled
      exact h.thread henabled.1.1 henabled.2
  | startConnection connection started =>
      simp only [enabled, Bool.and_eq_true] at henabled
      exact h.startConnection connection started henabled.2
  | execute request =>
      simp only [enabled, Bool.and_eq_true] at henabled
      exact h.execute (h.isEmptied_of_isRunning henabled.2) s.blocked _
  | haltBlocks connection =>
      simp only [enabled] at henabled
      split at henabled
      next early hmain =>
        have hearly : s.isEmptied = false := by simp [State.isEmptied, hmain]
        have hmoved := h.toMain .blocked nofun
          (fun hnone => (h.uncreated hnone).resolve_left (by rw [hmain]; nofun))
          (by rw [hmain]; rfl) (by rw [hmain]; rfl) (by rw [hmain]; rfl)
          (by simp [State.isEmptied, hmain]) nofun
        exact hmoved.execute rfl s.blocked (s.manager.stopAllUpTo connection)
      next => cases henabled
  | executeBlocks request =>
      simp only [enabled, Bool.and_eq_true] at henabled
      exact h.execute (h.isEmptied_of_isRunning henabled.2) true _
  | throws =>
      simp only [enabled, Bool.and_eq_true] at henabled
      exact h.throws henabled.2
  | shutdown =>
      exact ⟨h.starting, fun _ => Or.inr rfl, h.follows, h.early, h.late, h.one, h.joined⟩
  | signal => exact h.signal
  | stopConnection request =>
      exact ⟨h.starting, h.uncreated, h.follows, h.early, h.late, h.one, h.joined⟩

theorem inv_of_reachable (h : (node κ).Reachable s) : Inv s :=
  h.invariant Inv .start fun _ _ hinv henabled _ => hinv.next henabled

/-- A call that does not return never does. -/
theorem Blocked.next (h : Blocked s) {label : Label κ} (henabled : enabled s label = true) :
    Blocked (next s label) := by
  rcases h with hmain | hblocked
  · left
    cases label with
    | startThread | spin | spinReturns | halt | join | haltBlocks | signal =>
        simp [enabled, hmain] at henabled
    | thread | startConnection | execute | executeBlocks | throws | shutdown
    | stopConnection => exact hmain
  · right
    cases label with
    | startThread listening created => cases listening <;> cases created <;> exact hblocked
    | spin | spinReturns | halt | join | signal =>
        simp only [ConnectServer.next, State.spin, State.spinReturns, State.halt, State.join,
          State.signal]
        split <;> exact hblocked
    | executeBlocks request => rfl
    | thread | startConnection | execute | haltBlocks | throws | shutdown
    | stopConnection => exact hblocked

end Steps

end ConnectServer

end Ros2Connect
