import Ros2Connect.Lib.Transition
import Ros2Connect.Connection.ConnectionBase

/-!
The sending queue of a connection with its `async_write`s. A step is a call of
`send`, a handler of the strand, or the socket opening or closing. `queued`,
`written` and `discarded` log the calls of `queueMessage`, those of
`async_write` and what a closed socket drops; no step reads them.
-/

namespace Ros2Connect

open Lib

namespace SendingQueue

variable {α : Type}

structure State (α : Type) where
  posted : List α
  sendingQueue : List α
  /-- The messages of the `async_write`s that have not completed. -/
  inFlight : List α
  isOpen : Bool
  /-- A write ended with an error. -/
  failed : Bool
  /-- `front` or `pop` was called on an empty queue. -/
  underflow : Bool
  /-- `asyncWrite` found the socket closed. -/
  drained : Bool
  queued : List α
  written : List α
  discarded : List α

/-- `complete` is the completion of a write, which Beast reports for any of
those in flight. -/
inductive Label (α : Type) where
  | send (runningInStrand : Bool) (combinedVector : α)
  | runPosted
  | complete (position : Nat) (error : Bool)
  | setOpen (isOpen : Bool)
  deriving DecidableEq

namespace State

def start : State α where
  posted := []
  sendingQueue := []
  inFlight := []
  isOpen := false
  failed := false
  underflow := false
  drained := false
  queued := []
  written := []
  discarded := []

def asyncWrite (s : State α) : State α :=
  if s.isOpen then
    match s.sendingQueue with
    | [] => { s with underflow := true }
    | combinedVector :: _ =>
        { s with
          inFlight := s.inFlight ++ [combinedVector]
          written := s.written ++ [combinedVector] }
  else
    { s with
      sendingQueue := []
      drained := true
      discarded := s.discarded ++ s.sendingQueue }

def push (s : State α) (combinedVector : α) : State α :=
  { s with
    sendingQueue := s.sendingQueue ++ [combinedVector]
    queued := s.queued ++ [combinedVector] }

def queueMessage (s : State α) (combinedVector : α) : State α :=
  if (s.push combinedVector).sendingQueue.length = 1 then (s.push combinedVector).asyncWrite
  else s.push combinedVector

def send (s : State α) (runningInStrand : Bool) (combinedVector : α) : State α :=
  if runningInStrand then s.queueMessage combinedVector
  else { s with posted := s.posted ++ [combinedVector] }

def runPosted (s : State α) : State α :=
  match s.posted with
  | [] => s
  | combinedVector :: rest => { s with posted := rest }.queueMessage combinedVector

/-- A write has completed, and the front of the queue is popped. -/
def pop (s : State α) (position : Nat) : State α :=
  { s with
    inFlight := s.inFlight.eraseIdx position
    sendingQueue := s.sendingQueue.tail
    underflow := s.underflow || s.sendingQueue.isEmpty }

/-- The completion handler of a write. -/
def complete (s : State α) (position : Nat) (error : Bool) : State α :=
  if error then { s.pop position with failed := true }
  else if (s.pop position).sendingQueue.isEmpty then s.pop position
  else (s.pop position).asyncWrite

/-- The messages of the queue that have not been handed to `async_write`. -/
def waiting (s : State α) : List α := s.sendingQueue.drop s.inFlight.length

end State

def enabled (s : State α) : Label α → Bool
  | .send _ _ | .setOpen _ => true
  | .runPosted => !s.posted.isEmpty
  | .complete position _ => decide (position < s.inFlight.length)

def next (s : State α) : Label α → State α
  | .send runningInStrand combinedVector => s.send runningInStrand combinedVector
  | .runPosted => s.runPosted
  | .complete position error => s.complete position error
  | .setOpen isOpen => { s with isOpen := isOpen }

def connection (α : Type) : Machine (State α) (Label α) where
  start := .start
  enabled := enabled
  next := next

variable {s : State α} {label : Label α}

theorem asyncWrite_of_open {combinedVector : α} {rest : List α} (hopen : s.isOpen = true)
    (hqueue : s.sendingQueue = combinedVector :: rest) :
    s.asyncWrite = { s with
      inFlight := s.inFlight ++ [combinedVector]
      written := s.written ++ [combinedVector] } := by
  unfold State.asyncWrite
  rw [if_pos hopen, hqueue]

theorem asyncWrite_of_closed (hopen : s.isOpen = false) :
    s.asyncWrite = { s with
      sendingQueue := []
      drained := true
      discarded := s.discarded ++ s.sendingQueue } := by
  unfold State.asyncWrite
  rw [if_neg (by simp [hopen])]

/-- The write in flight, if any, is the one of the front of the queue. -/
structure SingleWriter (s : State α) : Prop where
  front : s.inFlight = [] ∨ ∃ combinedVector rest,
    s.inFlight = [combinedVector] ∧ s.sendingQueue = combinedVector :: rest
  underflow : s.underflow = false
  writing : s.failed = false → s.sendingQueue ≠ [] → s.inFlight ≠ []

theorem SingleWriter.start : SingleWriter (State.start : State α) where
  front := Or.inl rfl
  underflow := rfl
  writing := fun _ h => absurd rfl h

/-- `asyncWrite` is called while nothing is in flight and the queue holds a
message. -/
theorem SingleWriter.asyncWrite (hidle : s.inFlight = []) (hqueue : s.sendingQueue ≠ [])
    (hunderflow : s.underflow = false) : SingleWriter s.asyncWrite := by
  cases hopen : s.isOpen with
  | false =>
      rw [asyncWrite_of_closed hopen]
      exact ⟨Or.inl hidle, hunderflow, fun _ h => absurd rfl h⟩
  | true =>
      obtain ⟨combinedVector, rest, hmessages⟩ := List.exists_cons_of_ne_nil hqueue
      rw [asyncWrite_of_open hopen hmessages]
      refine ⟨Or.inr ⟨combinedVector, rest, ?_, hmessages⟩, hunderflow, fun _ _ => ?_⟩
      · rw [hidle]
        rfl
      · simp

theorem SingleWriter.queueMessage (h : SingleWriter s) (combinedVector : α) :
    SingleWriter (s.queueMessage combinedVector) := by
  unfold State.queueMessage
  split
  · rename_i hone
    have hempty : s.sendingQueue = [] := by simpa [State.push] using hone
    refine .asyncWrite ?_ (by simp [State.push]) h.underflow
    rcases h.front with hidle | ⟨first, rest, -, hqueue⟩
    · exact hidle
    · rw [hempty] at hqueue
      cases hqueue
  · rename_i hmore
    have hqueue : s.sendingQueue ≠ [] := by simpa [State.push] using hmore
    refine ⟨?_, h.underflow, fun hfailed _ => h.writing hfailed hqueue⟩
    rcases h.front with hidle | ⟨first, rest, hwrite, hmessages⟩
    · exact Or.inl hidle
    · exact Or.inr ⟨first, rest ++ [combinedVector], hwrite, by simp [State.push, hmessages]⟩

/-- The write that completes is the only one. -/
theorem SingleWriter.completes (h : SingleWriter s) {position : Nat}
    (hposition : position < s.inFlight.length) :
    position = 0 ∧ ∃ combinedVector rest,
      s.inFlight = [combinedVector] ∧ s.sendingQueue = combinedVector :: rest := by
  rcases h.front with hidle | ⟨first, rest, hwrite, hqueue⟩
  · rw [hidle] at hposition
    exact absurd hposition (Nat.not_lt_zero _)
  · refine ⟨?_, first, rest, hwrite, hqueue⟩
    rw [hwrite, List.length_singleton] at hposition
    omega

theorem SingleWriter.complete (h : SingleWriter s) {position : Nat}
    (hposition : position < s.inFlight.length) (error : Bool) :
    SingleWriter (s.complete position error) := by
  obtain ⟨rfl, first, rest, hwrite, hqueue⟩ := h.completes hposition
  have hidle : (s.pop 0).inFlight = [] := by simp [State.pop, hwrite]
  have hunderflow : (s.pop 0).underflow = false := by simp [State.pop, h.underflow, hqueue]
  unfold State.complete
  cases error with
  | true => exact ⟨Or.inl hidle, hunderflow, nofun⟩
  | false =>
      rw [if_neg (by simp)]
      split
      · rename_i hempty
        exact ⟨Or.inl hidle, hunderflow, fun _ h => absurd (List.isEmpty_iff.mp hempty) h⟩
      · rename_i hmore
        exact .asyncWrite hidle (by simpa using hmore) hunderflow

theorem SingleWriter.next (h : SingleWriter s) (henabled : enabled s label = true) :
    SingleWriter (next s label) := by
  cases label with
  | send runningInStrand combinedVector =>
      cases runningInStrand with
      | true => exact h.queueMessage combinedVector
      | false => exact ⟨h.front, h.underflow, h.writing⟩
  | runPosted =>
      simp only [SendingQueue.next, State.runPosted]
      cases s.posted with
      | nil => exact h
      | cons combinedVector rest =>
          apply SingleWriter.queueMessage
          exact ⟨h.front, h.underflow, h.writing⟩
  | complete position error => exact h.complete (by simpa [enabled] using henabled) error
  | setOpen isOpen => exact ⟨h.front, h.underflow, h.writing⟩

/-- Every message passed to `queueMessage` has been handed to `async_write`,
waits for it or was dropped by a closed socket, and none of them has overtaken
another. -/
structure Accounted (s : State α) : Prop where
  order : (s.written ++ s.waiting).Sublist s.queued
  all : (s.written ++ s.waiting ++ s.discarded).Perm s.queued
  discarded : s.drained = false → s.discarded = []

theorem Accounted.start : Accounted (State.start : State α) where
  order := List.Sublist.refl _
  all := List.Perm.refl _
  discarded := fun _ => rfl

/-- `asyncWrite` writes the first message that waits, or drops all of them. -/
theorem Accounted.asyncWrite (h : Accounted s) (hidle : s.inFlight = [])
    (hqueue : s.sendingQueue ≠ []) : Accounted s.asyncWrite := by
  obtain ⟨horder, hall, hdiscarded⟩ := h
  have hwaiting : s.waiting = s.sendingQueue := by simp [State.waiting, hidle]
  rw [hwaiting] at horder hall
  cases hopen : s.isOpen with
  | false =>
      rw [asyncWrite_of_closed hopen]
      refine ⟨?_, ?_, nofun⟩
      · simpa [State.waiting] using (List.sublist_append_left _ _).trans horder
      · have hdropped : (s.discarded ++ s.sendingQueue).Perm (s.sendingQueue ++ s.discarded) :=
          List.perm_append_comm
        refine List.Perm.trans ?_ hall
        simpa [State.waiting] using hdropped.append_left s.written
  | true =>
      obtain ⟨combinedVector, rest, hmessages⟩ := List.exists_cons_of_ne_nil hqueue
      rw [hmessages] at horder hall
      rw [asyncWrite_of_open hopen hmessages]
      exact ⟨by simpa [State.waiting, hidle, hmessages] using horder,
        by simpa [State.waiting, hidle, hmessages] using hall, hdiscarded⟩

theorem Accounted.push (h : Accounted s) (hwriter : SingleWriter s) (combinedVector : α) :
    Accounted (s.push combinedVector) := by
  have hlength : s.inFlight.length ≤ s.sendingQueue.length := by
    rcases hwriter.front with hidle | ⟨first, rest, hwrite, hqueue⟩
    · simp [hidle]
    · simp [hwrite, hqueue]
  have hwaiting : (s.push combinedVector).waiting = s.waiting ++ [combinedVector] := by
    simp [State.waiting, State.push, List.drop_append_of_le_length hlength]
  refine ⟨?_, ?_, h.discarded⟩
  · rw [hwaiting, ← List.append_assoc]
    exact h.order.append_right [combinedVector]
  · have hlast : (s.written ++ (s.waiting ++ [combinedVector]) ++ s.discarded).Perm
        (s.written ++ s.waiting ++ s.discarded ++ [combinedVector]) := by
      simp only [List.append_assoc]
      exact (List.perm_append_comm.append_left _).append_left _
    rw [hwaiting]
    exact hlast.trans (h.all.append_right [combinedVector])

theorem Accounted.queueMessage (h : Accounted s) (hwriter : SingleWriter s)
    (combinedVector : α) : Accounted (s.queueMessage combinedVector) := by
  have hpushed := h.push hwriter combinedVector
  unfold State.queueMessage
  split
  · rename_i hone
    have hempty : s.sendingQueue = [] := by simpa [State.push] using hone
    refine hpushed.asyncWrite ?_ (by simp [State.push])
    rcases hwriter.front with hidle | ⟨first, rest, -, hqueue⟩
    · exact hidle
    · rw [hempty] at hqueue
      cases hqueue
  · exact hpushed

theorem Accounted.complete (h : Accounted s) (hwriter : SingleWriter s) {position : Nat}
    (hposition : position < s.inFlight.length) (error : Bool) :
    Accounted (s.complete position error) := by
  obtain ⟨rfl, first, rest, hwrite, hqueue⟩ := hwriter.completes hposition
  have hwaiting : (s.pop 0).waiting = s.waiting := by
    simp [State.waiting, State.pop, hwrite, hqueue]
  have hpopped : Accounted (s.pop 0) :=
    ⟨hwaiting ▸ h.order, hwaiting ▸ h.all, h.discarded⟩
  unfold State.complete
  cases error with
  | true => exact ⟨hpopped.order, hpopped.all, hpopped.discarded⟩
  | false =>
      rw [if_neg (by simp)]
      split
      · exact hpopped
      · rename_i hmore
        exact hpopped.asyncWrite (by simp [State.pop, hwrite]) (by simpa using hmore)

theorem Accounted.next (h : Accounted s) (hwriter : SingleWriter s)
    (henabled : enabled s label = true) : Accounted (next s label) := by
  cases label with
  | send runningInStrand combinedVector =>
      cases runningInStrand with
      | true => exact h.queueMessage hwriter combinedVector
      | false => exact ⟨h.order, h.all, h.discarded⟩
  | runPosted =>
      simp only [SendingQueue.next, State.runPosted]
      cases s.posted with
      | nil => exact h
      | cons combinedVector rest =>
          apply Accounted.queueMessage
          · exact ⟨h.order, h.all, h.discarded⟩
          · exact ⟨hwriter.front, hwriter.underflow, hwriter.writing⟩
  | complete position error =>
      exact h.complete hwriter (by simpa [enabled] using henabled) error
  | setOpen isOpen => exact ⟨h.order, h.all, h.discarded⟩

theorem invariant_of_reachable (h : (connection α).Reachable s) :
    SingleWriter s ∧ Accounted s := by
  refine h.invariant (fun s => SingleWriter s ∧ Accounted s) ⟨.start, .start⟩ ?_
  rintro s label ⟨hwriter, haccounted⟩ henabled -
  exact ⟨hwriter.next henabled, haccounted.next hwriter henabled⟩

/-- What the callers of a run pass to `queueMessage`, with what is posted before
it: a `send` from within the strand at once, the others in the order in which the
strand runs their handlers. -/
def passed : List α → List (Label α) → List α
  | _, [] => []
  | posted, .send true combinedVector :: rest => combinedVector :: passed posted rest
  | posted, .send false combinedVector :: rest => passed (posted ++ [combinedVector]) rest
  | posted, .runPosted :: rest => posted.head?.toList ++ passed posted.tail rest
  | posted, .complete _ _ :: rest | posted, .setOpen _ :: rest => passed posted rest

/-- What happens to a `Transport`. A write ends without an error once its message
has left the node. -/
inductive Move where
  | send (runningInStrand : Bool) (combinedVector : Bytes)
  | runPosted
  | transmit
  | complete (error : Bool)
  | receive
  | setOpen (isOpen : Bool)

def Move.enabled (transport : Transport) : Move → Bool
  | send _ _ | runPosted | receive | setOpen _ => true
  | transmit => transport.write == .started
  | complete error => transport.write == .transmitted || error && transport.write == .started

def Move.next (transport : Transport) : Move → Transport
  | send runningInStrand combinedVector => transport.send runningInStrand combinedVector
  | runPosted => transport.runPosted
  | transmit => transport.transmit
  | complete error => transport.complete error
  | receive => transport.receive
  | setOpen isOpen => { transport with isOpen := isOpen }

def transport : Machine Transport Move where
  start := .start
  enabled := Move.enabled
  next := Move.next

structure Tracks (transport : Transport) (s : State Bytes) : Prop where
  posted : transport.posted = s.posted
  sendingQueue : transport.sendingQueue = s.sendingQueue
  write : transport.write = .idle ↔ s.inFlight = []
  isOpen : transport.isOpen = s.isOpen
  failed : transport.failed = s.failed

variable {transport : Transport} {s : State Bytes}

theorem Tracks.asyncWrite {sendingQueue : List Bytes} (hposted : transport.posted = s.posted)
    (hopen : transport.isOpen = s.isOpen) (hfailed : transport.failed = s.failed)
    (hqueue : sendingQueue ≠ []) (hmessages : s.sendingQueue = sendingQueue)
    (hidle : s.inFlight = []) :
    Tracks (transport.asyncWrite sendingQueue hqueue) s.asyncWrite := by
  unfold Transport.asyncWrite
  cases hs : s.isOpen with
  | false =>
      rw [asyncWrite_of_closed hs, if_neg (by simp [hopen, hs])]
      exact ⟨hposted, rfl, by simp [hidle], hopen, hfailed⟩
  | true =>
      obtain ⟨combinedVector, rest, rfl⟩ := List.exists_cons_of_ne_nil hqueue
      rw [asyncWrite_of_open hs hmessages, if_pos (by simp [hopen, hs])]
      exact ⟨hposted, hmessages.symm, by simp, hopen, hfailed⟩

theorem Tracks.queueMessage (h : Tracks transport s) (hwriter : SingleWriter s)
    (combinedVector : Bytes) :
    Tracks (transport.queueMessage combinedVector) (s.queueMessage combinedVector) := by
  have hqueue := h.sendingQueue
  unfold Transport.queueMessage State.queueMessage
  split
  · rename_i hempty
    rw [hqueue] at hempty
    rw [if_pos (by simp [State.push, hempty])]
    have hidle : s.inFlight = [] := by
      rcases hwriter.front with hidle | ⟨first, rest, -, hmessages⟩
      · exact hidle
      · rw [hempty] at hmessages
        cases hmessages
    have hpushed : (s.push combinedVector).sendingQueue = [combinedVector] := by
      simp [State.push, hempty]
    exact Tracks.asyncWrite (s := s.push combinedVector) h.posted h.isOpen h.failed _ hpushed
      hidle
  · rename_i hmore
    rw [hqueue] at hmore
    rw [if_neg (by simpa [State.push] using hmore)]
    exact ⟨h.posted, by simp [State.push, hqueue], h.write, h.isOpen, h.failed⟩

theorem Tracks.send (h : Tracks transport s) (hwriter : SingleWriter s)
    (runningInStrand : Bool) (combinedVector : Bytes) :
    Tracks (transport.send runningInStrand combinedVector)
      (s.send runningInStrand combinedVector) := by
  cases runningInStrand with
  | true => exact h.queueMessage hwriter combinedVector
  | false =>
      have hposted := h.posted
      exact ⟨by simp [Transport.send, State.send, hposted], h.sendingQueue, h.write, h.isOpen,
        h.failed⟩

theorem Tracks.runPosted (h : Tracks transport s) (hwriter : SingleWriter s) :
    Tracks transport.runPosted s.runPosted := by
  have hposted := h.posted
  unfold Transport.runPosted State.runPosted
  cases hs : s.posted with
  | nil =>
      rw [hs] at hposted
      rw [hposted]
      exact h
  | cons combinedVector rest =>
      rw [hs] at hposted
      rw [hposted]
      apply Tracks.queueMessage
      · exact ⟨rfl, h.sendingQueue, h.write, h.isOpen, h.failed⟩
      · exact ⟨hwriter.front, hwriter.underflow, hwriter.writing⟩

theorem Tracks.complete (h : Tracks transport s) (hwriter : SingleWriter s)
    (hwrite : transport.write ≠ .idle) (error : Bool) :
    Tracks (transport.complete error) (s.complete 0 error) := by
  have hinFlight : 0 < s.inFlight.length :=
    List.length_pos_iff.mpr (fun hidle => hwrite (h.write.mpr hidle))
  obtain ⟨-, first, rest, hfirst, hmessages⟩ := hwriter.completes hinFlight
  have hqueue : transport.sendingQueue = first :: rest := h.sendingQueue.trans hmessages
  have hidle : (s.pop 0).inFlight = [] := by simp [State.pop, hfirst]
  have hrest : (s.pop 0).sendingQueue = rest := by simp [State.pop, hmessages]
  cases error with
  | true =>
      have htail : transport.sendingQueue.tail = rest := by rw [hqueue, List.tail_cons]
      exact ⟨h.posted, htail.trans hrest.symm, by simp [Transport.complete, State.complete, hidle],
        h.isOpen, rfl⟩
  | false =>
      unfold Transport.complete State.complete
      simp only [Bool.false_eq_true, if_false, hqueue, List.tail_cons, hrest]
      cases rest with
      | nil => exact ⟨h.posted, hrest.symm, by simp [hidle], h.isOpen, h.failed⟩
      | cons second others =>
          exact Tracks.asyncWrite (s := s.pop 0) h.posted h.isOpen h.failed _ hrest hidle

/-- Every run of a `Transport` is one of the sending queue. -/
theorem exists_tracks {transport : Transport} (h : SendingQueue.transport.Reachable transport) :
    ∃ s, (connection Bytes).Reachable s ∧ Tracks transport s := by
  have hopened : (connection Bytes).Reachable (next .start (.setOpen true)) :=
    Machine.ReachableWith.start.step (a := Label.setOpen true) rfl trivial
  refine h.invariant (fun transport => ∃ s, (connection Bytes).Reachable s ∧ Tracks transport s)
    ⟨_, hopened, rfl, rfl, by decide, rfl, rfl⟩ ?_
  rintro transport move ⟨s, hs, htracks⟩ henabled -
  have hwriter : SingleWriter s := (invariant_of_reachable hs).1
  have hmoved (label : Label Bytes) (hlabel : enabled s label = true)
      (hnext : Tracks (move.next transport) (next s label)) :
      ∃ t, (connection Bytes).Reachable t ∧ Tracks (move.next transport) t :=
    ⟨next s label, hs.step hlabel trivial, hnext⟩
  cases move with
  | send runningInStrand combinedVector =>
      exact hmoved (.send runningInStrand combinedVector) rfl
        (htracks.send hwriter runningInStrand combinedVector)
  | runPosted =>
      by_cases hposted : s.posted = []
      · have hnone : transport.runPosted = transport := by
          unfold Transport.runPosted
          rw [htracks.posted, hposted]
        refine ⟨s, hs, ?_⟩
        change Tracks transport.runPosted s
        rwa [hnone]
      · exact hmoved .runPosted (by simpa [enabled] using hposted) (htracks.runPosted hwriter)
  | transmit =>
      have hwrite : transport.write = .started := by
        simpa [SendingQueue.transport, Move.enabled] using henabled
      refine ⟨s, hs, ?_⟩
      change Tracks transport.transmit s
      rw [Transport.transmit, dif_pos hwrite]
      exact ⟨htracks.posted, htracks.sendingQueue, by simp [← htracks.write, hwrite],
        htracks.isOpen, htracks.failed⟩
  | complete error =>
      have hwrite : transport.write ≠ .idle := by
        intro hidle
        simp [SendingQueue.transport, Move.enabled, hidle] at henabled
      have hinFlight : 0 < s.inFlight.length :=
        List.length_pos_iff.mpr fun hidle => hwrite (htracks.write.mpr hidle)
      exact hmoved (.complete 0 error) (by simpa [enabled] using hinFlight)
        (htracks.complete hwriter hwrite error)
  | receive =>
      exact ⟨s, hs, htracks.posted, htracks.sendingQueue, htracks.write, htracks.isOpen,
        htracks.failed⟩
  | setOpen isOpen =>
      exact hmoved (.setOpen isOpen) rfl
        ⟨htracks.posted, htracks.sendingQueue, htracks.write, rfl, htracks.failed⟩

end SendingQueue

end Ros2Connect
