import Ros2Connect.Connection.OwnTraffic

/-!
The sending queue as a part of a connection: whatever a server or a client
connection does is a run of its queue, so that what `SendingQueue` says of every
run holds of both. Then what is written is among what was handed to `send`.
-/

namespace Ros2Connect

open Lib

namespace SendingQueue

variable {α : Type} {s t : State α} {label : Label α}

theorem runs_next (s : State α) (label : Label α) (henabled : enabled s label = true) :
    (connection α).Runs (fun _ _ => True) s (next s label) :=
  .single henabled trivial

theorem queued_asyncWrite (s : State α) :
    s.asyncWrite.queued = s.queued ∧ s.asyncWrite.posted = s.posted ∧
      s.written <+: s.asyncWrite.written := by
  unfold State.asyncWrite
  split
  · split
    · exact ⟨rfl, rfl, List.prefix_refl _⟩
    · exact ⟨rfl, rfl, List.prefix_append _ _⟩
  · exact ⟨rfl, rfl, List.prefix_refl _⟩

theorem queued_queueMessage (s : State α) (combinedVector : α) :
    (s.queueMessage combinedVector).queued = s.queued ++ [combinedVector] ∧
      (s.queueMessage combinedVector).posted = s.posted ∧
      s.written <+: (s.queueMessage combinedVector).written := by
  unfold State.queueMessage
  split
  · exact queued_asyncWrite (s.push combinedVector)
  · exact ⟨rfl, rfl, List.prefix_refl _⟩

theorem queued_complete (s : State α) (position : Nat) (error : Bool) :
    (s.complete position error).queued = s.queued ∧
      (s.complete position error).posted = s.posted ∧
      s.written <+: (s.complete position error).written := by
  unfold State.complete
  split
  · exact ⟨rfl, rfl, List.prefix_refl _⟩
  · split
    · exact ⟨rfl, rfl, List.prefix_refl _⟩
    · exact queued_asyncWrite (s.pop position)

/-- The strand queues the message posted first. -/
theorem queued_runPosted (s : State α) :
    s.runPosted.queued ++ s.runPosted.posted = s.queued ++ s.posted ∧
      s.queued <+: s.runPosted.queued ∧ s.written <+: s.runPosted.written := by
  unfold State.runPosted
  cases hposted : s.posted with
  | nil => exact ⟨by rw [hposted], List.prefix_refl _, List.prefix_refl _⟩
  | cons combinedVector rest =>
      obtain ⟨hqueued, hrest, hwritten⟩ :=
        queued_queueMessage { s with posted := rest } combinedVector
      exact ⟨by simp [hqueued, hrest], by simp [hqueued], hwritten⟩

theorem written_mono (label : Label α) : s.written <+: (next s label).written := by
  cases label with
  | send runningInStrand combinedVector =>
      cases runningInStrand with
      | true => exact (queued_queueMessage s combinedVector).2.2
      | false => exact List.prefix_refl _
  | runPosted => exact (queued_runPosted s).2.2
  | complete position error => exact (queued_complete s position error).2.2
  | setOpen isOpen => exact List.prefix_refl _

theorem written_runs {ok : State α → Label α → Prop} (h : (connection α).Runs ok s t) :
    s.written <+: t.written :=
  h.invariant (fun t => s.written <+: t.written) (List.prefix_refl _)
    (fun _ label hbefore _ _ => hbefore.trans (written_mono label))

/-- What is written was queued, in this order. -/
theorem written_sublist (h : (connection α).Reachable s) : s.written.Sublist s.queued :=
  (List.sublist_append_left _ _).trans (invariant_of_reachable h).2.order

end SendingQueue

namespace PeerData

variable {Plugin : Type} {config : ServerConnection.Config Plugin}

theorem foldl_send (vectors : List Bytes) (s : State Plugin) :
    (vectors.foldl (fun s => s.send true) s).sendingQueue =
        vectors.foldl (fun queue vector => queue.send true vector) s.sendingQueue ∧
      (vectors.foldl (fun s => s.send true) s).connection = s.connection ∧
      (vectors.foldl (fun s => s.send true) s).notified = s.notified := by
  induction vectors generalizing s with
  | nil => exact ⟨rfl, rfl, rfl⟩
  | cons vector rest ih => exact ih (s.send true vector)

/-- What a server connection does to its sending queue. -/
theorem queue_projection (config : ServerConnection.Config Plugin) :
    Machine.Projection (connection config) (SendingQueue.connection Bytes) (fun _ _ => True)
      (fun _ _ => True) State.sendingQueue where
  start := rfl
  step := by
    intro s label henabled _
    have hsend : ∀ vector, (SendingQueue.connection Bytes).Runs (fun _ _ => True)
        s.sendingQueue (s.sendingQueue.send false vector) := fun vector =>
      SendingQueue.runs_next _ (.send false vector) rfl
    cases label with
    | connection label =>
        simp only [connection, next, State.runConnection, (foldl_send _ _).1]
        exact Machine.Runs.foldl (fun vector => SendingQueue.Label.send true vector)
          (fun _ _ => rfl) (fun _ _ => trivial) _ _
    | notifyAboutSubscriber | subscriberSends | sendClock | pluginSends => exact hsend _
    | runPosted =>
        simp only [connection, enabled, Bool.and_eq_true] at henabled
        exact SendingQueue.runs_next _ .runPosted henabled.2
    | complete position error =>
        simp only [connection, enabled, Bool.and_eq_true] at henabled
        exact SendingQueue.runs_next _ (.complete position error) henabled.2
    | setOpen isOpen => exact SendingQueue.runs_next _ (.setOpen isOpen) rfl
    | pluginSets | keyCheckThrows | close => exact .refl

end PeerData

namespace ClientConnection

variable {Plugin : Type}

/-- What a client connection does to its sending queue. -/
theorem queue_projection (config : Config Plugin) :
    Machine.Projection (connection config) (SendingQueue.connection Bytes) (fun _ _ => True)
      (fun _ _ => True) (fun s => s.sendingQueue) where
  start := rfl
  step := by
    intro s label henabled _
    cases label with
    | handshake spawned =>
        exact (SendingQueue.runs_next _ (.setOpen true) rfl).trans
          (SendingQueue.runs_next _ (.send true
            (VectorMessage.forOpCodeAuthentication config.userKey).combinedVector) rfl)
    | receive frame =>
        simp only [connection, next, State.receive]
        split
        · exact .refl
        · simp only [State.processMessage]
          split <;> exact .refl
    | emit emission =>
        simp only [connection, next, State.emit]
        split
        · exact .refl
        · rename_i combinedVector _
          exact SendingQueue.runs_next _ (.send false combinedVector) rfl
    | runPosted =>
        simp only [connection, enabled, Bool.and_eq_true] at henabled
        exact SendingQueue.runs_next _ .runPosted henabled.2
    | complete position error =>
        simp only [connection, enabled, Bool.and_eq_true] at henabled
        exact SendingQueue.runs_next _ (.complete position error) henabled.2
    | streamClosed => exact SendingQueue.runs_next _ (.setOpen false) rfl
    | turn | stopConnection | close => exact .refl

end ClientConnection

end Ros2Connect
