import Ros2Connect.Message.VectorMessage

/-!
What the connections share. On the sending side a message is posted to the
strand, queued, written and on its way to the peer; `Transport` carries that a
write is in flight whenever one is due. On the receiving side a message goes to
one of the managers.
-/

namespace Ros2Connect

open Lib

/-- `Thread::thread`: null, or a `std::thread` that has not been joined. -/
inductive ThreadObject where
  | null
  | joinable
  deriving Repr, DecidableEq

/-- What ends the process. -/
inductive Termination where
  /-- A `std::thread` was destroyed before it was joined. -/
  | unjoinedThread
  /-- An exception left the function of a thread. -/
  | uncaughtException
  /-- An access outside of a buffer. -/
  | outOfBounds (fault : Fault)
  /-- A call on a null pointer. -/
  | nullPointer
  deriving Repr, DecidableEq

/-- `Thread::startThread`; `spawned` is false when the constructor of
`std::thread` throws. -/
def startThread (thread : ThreadObject) (spawned : Bool) : Except Termination ThreadObject :=
  match thread with
  | .joinable => .error .unjoinedThread
  | .null => .ok (if spawned then .joinable else .null)

/-- A message in a queue of the receiving side. The tag is read by no step. -/
structure Tagged (τ : Type) where
  message : RclMessage
  tag : τ
  deriving DecidableEq

/-- Where `processMessage` of the base sends a message. -/
inductive Destination where
  | logger
  | subscriberManager
  | serviceActionManager
  | publisherManager
  deriving Repr, DecidableEq

def destination (message : RclMessage) : Destination :=
  if MessageBase.isOpCode message .notification then .logger
  else if MessageBase.isOpCode message .subscription then .subscriberManager
  else if MessageBase.isOpCode message .serviceAction then .serviceActionManager
  else .publisherManager

theorem destination_eq_subscriberManager (message : RclMessage) :
    destination message = .subscriberManager ↔
      MessageBase.isOpCode message .subscription = true := by
  unfold destination MessageBase.isOpCode
  by_cases hnotification : MessageBase.channel message = OpCode.notification.toByte
  · simp only [hnotification]
    decide
  · by_cases hsubscription : MessageBase.channel message = OpCode.subscription.toByte
    · simp only [hsubscription]
      decide
    · simp only [beq_eq_false_iff_ne.mpr hnotification, beq_eq_false_iff_ne.mpr hsubscription,
        Bool.false_eq_true, if_false, iff_false]
      split <;> simp

/-- The `async_write` of the message at the front of the sending queue. -/
inductive Write where
  | idle
  | started
  | transmitted
  deriving Repr, DecidableEq

/-- The way of a message to the peer. `failed` is set by the first write that
ends with an error. -/
structure Transport where
  posted : List Bytes
  sendingQueue : List Bytes
  write : Write
  wire : List Bytes
  isOpen : Bool
  failed : Bool
  /-- A write has its message at the front of the queue. -/
  writing : write ≠ .idle → sendingQueue ≠ []
  /-- A message in the queue is written or waits for the write before it. -/
  waiting : failed = false → sendingQueue ≠ [] → write ≠ .idle

namespace Transport

def start : Transport where
  posted := []
  sendingQueue := []
  write := .idle
  wire := []
  isOpen := true
  failed := false
  writing := by decide
  waiting := by decide

/-- `asyncWrite` with the queue it finds; a closed connection empties it. -/
def asyncWrite (transport : Transport) (sendingQueue : List Bytes)
    (h : sendingQueue ≠ []) : Transport :=
  if transport.isOpen then
    { transport with
      sendingQueue := sendingQueue
      write := .started
      writing := fun _ => h
      waiting := by simp }
  else
    { transport with
      sendingQueue := []
      write := .idle
      writing := by simp
      waiting := by simp }

/-- `queueMessage`, which starts a write when the message is the only one. -/
def queueMessage (transport : Transport) (combinedVector : Bytes) : Transport :=
  if hqueue : transport.sendingQueue = [] then
    transport.asyncWrite [combinedVector] (by simp)
  else
    { transport with
      sendingQueue := transport.sendingQueue ++ [combinedVector]
      writing := by simp
      waiting := fun hfailed _ => transport.waiting hfailed hqueue }

/-- `send`, posted unless the caller runs in the strand. -/
def send (transport : Transport) (runningInStrand : Bool) (combinedVector : Bytes) :
    Transport :=
  if runningInStrand then transport.queueMessage combinedVector
  else { transport with posted := transport.posted ++ [combinedVector] }

/-- The strand executes the handler posted first. -/
def runPosted (transport : Transport) : Transport :=
  match transport.posted with
  | [] => transport
  | combinedVector :: rest =>
      { transport with posted := rest }.queueMessage combinedVector

/-- The message being written has left the node. -/
def transmit (transport : Transport) : Transport :=
  if hwrite : transport.write = .started then
    { transport with
      write := .transmitted
      wire := transport.wire ++ transport.sendingQueue.take 1
      writing := fun _ => transport.writing (by simp [hwrite])
      waiting := by simp }
  else transport

/-- The completion handler of a write. -/
def complete (transport : Transport) (error : Bool) : Transport :=
  if error then
    { transport with
      sendingQueue := transport.sendingQueue.tail
      write := .idle
      failed := true
      writing := by simp
      waiting := by simp }
  else if h : transport.sendingQueue.tail = [] then
    { transport with
      sendingQueue := []
      write := .idle
      writing := by simp
      waiting := by simp }
  else
    transport.asyncWrite transport.sendingQueue.tail h

/-- The peer reads the next message. -/
def receive (transport : Transport) : Transport :=
  { transport with wire := transport.wire.tail }

/-- The messages of the sending queue that have not left the node. -/
def unsent (transport : Transport) : List Bytes :=
  if transport.write = .transmitted then transport.sendingQueue.tail
  else transport.sendingQueue

/-- Every message under way, the one that arrives next first. -/
def inFlight (transport : Transport) : List Bytes :=
  transport.wire ++ transport.unsent ++ transport.posted

/-- A connection that is open and whose writes all succeeded. -/
structure Sound (transport : Transport) : Prop where
  isOpen : transport.isOpen = true
  failed : transport.failed = false

theorem Sound.start : start.Sound := ⟨rfl, rfl⟩

variable {transport : Transport}

theorem Sound.queueMessage (h : transport.Sound) (combinedVector : Bytes) :
    (transport.queueMessage combinedVector).Sound := by
  unfold Transport.queueMessage asyncWrite
  split <;> simp [h.isOpen, h.failed, Sound.mk]

/-- A queued message is the last one of its queue. -/
theorem Sound.unsent_queueMessage (h : transport.Sound) (combinedVector : Bytes) :
    (transport.queueMessage combinedVector).unsent = transport.unsent ++ [combinedVector] ∧
      (transport.queueMessage combinedVector).wire = transport.wire ∧
      (transport.queueMessage combinedVector).posted = transport.posted := by
  unfold Transport.queueMessage asyncWrite
  by_cases hqueue : transport.sendingQueue = []
  · have hidle : transport.write = .idle := by
      by_contra hwrite
      exact transport.writing hwrite hqueue
    simp [hqueue, h.isOpen, unsent, hidle]
  · by_cases hwrite : transport.write = .transmitted
    · simp [hqueue, unsent, hwrite, List.tail_append_of_ne_nil]
    · simp [hqueue, unsent, hwrite]

theorem Sound.post (h : transport.Sound) (combinedVector : Bytes) :
    (transport.send false combinedVector).Sound ∧
      (transport.send false combinedVector).inFlight =
        transport.inFlight ++ [combinedVector] :=
  ⟨⟨h.isOpen, h.failed⟩, by simp [Transport.send, inFlight, unsent]⟩

theorem Sound.send (h : transport.Sound) (runningInStrand : Bool) (combinedVector : Bytes) :
    (transport.send runningInStrand combinedVector).Sound := by
  cases runningInStrand with
  | false => exact (h.post combinedVector).1
  | true => exact h.queueMessage combinedVector

/-- A message that says nothing to an observer may overtake the posted ones. -/
theorem Sound.filterMap_send {β : Type} (h : transport.Sound) (observe : Bytes → Option β)
    (runningInStrand : Bool) {combinedVector : Bytes} (hsilent : observe combinedVector = none) :
    (transport.send runningInStrand combinedVector).inFlight.filterMap observe =
      transport.inFlight.filterMap observe := by
  cases runningInStrand with
  | false => simp [(h.post combinedVector).2, hsilent]
  | true =>
      obtain ⟨hunsent, hwire, hposted⟩ := h.unsent_queueMessage combinedVector
      simp only [Transport.send, if_true, inFlight, hunsent, hwire, hposted]
      simp [hsilent]

theorem Sound.mem_send (h : transport.Sound) {runningInStrand : Bool}
    {combinedVector sent : Bytes}
    (hmem : sent ∈ (transport.send runningInStrand combinedVector).inFlight) :
    sent ∈ transport.inFlight ∨ sent = combinedVector := by
  cases runningInStrand with
  | false =>
      rw [(h.post combinedVector).2] at hmem
      simpa using hmem
  | true =>
      obtain ⟨hunsent, hwire, hposted⟩ := h.unsent_queueMessage combinedVector
      simp only [Transport.send, if_true, inFlight, hunsent, hwire, hposted, List.mem_append,
        List.mem_singleton] at hmem
      simp only [inFlight, List.mem_append]
      tauto

/-- The strand keeps the messages under way and their order. -/
theorem Sound.runPosted (h : transport.Sound) :
    transport.runPosted.Sound ∧ transport.runPosted.inFlight = transport.inFlight := by
  unfold Transport.runPosted
  cases hposted : transport.posted with
  | nil => exact ⟨h, rfl⟩
  | cons combinedVector rest =>
      have hrest : ({ transport with posted := rest } : Transport).Sound :=
        ⟨h.isOpen, h.failed⟩
      refine ⟨hrest.queueMessage combinedVector, ?_⟩
      obtain ⟨hunsent, hwire, hnone⟩ := hrest.unsent_queueMessage combinedVector
      simp only [inFlight, hunsent, hwire, hnone, hposted]
      simp [unsent]

theorem Sound.transmit (h : transport.Sound) :
    transport.transmit.Sound ∧ transport.transmit.inFlight = transport.inFlight := by
  unfold Transport.transmit
  split
  next hwrite =>
    refine ⟨⟨h.isOpen, h.failed⟩, ?_⟩
    have hsplit : transport.sendingQueue.take 1 ++ transport.sendingQueue.tail =
        transport.sendingQueue := by
      rw [← List.drop_one, List.take_append_drop]
    have hunsent : transport.unsent = transport.sendingQueue := by simp [unsent, hwrite]
    have hsent : transport.wire ++ transport.sendingQueue.take 1 ++
        transport.sendingQueue.tail = transport.wire ++ transport.unsent := by
      rw [List.append_assoc, hsplit, hunsent]
    exact congrArg (· ++ transport.posted) hsent
  next => exact ⟨h, rfl⟩

/-- A write that ends without an error has its message at the peer. -/
theorem Sound.complete (h : transport.Sound) (hwrite : transport.write = .transmitted) :
    (transport.complete false).Sound ∧
      (transport.complete false).inFlight = transport.inFlight := by
  by_cases htail : transport.sendingQueue.tail = []
  · refine ⟨?_, ?_⟩
    · simp [Transport.complete, htail, h.isOpen, h.failed, Sound.mk]
    · simp [Transport.complete, htail, inFlight, unsent, hwrite]
  · refine ⟨?_, ?_⟩
    · simp [Transport.complete, asyncWrite, htail, h.isOpen, h.failed, Sound.mk]
    · simp [Transport.complete, asyncWrite, htail, h.isOpen, inFlight, unsent, hwrite]

theorem Sound.receive (h : transport.Sound) : transport.receive.Sound :=
  ⟨h.isOpen, h.failed⟩

theorem inFlight_receive {combinedVector : Bytes} {rest : List Bytes}
    (hwire : transport.wire = combinedVector :: rest) :
    transport.inFlight = combinedVector :: transport.receive.inFlight := by
  simp [inFlight, receive, hwire, unsent]

end Transport

end Ros2Connect
