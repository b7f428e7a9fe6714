import Ros2Connect.Action.ActionClient

/-!
What becomes of the cancels an `ActionClient` receives. A cancel is queued for
the handle of its gid and from then on is in one place: in the queue, with the
thread, with the plugin, answered, or dropped because another cancel was being
handled. A thread that finds its goal done leaves the queue as it is.
-/

namespace Ros2Connect

open Lib

namespace ActionClient

variable {config : Config} {s t : State} {label : Label} {handle : Handle} {number : Nat}

/-- The message is the cancel of a number. -/
def Message.isCancel (number : Nat) (message : Message) : Bool :=
  message.opCode == .actionToClientCancel && message.number == number

/-- How often the thread holds a cancel. -/
def Turn.cancels (number : Nat) : Turn → Nat
  | .processing message => if message.isCancel number then 1 else 0
  | .waiting | .executingGoal _ | .returned => 0

/-- How many messages answer a cancel. -/
def Handle.answers (handle : Handle) (number : Nat) : Nat :=
  handle.sent.countP fun message => message.answers == some number

/-- How often a cancel waits in the queue. -/
def Handle.waits (handle : Handle) (number : Nat) : Nat :=
  handle.waitQueue.countP (Message.isCancel number)

/-- Every cancel that was queued is in one place. -/
def Handle.Balanced (handle : Handle) : Prop :=
  ∀ number, handle.queued.count number =
    handle.waits number + handle.turn.cancels number + handle.cancelling.toList.count number +
      handle.answers number + handle.dropped.count number

/-- The stores of `handlingCancel` that are still to come. -/
def Handle.clears (handle : Handle) : Nat :=
  handle.settling.flatten.count .clearHandlingCancel

/-- One cancel is handled at a time: `handlingCancel` is set from the call of
`asyncCancelGoal` to the end of the callback. -/
def Handle.Exclusive (handle : Handle) : Prop :=
  handle.cancelling.toList.length + handle.clears = if handle.handlingCancel then 1 else 0

/-- A handle drops a cancel only while it handles another one. -/
def Handle.Contended (handle : Handle) : Prop :=
  handle.handlingCancel = true ∨ handle.dropped ≠ [] →
    handle.cancelling ≠ none ∨ ∃ number, 0 < handle.answers number

/-- The messages that answer a cancel are those with one of the two op-codes. -/
def Handle.Replies (handle : Handle) : Prop :=
  ∀ message ∈ handle.sent, message.answers.isSome = true ↔
    message.opCode = .actionToServerCancelAccept ∨ message.opCode = .actionToServerCancelReject

structure Handle.Sound (handle : Handle) : Prop where
  balanced : handle.Balanced
  exclusive : handle.Exclusive
  contended : handle.Contended
  replies : handle.Replies
  done : handle.turn = .returned → handle.done = true

/-- A message of another op-code is no cancel. -/
theorem Message.isCancel_of_ne {message : Message} (h : message.opCode ≠ .actionToClientCancel) :
    message.isCancel number = false := by
  simp [Message.isCancel, h]

theorem Handle.sound_create {message : Message} (h : message.opCode ≠ .actionToClientCancel) :
    (Handle.create message).Sound where
  balanced := by
    intro number
    simp [Handle.create, Handle.waits, Handle.answers, Turn.cancels, Message.isCancel_of_ne h]
  exclusive := rfl
  contended := by
    intro hcontended
    rcases hcontended with hcancel | hdropped
    · cases hcancel
    · exact absurd rfl hdropped
  replies := nofun
  done := nofun

theorem Handle.Sound.push (h : handle.Sound) {message : Message}
    (hcancel : message.opCode = .actionToClientCancel) : (handle.push message).Sound where
  balanced := by
    intro number
    have hbalanced := h.balanced number
    have hmessage : message.isCancel number = (message.number == number) := by
      simp [Message.isCancel, hcancel]
    simp only [Handle.push, Handle.waits, Handle.answers, List.count_append, List.countP_append,
      List.count_singleton, List.countP_singleton, hmessage] at hbalanced ⊢
    omega
  exclusive := h.exclusive
  contended := h.contended
  replies := h.replies
  done := h.done

theorem Handle.Sound.wake (h : handle.Sound) (hturn : handle.turn = .waiting) :
    handle.wake.Sound := by
  unfold Handle.wake
  split
  · rename_i hdone
    refine ⟨fun number => ?_, h.exclusive, h.contended, h.replies, fun _ => hdone⟩
    have hbalanced := h.balanced number
    simpa [hturn, Turn.cancels, Handle.waits, Handle.answers] using hbalanced
  · split
    · exact h
    · rename_i message rest hqueue
      refine ⟨fun number => ?_, h.exclusive, h.contended, h.replies, nofun⟩
      have hbalanced := h.balanced number
      simp only [Handle.waits, Handle.answers, hqueue, hturn, Turn.cancels,
        List.countP_cons] at hbalanced ⊢
      omega

/-- The thread goes on without the message it has taken, which is no cancel. -/
theorem Handle.Sound.leave (h : handle.Sound) {message : Message}
    (hturn : handle.turn = .processing message) (hother : message.opCode ≠ .actionToClientCancel)
    {after : Handle} (hqueue : after.waitQueue = handle.waitQueue)
    (hafter : ∀ number, after.turn.cancels number = 0) (hreturned : after.turn ≠ .returned)
    (hcancelling : after.cancelling = handle.cancelling)
    (hcancel : after.handlingCancel = handle.handlingCancel)
    (hsettling : after.settling = handle.settling) (hsent : after.sent = handle.sent)
    (hqueued : after.queued = handle.queued) (hdropped : after.dropped = handle.dropped) :
    after.Sound where
  balanced := by
    intro number
    have hbalanced := h.balanced number
    rw [hturn, Turn.cancels, Message.isCancel_of_ne hother] at hbalanced
    simp only [Handle.waits, Handle.answers, hafter, hqueue, hcancelling, hsent, hqueued,
      hdropped] at hbalanced ⊢
    simpa using hbalanced
  exclusive := by
    have hexclusive := h.exclusive
    simp only [Handle.Exclusive, Handle.clears, hcancelling, hsettling, hcancel] at hexclusive ⊢
    exact hexclusive
  contended := by
    have hcontended := h.contended
    simp only [Handle.Contended, Handle.answers, hcancel, hdropped, hcancelling,
      hsent] at hcontended ⊢
    exact hcontended
  replies := by
    have hreplies := h.replies
    simp only [Handle.Replies, hsent] at hreplies ⊢
    exact hreplies
  done := fun hturned => absurd hturned hreturned

/-- The goal is not decided yet, and the cancel goes back into the queue. -/
theorem Handle.Sound.requeue (h : handle.Sound) {message : Message}
    (hturn : handle.turn = .processing message) :
    { handle with turn := .waiting, waitQueue := handle.waitQueue ++ [message] }.Sound where
  balanced := by
    intro number
    have hbalanced := h.balanced number
    simp only [Handle.waits, Handle.answers, hturn, Turn.cancels, List.countP_append,
      List.countP_singleton] at hbalanced ⊢
    omega
  exclusive := h.exclusive
  contended := h.contended
  replies := h.replies
  done := nofun

theorem Handle.Sound.drop (h : handle.Sound) {message : Message}
    (hturn : handle.turn = .processing message) (hcancel : message.opCode = .actionToClientCancel)
    (hhandling : handle.handlingCancel = true) :
    { handle with turn := .waiting, dropped := handle.dropped ++ [message.number] }.Sound where
  balanced := by
    intro number
    have hbalanced := h.balanced number
    have hmessage : message.isCancel number = (message.number == number) := by
      simp [Message.isCancel, hcancel]
    simp only [Handle.waits, Handle.answers, hturn, Turn.cancels, hmessage, List.count_append,
      List.count_singleton] at hbalanced ⊢
    omega
  exclusive := h.exclusive
  contended := fun _ => h.contended (.inl hhandling)
  replies := h.replies
  done := nofun

theorem Handle.Sound.executeCancel (h : handle.Sound) {message : Message}
    (hturn : handle.turn = .processing message) (hcancel : message.opCode = .actionToClientCancel)
    (hhandling : handle.handlingCancel = false) : (handle.executeCancel message).Sound := by
  have hexclusive := h.exclusive
  rw [Handle.Exclusive, hhandling, if_neg (by simp), Nat.add_eq_zero_iff] at hexclusive
  obtain ⟨hnone, hclears⟩ := hexclusive
  have hcancelling : handle.cancelling.toList = [] := List.length_eq_zero_iff.mp hnone
  refine ⟨fun number => ?_, ?_, fun _ => .inl (by simp [Handle.executeCancel]), h.replies, nofun⟩
  · have hbalanced := h.balanced number
    have hmessage : message.isCancel number = (message.number == number) := by
      simp [Message.isCancel, hcancel]
    simp only [Handle.executeCancel, Handle.waits, Handle.answers, hturn, Turn.cancels, hmessage,
      hcancelling, Option.toList_some, List.count_nil, List.count_singleton] at hbalanced ⊢
    omega
  · have hsettling : (handle.executeCancel message).clears = 0 := hclears
    rw [Handle.Exclusive, hsettling]
    rfl

theorem Handle.Sound.process (h : handle.Sound) : handle.process.Sound := by
  unfold Handle.process
  cases hturn : handle.turn with
  | waiting | executingGoal | returned => exact h
  | processing message =>
      simp only
      split
      · rename_i hgoal
        have hother : message.opCode ≠ .actionToClientCancel := by simp [hgoal]
        split
        · exact h.leave hturn hother rfl (fun _ => rfl) nofun rfl rfl rfl rfl rfl rfl
        · exact h.leave hturn hother rfl (fun _ => rfl) nofun rfl rfl rfl rfl rfl rfl
      · split
        · rename_i hcancel
          split
          · exact h.requeue hturn
          · split
            · rename_i hhandling
              exact h.drop hturn hcancel hhandling
            · rename_i hhandling
              exact h.executeCancel hturn hcancel (by simpa using hhandling)
        · rename_i hother
          exact h.leave hturn hother rfl (fun _ => rfl) nofun rfl rfl rfl rfl rfl rfl

/-- A message that answers no cancel is sent. -/
theorem Handle.Sound.send (h : handle.Sound) {opCode : ServiceActionOpCode} {data : Bytes}
    (haccept : opCode ≠ .actionToServerCancelAccept)
    (hreject : opCode ≠ .actionToServerCancelReject) : (handle.send opCode data none).Sound where
  balanced := by
    intro number
    have hbalanced := h.balanced number
    simpa [Handle.send, Handle.waits, Handle.answers, List.countP_append] using hbalanced
  exclusive := h.exclusive
  contended := by
    intro hcontended
    rcases h.contended hcontended with hcancelling | ⟨number, hanswers⟩
    · exact .inl hcancelling
    · refine .inr ⟨number, ?_⟩
      simpa [Handle.send, Handle.answers, List.countP_append] using hanswers
  replies := by
    intro message hmessage
    rcases List.mem_append.mp hmessage with hold | hnew
    · exact h.replies message hold
    · rw [List.mem_singleton.mp hnew]
      simp [haccept, hreject]
  done := h.done

/-- A step that changes `handlingGoal` and `done` at most. -/
theorem Handle.Sound.setDone (h : handle.Sound)
    (hturn : ∀ number, handle.turn.cancels number = 0) {turn : Turn}
    (hafter : ∀ number, turn.cancels number = 0) {handlingGoal done : Bool}
    (hdone : turn = .returned → done = true) :
    { handle with turn := turn, handlingGoal := handlingGoal, done := done }.Sound where
  balanced := by
    intro number
    have hbalanced := h.balanced number
    rw [hturn] at hbalanced
    simpa [Handle.waits, Handle.answers, hafter] using hbalanced
  exclusive := h.exclusive
  contended := h.contended
  replies := h.replies
  done := hdone

theorem Handle.Sound.executeGoal (h : handle.Sound) (available : Bool) :
    (handle.executeGoal config available).Sound := by
  unfold Handle.executeGoal
  cases hturn : handle.turn with
  | waiting | processing | returned => exact h
  | executingGoal message =>
      have hcancels : ∀ number, handle.turn.cancels number = 0 := by
        rw [hturn]
        exact fun _ => rfl
      simp only
      split
      · exact h.setDone hcancels (fun _ => rfl) nofun
      · exact (h.send (by decide) (by decide)).setDone hcancels (fun _ => rfl) nofun

/-- The callbacks that have nothing to do with a cancel. -/
theorem Handle.Sound.callback (h : handle.Sound) (callback : Callback) :
    (handle.callback callback).Sound := by
  have hsent : (handle.send callback.opCode callback.data none).Sound :=
    h.send (by cases callback <;> simp [Callback.opCode])
      (by cases callback <;> simp [Callback.opCode])
  refine ⟨hsent.balanced, ?_, hsent.contended, hsent.replies, hsent.done⟩
  have hexclusive := hsent.exclusive
  have hflags : callback.flags.count .clearHandlingCancel = 0 := by cases callback <;> rfl
  simp only [Handle.Exclusive, Handle.clears, Handle.callback, List.flatten_cons,
    List.count_append, hflags, Nat.zero_add] at hexclusive ⊢
  exact hexclusive

/-- The one callback that `asyncCancelGoal` leads to answers the cancel. -/
theorem Handle.Sound.cancelCallback (h : handle.Sound) (callback : CancelCallback)
    (hpending : handle.cancelling.isSome = true) : (handle.cancelCallback callback).Sound := by
  obtain ⟨cancel, hcancelling⟩ := Option.isSome_iff_exists.mp hpending
  refine ⟨fun number => ?_, ?_, fun _ => .inr ⟨cancel, ?_⟩, fun message hmessage => ?_, h.done⟩
  · have hbalanced := h.balanced number
    simp only [Handle.cancelCallback, Handle.send, Handle.waits, Handle.answers, hcancelling,
      Option.toList_some, Option.toList_none, List.count_nil, List.count_singleton,
      List.countP_append, List.countP_singleton] at hbalanced ⊢
    by_cases hsame : cancel = number <;> simp [hsame] at hbalanced ⊢ <;> omega
  · have hexclusive := h.exclusive
    have hflags : callback.flags.count .clearHandlingCancel = 1 := by cases callback <;> rfl
    simp only [Handle.Exclusive, Handle.clears, Handle.cancelCallback, Handle.send, hcancelling,
      Option.toList_some, Option.toList_none, List.length_singleton, List.length_nil,
      List.flatten_cons, List.count_append, hflags, Nat.zero_add] at hexclusive ⊢
    exact hexclusive
  · simp [Handle.cancelCallback, Handle.send, Handle.answers, hcancelling, List.countP_append]
  · rcases List.mem_append.mp hmessage with hold | hnew
    · exact h.replies message hold
    · rw [List.mem_singleton.mp hnew]
      cases callback <;> simp [hcancelling, CancelCallback.opCode]

theorem Handle.clears_setFlag {flag : Flag} {rest : List Flag}
    (hflags : (flag :: rest) ∈ handle.settling) :
    handle.clears = (handle.setFlag flag rest).clears +
      if flag = .clearHandlingCancel then 1 else 0 := by
  have hperm := (List.perm_cons_erase hflags).flatten.count_eq Flag.clearHandlingCancel
  cases flag <;> simp [Handle.clears, Handle.setFlag, Flag.set, hperm]

theorem Handle.Sound.setFlag (h : handle.Sound) {flag : Flag} {rest : List Flag}
    (hflags : (flag :: rest) ∈ handle.settling) : (handle.setFlag flag rest).Sound := by
  have hexclusive := h.exclusive
  have hclears := Handle.clears_setFlag hflags
  cases flag with
  | setDone =>
      rw [Handle.Exclusive, hclears, if_neg (by simp)] at hexclusive
      exact ⟨h.balanced, hexclusive, h.contended, h.replies, fun _ => rfl⟩
  | clearHandlingGoal =>
      rw [Handle.Exclusive, hclears, if_neg (by simp)] at hexclusive
      exact ⟨h.balanced, hexclusive, h.contended, h.replies, h.done⟩
  | clearHandlingCancel =>
      refine ⟨h.balanced, ?_, ?_, h.replies, h.done⟩
      · rw [Handle.Exclusive, hclears, if_pos rfl] at hexclusive
        show handle.cancelling.toList.length +
          (handle.setFlag .clearHandlingCancel rest).clears = 0
        split at hexclusive <;> omega
      · rintro (hcancel | hdropped)
        · cases hcancel
        · exact h.contended (.inr hdropped)

/-- What names a handle and what was queued for it. -/
structure Handle.Same (before after : Handle) : Prop where
  gID : after.gID = before.gID
  queued : after.queued = before.queued

theorem Handle.same_wake : handle.Same handle.wake := by
  unfold Handle.wake
  split
  · exact ⟨rfl, rfl⟩
  · split <;> exact ⟨rfl, rfl⟩

theorem Handle.same_process : handle.Same handle.process := by
  unfold Handle.process
  split
  · split
    · split <;> exact ⟨rfl, rfl⟩
    · split
      · split
        · exact ⟨rfl, rfl⟩
        · split <;> exact ⟨rfl, rfl⟩
      · exact ⟨rfl, rfl⟩
  all_goals exact ⟨rfl, rfl⟩

theorem Handle.same_executeGoal {available : Bool} :
    handle.Same (handle.executeGoal config available) := by
  unfold Handle.executeGoal
  split
  · split <;> exact ⟨rfl, rfl⟩
  all_goals exact ⟨rfl, rfl⟩

theorem Handle.same_setFlag {flag : Flag} {rest : List Flag} :
    handle.Same (handle.setFlag flag rest) := by
  cases flag <;> exact ⟨rfl, rfl⟩

/-- Every handle is sound, and holds the cancels that were received for it. -/
structure Queues (s : State) : Prop where
  sound : ∀ handle, (s.objects handle).Sound
  keyed : ∀ key handle, s.handles key = some handle →
    handle < s.created ∧ ServiceActionHandle.gIDString (s.objects handle).gID = key
  queued : ∀ number transfer handle, s.received[number]? = some (transfer, some handle) →
    transfer.opCode = .actionToClientCancel →
      handle < s.created ∧ number ∈ (s.objects handle).queued ∧
        (s.objects handle).gID = transfer.gID
  logged : ∀ handle < s.created, ∀ number ∈ (s.objects handle).queued, ∃ transfer,
    s.received[number]? = some (transfer, some handle) ∧
      transfer.opCode = .actionToClientCancel
  distinct : ∀ handle, (s.objects handle).queued.Nodup

theorem Queues.start : Queues .start where
  sound := fun _ => Handle.sound_create (by simp)
  keyed := nofun
  queued := nofun
  logged := nofun
  distinct := fun _ => List.nodup_nil

/-- A step of one handle. -/
theorem Queues.setObject (h : Queues s) {place : Nat} {object : Handle}
    (hsound : object.Sound) (hsame : (s.objects place).Same object) :
    Queues (s.setObject place object) := by
  have hgID : ∀ other, ((s.setObject place object).objects other).gID = (s.objects other).gID := by
    intro other
    by_cases hother : other = place
    · subst hother
      simpa [State.setObject] using hsame.gID
    · simp [State.setObject, hother]
  have hqueued : ∀ other,
      ((s.setObject place object).objects other).queued = (s.objects other).queued := by
    intro other
    by_cases hother : other = place
    · subst hother
      simpa [State.setObject] using hsame.queued
    · simp [State.setObject, hother]
  refine ⟨fun other => ?_, fun key other hkey => ?_,
    fun number transfer other hreceived hcancel => ?_,
    fun other hother number hnumber => ?_, fun other => ?_⟩
  · by_cases hother : other = place
    · subst hother
      simpa [State.setObject] using hsound
    · simpa [State.setObject, hother] using h.sound other
  · rw [hgID]
    exact h.keyed key other hkey
  · rw [hqueued, hgID]
    exact h.queued number transfer other hreceived hcancel
  · rw [hqueued] at hnumber
    exact h.logged other hother number hnumber
  · rw [hqueued]
    exact h.distinct other

/-- An entry of the log is an old one or the one that is added. -/
theorem getElem?_append_eq_some {received : List (Transfer × Option Nat)}
    {entry found : Transfer × Option Nat} {number : Nat}
    (h : (received ++ [entry])[number]? = some found) :
    received[number]? = some found ∨ (number = received.length ∧ found = entry) := by
  rcases Nat.lt_or_ge number received.length with hlt | hge
  · left
    rwa [List.getElem?_append_left hlt] at h
  · right
    rw [List.getElem?_append_right hge] at h
    have hzero : number - received.length = 0 := by
      by_contra hpositive
      rw [List.getElem?_eq_none (by simp; omega)] at h
      cases h
    rw [hzero] at h
    exact ⟨by omega, (Option.some.inj h).symm⟩

theorem getElem?_append_of_eq_some {received : List (Transfer × Option Nat)}
    {entry found : Transfer × Option Nat} {number : Nat} (h : received[number]? = some found) :
    (received ++ [entry])[number]? = some found := by
  rw [List.getElem?_append_left (List.getElem?_eq_some_iff.mp h).1]
  exact h

/-- A message that leads to no handle is received. -/
theorem Queues.log (h : Queues s) (transfer : Transfer) : Queues (s.log transfer) where
  sound := h.sound
  keyed := h.keyed
  queued := by
    intro number received handle hreceived hcancel
    rcases getElem?_append_eq_some hreceived with hold | ⟨-, hnew⟩
    · exact h.queued number received handle hold hcancel
    · cases hnew
  logged := by
    intro handle hhandle number hnumber
    obtain ⟨received, hreceived, hcancel⟩ := h.logged handle hhandle number hnumber
    exact ⟨received, getElem?_append_of_eq_some hreceived, hcancel⟩
  distinct := h.distinct

/-- A goal creates a handle, for which nothing was queued. -/
theorem Queues.createHandle (h : Queues s) {transfer : Transfer}
    (hgoal : transfer.opCode ≠ .actionToClientCancel) : Queues (s.createHandle transfer) := by
  have hother : ∀ {other}, other < s.created →
      (s.createHandle transfer).objects other = s.objects other := by
    intro other hlt
    exact Function.update_of_ne (Nat.ne_of_lt hlt) ..
  have hnew : (s.createHandle transfer).objects s.created =
      Handle.create ⟨transfer, s.received.length⟩ := Function.update_self ..
  have hcases : ∀ other, (s.createHandle transfer).objects other = s.objects other ∨
      (s.createHandle transfer).objects other = Handle.create ⟨transfer, s.received.length⟩ := by
    intro other
    by_cases hsame : other = s.created
    · exact .inr (hsame ▸ hnew)
    · exact .inl (Function.update_of_ne hsame ..)
  refine ⟨fun other => ?_, fun key other hkey => ?_,
    fun number received other hreceived hcancel => ?_,
    fun other hlt number hnumber => ?_, fun other => ?_⟩
  · rcases hcases other with hold | hcreated
    · rw [hold]
      exact h.sound other
    · rw [hcreated]
      exact Handle.sound_create hgoal
  · rcases KeyMap.insert_eq_some hkey with hold | ⟨rfl, rfl, -⟩
    · obtain ⟨hlt, hgID⟩ := h.keyed key other hold
      exact ⟨Nat.lt_succ_of_lt hlt, by rw [hother hlt]; exact hgID⟩
    · exact ⟨Nat.lt_succ_self _, by rw [hnew]; rfl⟩
  · rcases getElem?_append_eq_some hreceived with hold | ⟨-, hadded⟩
    · obtain ⟨hlt, hqueued, hgID⟩ := h.queued number received other hold hcancel
      rw [hother hlt]
      exact ⟨Nat.lt_succ_of_lt hlt, hqueued, hgID⟩
    · obtain ⟨rfl, -⟩ := Prod.mk.inj hadded
      exact absurd hcancel hgoal
  · rcases Nat.lt_succ_iff_lt_or_eq.mp hlt with hold | hlast
    · rw [hother hold] at hnumber
      obtain ⟨received, hreceived, hcancel⟩ := h.logged other hold number hnumber
      exact ⟨received, getElem?_append_of_eq_some hreceived, hcancel⟩
    · rw [hlast, hnew] at hnumber
      cases hnumber
  · rcases hcases other with hold | hcreated
    · rw [hold]
      exact h.distinct other
    · rw [hcreated]
      exact List.nodup_nil

/-- A cancel is queued for the handle of its gid. -/
theorem Queues.queueCancel (h : Queues s) {transfer : Transfer} {place : Nat}
    (hcancel : transfer.opCode = .actionToClientCancel)
    (hfound : s.handles (ServiceActionHandle.gIDString transfer.gID) = some place) :
    Queues (s.queueCancel transfer place) := by
  obtain ⟨hcreated, hkey⟩ := h.keyed _ place hfound
  have hgID : (s.objects place).gID = transfer.gID := ServiceActionHandle.gIDString_inj.mp hkey
  have hself : (s.queueCancel transfer place).objects place =
      (s.objects place).push ⟨transfer, s.received.length⟩ := Function.update_self ..
  have hother : ∀ {other}, other ≠ place →
      (s.queueCancel transfer place).objects other = s.objects other :=
    fun hne => Function.update_of_ne hne ..
  have hfresh : s.received.length ∉ (s.objects place).queued := by
    intro hmem
    obtain ⟨received, hreceived, -⟩ := h.logged place hcreated _ hmem
    exact absurd (List.getElem?_eq_some_iff.mp hreceived).1 (Nat.lt_irrefl _)
  have hlast : (s.queueCancel transfer place).received[s.received.length]? =
      some (transfer, some place) := List.getElem?_concat_length ..
  refine ⟨fun other => ?_, fun key other hentry => ?_,
    fun number received other hreceived hop => ?_,
    fun other hlt number hnumber => ?_, fun other => ?_⟩
  · by_cases hsame : other = place
    · rw [hsame, hself]
      exact (h.sound place).push hcancel
    · rw [hother hsame]
      exact h.sound other
  · obtain ⟨hlt, hold⟩ := h.keyed key other hentry
    refine ⟨hlt, ?_⟩
    by_cases hsame : other = place
    · rw [hsame, hself]
      rw [hsame] at hold
      exact hold
    · rw [hother hsame]
      exact hold
  · rcases getElem?_append_eq_some hreceived with hold | ⟨hnumber, hadded⟩
    · obtain ⟨hlt, hqueued, hold⟩ := h.queued number received other hold hop
      refine ⟨hlt, ?_⟩
      by_cases hsame : other = place
      · rw [hsame, hself]
        rw [hsame] at hqueued hold
        exact ⟨List.mem_append_left _ hqueued, hold⟩
      · rw [hother hsame]
        exact ⟨hqueued, hold⟩
    · obtain ⟨rfl, hplace⟩ := Prod.mk.inj hadded
      obtain rfl := Option.some.inj hplace
      rw [hself, hnumber]
      exact ⟨hcreated, List.mem_append_right _ (List.mem_singleton_self _), hgID⟩
  · by_cases hsame : other = place
    · subst hsame
      rw [hself] at hnumber
      rcases List.mem_append.mp hnumber with hold | hnew
      · obtain ⟨received, hreceived, hop⟩ := h.logged other hcreated number hold
        exact ⟨received, getElem?_append_of_eq_some hreceived, hop⟩
      · rw [List.mem_singleton.mp hnew]
        exact ⟨transfer, hlast, hcancel⟩
    · rw [hother hsame] at hnumber
      obtain ⟨received, hreceived, hop⟩ := h.logged other hlt number hnumber
      exact ⟨received, getElem?_append_of_eq_some hreceived, hop⟩
  · by_cases hsame : other = place
    · rw [hsame, hself]
      have hnodup := List.Nodup.concat hfresh (h.distinct place)
      rwa [List.concat_eq_append] at hnodup
    · rw [hother hsame]
      exact h.distinct other

theorem Queues.receive (h : Queues s) (transfer : Transfer) : Queues (s.handle transfer) := by
  have hreject : Queues (s.reject transfer) := by
    have hlog := h.log transfer
    exact ⟨hlog.sound, hlog.keyed, hlog.queued, hlog.logged, hlog.distinct⟩
  unfold State.handle
  simp only
  split
  · rename_i hgoal
    split
    · exact hreject
    · exact h.createHandle (by simp [hgoal])
  · split
    · rename_i hcancel
      split
      · exact hreject
      · rename_i place hfound
        exact h.queueCancel hcancel hfound
    · exact h.log transfer

/-- What one step keeps. -/
theorem Queues.next (h : Queues s) (henabled : enabled s label = true) :
    Queues (next config s label) := by
  cases label with
  | handle transfer => exact h.receive transfer
  | wake place =>
      simp only [enabled, Bool.and_eq_true, beq_iff_eq] at henabled
      have hwoken := h.setObject ((h.sound place).wake henabled.1.2) Handle.same_wake
      exact ⟨hwoken.sound, hwoken.keyed, hwoken.queued, hwoken.logged, hwoken.distinct⟩
  | process place => exact h.setObject (h.sound place).process Handle.same_process
  | executeGoal place available =>
      exact h.setObject ((h.sound place).executeGoal available) Handle.same_executeGoal
  | callback place callback => exact h.setObject ((h.sound place).callback callback) ⟨rfl, rfl⟩
  | cancelCallback place callback =>
      simp only [enabled, Bool.and_eq_true] at henabled
      exact h.setObject ((h.sound place).cancelCallback callback henabled.2) ⟨rfl, rfl⟩
  | setFlag place flag rest =>
      simp only [enabled, Bool.and_eq_true, decide_eq_true_eq] at henabled
      exact h.setObject ((h.sound place).setFlag henabled.2) Handle.same_setFlag
  | takeRemove =>
      simp only [ActionClient.next, State.takeRemove]
      split
      · exact h
      · exact ⟨h.sound, h.keyed, h.queued, h.logged, h.distinct⟩
  | eraseHandle =>
      simp only [ActionClient.next, State.eraseHandle]
      split
      · exact h
      · exact ⟨h.sound, fun key other hkey => h.keyed key other (KeyMap.erase_eq_some hkey).2,
          h.queued, h.logged, h.distinct⟩

/-- The thread waits for a message or has returned, and no callback is to come or
in progress. -/
structure Handle.Idle (handle : Handle) : Prop where
  turn : (handle.turn = .waiting ∧ handle.waitQueue = [] ∧ handle.done = false) ∨
    handle.turn = .returned
  cancelling : handle.cancelling = none
  settling : ∀ flags ∈ handle.settling, flags = []

def State.Idle (s : State) : Prop :=
  ∀ handle, handle < s.created → (s.objects handle).Idle

/-- What has become of a cancel: one message answers it, it was dropped while
another one was handled, or it was still queued when the goal was done. -/
inductive Outcome (handle : Handle) (number : Nat) : Prop where
  | answered : handle.answers number = 1 → number ∉ handle.dropped → handle.waits number = 0 →
      Outcome handle number
  | dropped (other : Nat) : handle.answers number = 0 → number ∈ handle.dropped →
      other ≠ number → handle.answers other = 1 → Outcome handle number
  | left : handle.answers number = 0 → handle.waits number = 1 → handle.done = true →
      Outcome handle number

theorem Handle.Sound.outcome (h : handle.Sound) (hdistinct : handle.queued.Nodup)
    (hqueued : number ∈ handle.queued) (hidle : handle.Idle) : Outcome handle number := by
  have hturn : ∀ number, handle.turn.cancels number = 0 := by
    intro number
    rcases hidle.turn with ⟨hwaiting, -⟩ | hreturned
    · rw [hwaiting]
      rfl
    · rw [hreturned]
      rfl
  have hplaces : ∀ number, handle.queued.count number =
      handle.waits number + handle.answers number + handle.dropped.count number := by
    intro number
    simpa [hturn, hidle.cancelling] using h.balanced number
  have hone := hplaces number
  rw [List.count_eq_one_of_mem hdistinct hqueued] at hone
  by_cases hdropped : number ∈ handle.dropped
  · have hcount : 0 < handle.dropped.count number := List.count_pos_iff.mpr hdropped
    have hanswers : handle.answers number = 0 := by omega
    rcases h.contended (.inr (List.ne_nil_of_mem hdropped)) with hcancelling | ⟨other, hother⟩
    · exact absurd hidle.cancelling hcancelling
    · refine .dropped other hanswers hdropped ?_ ?_
      · rintro rfl
        omega
      · have hatMost := List.nodup_iff_count_le_one.mp hdistinct other
        have hbalance := hplaces other
        omega
  · have hcount : handle.dropped.count number = 0 := List.count_eq_zero.mpr hdropped
    by_cases hwaits : handle.waits number = 0
    · exact .answered (by omega) hdropped hwaits
    · refine .left (by omega) (by omega) ?_
      rcases hidle.turn with ⟨-, hempty, -⟩ | hreturned
      · rw [Handle.waits, hempty] at hwaits
        exact absurd rfl hwaits
      · exact h.done hreturned

/-- What a step adds to the log of the messages received. -/
def State.entry (s : State) : Label → Option (Transfer × Option Nat)
  | .handle transfer =>
      let found := s.handles (ServiceActionHandle.gIDString transfer.gID)
      some (transfer,
        if transfer.opCode = .actionToClientGoal then
          if found.isSome then none else some s.created
        else if transfer.opCode = .actionToClientCancel then found
        else none)
  | _ => none

instance (handle : Handle) : Decidable handle.Idle :=
  decidable_of_iff
    (((handle.turn = .waiting ∧ handle.waitQueue = [] ∧ handle.done = false) ∨
      handle.turn = .returned) ∧ handle.cancelling = none ∧ ∀ flags ∈ handle.settling, flags = [])
    ⟨fun h => ⟨h.1, h.2.1, h.2.2⟩, fun h => ⟨h.turn, h.cancelling, h.settling⟩⟩

instance (s : State) : Decidable s.Idle :=
  inferInstanceAs (Decidable (∀ handle, handle < s.created → (s.objects handle).Idle))

private def goalTransfer : Transfer := ⟨.actionToClientGoal, [7], some []⟩

private def cancelTransfer : Transfer := ⟨.actionToClientCancel, [7], some []⟩

/-- The goal is accepted, and a cancel reaches the plugin. -/
private def cancelled : List Label :=
  [.handle goalTransfer, .wake 0, .process 0, .executeGoal 0 true, .callback 0 .goalAccepted,
    .setFlag 0 .clearHandlingGoal [], .handle cancelTransfer, .wake 0, .process 0]

/-- A cancel that the plugin rejects. -/
private def rejected : List Label :=
  cancelled ++ [.cancelCallback 0 .cancelRejected, .setFlag 0 .clearHandlingCancel []]

/-- A second cancel comes while the first one is handled. -/
private def contended : List Label :=
  cancelled ++ [.handle cancelTransfer, .wake 0, .process 0, .cancelCallback 0 .cancelRejected,
    .setFlag 0 .clearHandlingCancel []]

end ActionClient

end Ros2Connect
