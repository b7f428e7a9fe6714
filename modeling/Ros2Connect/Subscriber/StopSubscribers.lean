import Ros2Connect.GlobalConfig
import Ros2Connect.Lib.Transition

/-!
The run loop of a `SubscriberManager` against `stopThread` and `joinThread` from
another thread. Both destroy subscribers, the loop also creates them; the map
they share is not locked. Accesses to the map are taken one after the other, and
a message may be any. The clock subscriber, which has no part in the map, is left
out.
-/

namespace Ros2Connect

open Lib

namespace StopSubscribers

/-- A created `SubscriberBase`; the permanent ones have the number 0. -/
structure Subscriber where
  topic : Topic
  number : Nat
  deriving Repr, DecidableEq

def Subscriber.channel (subscriber : Subscriber) : UInt8 := subscriber.topic.channel

/-- The `std::thread` of a `ThreadedSubscriber`. -/
inductive ThreadState where
  | null
  | running
  /-- `run` has returned. -/
  | finished
  deriving Repr, DecidableEq

structure SubscriberThread where
  stopping : Bool
  thread : ThreadState
  deriving Repr, DecidableEq

/-- The parts of `unsubscribe`. -/
inductive UnsubscribeStep where
  | stopThread
  | joinThread
  | erase
  deriving Repr, DecidableEq

/-- Where the run loop is. -/
inductive Turn where
  | waiting
  /-- The topic of the message is known and its channel was looked up. -/
  | found (topic : Topic) (value : Bool) (it : Option Subscriber)
  /-- In `subscribe`, past the check of `stopping`. -/
  | subscribing (topic : Topic)
  | created (subscriber : Subscriber)
  | started (subscriber : Subscriber)
  | unsubscribing (subscriber : Subscriber) (step : UnsubscribeStep)
  | returned
  deriving Repr, DecidableEq

/-- Where the thread is that calls `stopThread` and then `joinThread`. -/
inductive Stopper where
  | idle
  /-- In the loop of `onStopThread`. -/
  | emptying
  | unsubscribing (subscriber : Subscriber) (step : UnsubscribeStep)
  | emptied
  | joined
  deriving Repr, DecidableEq

structure State where
  subscribers : KeyMap UInt8 Subscriber
  threads : Subscriber → SubscriberThread
  /-- How many subscribers the loop has created. -/
  count : Nat
  stopping : Bool
  turn : Turn
  stopper : Stopper

inductive Label where
  | receive (channel : UInt8) (value : Bool)
  | checkStopping
  | create
  | startThread (spawned : Bool)
  | insert
  | unsubscribe
  | leaveRun
  | finish (subscriber : Subscriber)
  | stop
  | takeFirst (channel : UInt8)
  | stopperUnsubscribe
  | leaveLoop
  | joinThread
  deriving Repr, DecidableEq

namespace State

/-- The permanent subscribers, whose threads `onBeforeStartThread` has started. -/
def start (config : GlobalConfig) : State :=
  let subscribers : KeyMap UInt8 Subscriber := fun channel =>
    (topicFor (config.subscriber.filter Topic.permanent) channel).map fun topic => ⟨topic, 0⟩
  { subscribers
    threads := fun subscriber =>
      if subscribers subscriber.channel = some subscriber ∧ subscriber.topic.useOwnThread then
        ⟨false, .running⟩
      else ⟨false, .null⟩
    count := 0
    stopping := false
    turn := .waiting
    stopper := .idle }

/-- The loop takes a message and looks its channel up. -/
def receive (config : GlobalConfig) (s : State) (channel : UInt8) (value : Bool) : State :=
  match topicFor config.subscriber channel with
  | some topic => { s with turn := .found topic value (s.subscribers channel) }
  | none => s

/-- The checks that decide whether to subscribe or to unsubscribe. -/
def checkStopping (s : State) : State :=
  match s.turn with
  | .found topic true none =>
      { s with turn := if s.stopping then .waiting else .subscribing topic }
  | .found topic false (some subscriber) =>
      { s with turn := if s.stopping || topic.permanent then .waiting
                       else .unsubscribing subscriber .stopThread }
  | .found _ _ _ => { s with turn := .waiting }
  | _ => s

def create (s : State) : State :=
  match s.turn with
  | .subscribing topic =>
      { s with turn := .created ⟨topic, s.count + 1⟩, count := s.count + 1 }
  | _ => s

/-- The system may refuse to create the thread. -/
def startThread (s : State) (spawned : Bool) : State :=
  match s.turn with
  | .created subscriber =>
      { s with
        turn := .started subscriber
        threads := Function.update s.threads subscriber
          ⟨false, if subscriber.topic.useOwnThread && spawned then .running else .null⟩ }
  | _ => s

def insert (s : State) : State :=
  match s.turn with
  | .started subscriber =>
      { s with
        turn := .waiting
        subscribers := s.subscribers.insert subscriber.channel subscriber }
  | _ => s

/-- A part of `unsubscribe`, which either thread may execute. -/
def unsubscribe (s : State) (subscriber : Subscriber) : UnsubscribeStep → State
  | .stopThread =>
      { s with threads := Function.update s.threads subscriber
                 { s.threads subscriber with stopping := true } }
  | .joinThread =>
      { s with threads := Function.update s.threads subscriber
                 { s.threads subscriber with thread := .null } }
  | .erase => { s with subscribers := s.subscribers.erase subscriber.channel }

/-- `join` returns when `run` has. -/
def unsubscribeReady (s : State) (subscriber : Subscriber) : UnsubscribeStep → Bool
  | .joinThread => (s.threads subscriber).thread != .running
  | .stopThread | .erase => true

def finish (s : State) (subscriber : Subscriber) : State :=
  { s with threads := Function.update s.threads subscriber
             { s.threads subscriber with thread := .finished } }

def takeFirst (s : State) (channel : UInt8) : State :=
  match s.subscribers channel with
  | some subscriber => { s with stopper := .unsubscribing subscriber .stopThread }
  | none => s

/-- `this->subscribers.empty()`. -/
def empty (s : State) : Bool :=
  (List.range 256).all fun channel => (s.subscribers (UInt8.ofNat channel)).isNone

end State

/-- The loop goes on to the next part of `unsubscribe`. -/
def Turn.after (subscriber : Subscriber) : UnsubscribeStep → Turn
  | .stopThread => .unsubscribing subscriber .joinThread
  | .joinThread => .unsubscribing subscriber .erase
  | .erase => .waiting

def Stopper.after (subscriber : Subscriber) : UnsubscribeStep → Stopper
  | .stopThread => .unsubscribing subscriber .joinThread
  | .joinThread => .unsubscribing subscriber .erase
  | .erase => .emptying

/-- The loop may have left its wait before `stopping` was set. -/
def enabled (s : State) : Label → Bool
  | .receive _ _ => s.turn == .waiting
  | .checkStopping => (s.turn matches .found ..)
  | .create => (s.turn matches .subscribing ..)
  | .startThread _ => (s.turn matches .created ..)
  | .insert => (s.turn matches .started ..)
  | .unsubscribe =>
      match s.turn with
      | .unsubscribing subscriber step => s.unsubscribeReady subscriber step
      | _ => false
  | .leaveRun => s.turn == .waiting && s.stopping
  | .finish subscriber =>
      (s.threads subscriber).thread == .running && (s.threads subscriber).stopping
  | .stop => s.stopper == .idle
  | .takeFirst channel => s.stopper == .emptying && (s.subscribers channel).isSome
  | .stopperUnsubscribe =>
      match s.stopper with
      | .unsubscribing subscriber step => s.unsubscribeReady subscriber step
      | _ => false
  | .leaveLoop => s.stopper == .emptying && s.empty
  | .joinThread => s.stopper == .emptied && s.turn == .returned

def next (config : GlobalConfig) (s : State) : Label → State
  | .receive channel value => s.receive config channel value
  | .checkStopping => s.checkStopping
  | .create => s.create
  | .startThread spawned => s.startThread spawned
  | .insert => s.insert
  | .unsubscribe =>
      match s.turn with
      | .unsubscribing subscriber step =>
          { s.unsubscribe subscriber step with turn := Turn.after subscriber step }
      | _ => s
  | .leaveRun => { s with turn := .returned }
  | .finish subscriber => s.finish subscriber
  | .stop => { s with stopper := .emptying, stopping := true }
  | .takeFirst channel => s.takeFirst channel
  | .stopperUnsubscribe =>
      match s.stopper with
      | .unsubscribing subscriber step =>
          { s.unsubscribe subscriber step with stopper := Stopper.after subscriber step }
      | _ => s
  | .leaveLoop => { s with stopper := .emptied }
  | .joinThread => { s with stopper := .joined }

/-- The runs that go on from a state. -/
def machineFrom (config : GlobalConfig) (s : State) : Machine State Label where
  start := s
  enabled := enabled
  next := next config

def machine (config : GlobalConfig) : Machine State Label := machineFrom config (.start config)

/-- The channel of a `subscribe` that has passed its check and not inserted yet. -/
def Turn.inFlight : Turn → Option UInt8
  | .subscribing topic => some topic.channel
  | .created subscriber | .started subscriber => some subscriber.channel
  | .waiting | .found .. | .unsubscribing .. | .returned => none

/-- No `subscribe` is under way when `onStopThread` finds the map empty. -/
def NotInFlight (s : State) : Label → Prop
  | .leaveLoop => s.turn.inFlight = none
  | _ => True

instance (s : State) : DecidablePred (NotInFlight s)
  | .leaveLoop => inferInstanceAs (Decidable (s.turn.inFlight = none))
  | .receive _ _ | .checkStopping | .create | .startThread _ | .insert | .unsubscribe | .leaveRun
  | .finish _ | .stop | .takeFirst _ | .stopperUnsubscribe | .joinThread => isTrue trivial

/-- What a thread in `unsubscribe` knows: nobody else has put a subscriber under
the channel, and what it erases does not run. -/
structure Holds (subscribers : KeyMap UInt8 Subscriber) (threads : Subscriber → SubscriberThread)
    (subscriber : Subscriber) (step : UnsubscribeStep) : Prop where
  entry : subscribers subscriber.channel = some subscriber ∨
    subscribers subscriber.channel = none
  thread : step = .erase → (threads subscriber).thread ≠ .running

/-- Every running thread belongs to a subscriber in the map, or to the one that is
about to be inserted. -/
structure Inv (s : State) : Prop where
  channels : ∀ channel subscriber, s.subscribers channel = some subscriber →
    subscriber.channel = channel
  alive : ∀ subscriber, (s.threads subscriber).thread = .running →
    s.subscribers subscriber.channel = some subscriber ∨ s.turn = .started subscriber
  flight : ∀ channel, s.turn.inFlight = some channel → s.subscribers channel = none
  found : ∀ topic value it, s.turn = .found topic value it → s.stopping = false →
    s.subscribers topic.channel = it
  turnHolds : ∀ subscriber step, s.turn = .unsubscribing subscriber step →
    Holds s.subscribers s.threads subscriber step
  stopperHolds : ∀ subscriber step, s.stopper = .unsubscribing subscriber step →
    Holds s.subscribers s.threads subscriber step ∧ s.turn.inFlight ≠ some subscriber.channel
  stopping : s.stopper ≠ .idle → s.stopping = true
  emptied : s.stopper = .emptied ∨ s.stopper = .joined →
    s.turn.inFlight = none ∧ ∀ channel, s.subscribers channel = none
  joined : s.stopper = .joined → s.turn = .returned

variable {config : GlobalConfig} {s t : State} {subscriber : Subscriber}
  {step : UnsubscribeStep}

theorem Inv.start (config : GlobalConfig) : Inv (.start config) where
  channels := by
    intro channel subscriber h
    obtain ⟨topic, htopic, rfl⟩ := Option.map_eq_some_iff.mp h
    exact (topicFor_eq_some htopic).2
  alive := by
    intro subscriber h
    simp only [State.start] at h ⊢
    split at h
    · next hpermanent => exact Or.inl hpermanent.1
    · cases h
  flight := fun _ h => nomatch h
  found := fun _ _ _ h => nomatch h
  turnHolds := fun _ _ h => nomatch h
  stopperHolds := fun _ _ h => nomatch h
  stopping := fun h => absurd rfl h
  emptied := by
    rintro (h | h) <;> cases h
  joined := fun h => nomatch h

/-- The loop goes on without touching the map or a thread. -/
theorem Inv.setTurn (h : Inv s) {turn : Turn}
    (hturn : s.turn ≠ .returned ∧ ∀ subscriber, s.turn ≠ .started subscriber)
    (hflight : ∀ channel, turn.inFlight = some channel → s.turn.inFlight = some channel ∨
      (s.stopping = false ∧ s.subscribers channel = none))
    (hfound : ∀ topic value it, turn = .found topic value it →
      s.subscribers topic.channel = it)
    (hholds : ∀ subscriber step, turn = .unsubscribing subscriber step →
      Holds s.subscribers s.threads subscriber step) : Inv { s with turn } where
  channels := h.channels
  alive := by
    intro subscriber hrunning
    rcases h.alive subscriber hrunning with hentry | hstarted
    · exact Or.inl hentry
    · exact absurd hstarted (hturn.2 subscriber)
  flight := by
    intro channel hchannel
    rcases hflight channel hchannel with hold | ⟨-, hnone⟩
    · exact h.flight channel hold
    · exact hnone
  found := fun topic value it hnext _ => hfound topic value it hnext
  turnHolds := hholds
  stopperHolds := by
    intro subscriber step hstopper
    obtain ⟨hentry, hother⟩ := h.stopperHolds subscriber step hstopper
    refine ⟨hentry, fun hchannel => ?_⟩
    rcases hflight _ hchannel with hold | ⟨hrunning, -⟩
    · exact hother hold
    · have hstopping := h.stopping (by rw [hstopper]; nofun)
      rw [hrunning] at hstopping
      cases hstopping
  stopping := h.stopping
  emptied := by
    intro hstopper
    obtain ⟨hnone, hempty⟩ := h.emptied hstopper
    refine ⟨?_, hempty⟩
    change turn.inFlight = none
    cases hchannel : turn.inFlight with
    | none => rfl
    | some channel =>
        exfalso
        rcases hflight channel hchannel with hold | ⟨hrunning, -⟩
        · rw [hnone] at hold
          cases hold
        · have hidle : s.stopper ≠ .idle := by
            rintro hidle
            rw [hidle] at hstopper
            rcases hstopper with hstopper | hstopper <;> cases hstopper
          rw [h.stopping hidle] at hrunning
          cases hrunning
  joined := fun hstopper => absurd (h.joined hstopper) hturn.1

/-- The other thread goes on without touching the map or a thread. -/
theorem Inv.setStopper (h : Inv s) {stopper : Stopper}
    (hstopping : stopper ≠ .idle → s.stopping = true)
    (hholds : ∀ subscriber step, stopper = .unsubscribing subscriber step →
      Holds s.subscribers s.threads subscriber step ∧ s.turn.inFlight ≠ some subscriber.channel)
    (hemptied : stopper = .emptied ∨ stopper = .joined →
      s.turn.inFlight = none ∧ ∀ channel, s.subscribers channel = none)
    (hjoined : stopper = .joined → s.turn = .returned) : Inv { s with stopper } where
  channels := h.channels
  alive := h.alive
  flight := h.flight
  found := h.found
  turnHolds := h.turnHolds
  stopperHolds := hholds
  stopping := hstopping
  emptied := hemptied
  joined := hjoined

/-- No thread begins to run. -/
theorem Inv.setThreads (h : Inv s) {threads : Subscriber → SubscriberThread}
    (hthreads : ∀ subscriber, (threads subscriber).thread = .running →
      (s.threads subscriber).thread = .running) : Inv { s with threads } where
  channels := h.channels
  alive := fun subscriber hrunning => h.alive subscriber (hthreads subscriber hrunning)
  flight := h.flight
  found := h.found
  turnHolds := by
    intro subscriber step hturn
    obtain ⟨hentry, hthread⟩ := h.turnHolds subscriber step hturn
    exact ⟨hentry, fun hstep hrunning => hthread hstep (hthreads subscriber hrunning)⟩
  stopperHolds := by
    intro subscriber step hstopper
    obtain ⟨⟨hentry, hthread⟩, hother⟩ := h.stopperHolds subscriber step hstopper
    exact ⟨⟨hentry, fun hstep hrunning => hthread hstep (hthreads subscriber hrunning)⟩, hother⟩
  stopping := h.stopping
  emptied := h.emptied
  joined := h.joined

theorem Inv.updateThread (h : Inv s) {thread : SubscriberThread}
    (hthread : thread.thread = .running → (s.threads subscriber).thread = .running) :
    Inv { s with threads := Function.update s.threads subscriber thread } := by
  apply h.setThreads
  intro other hrunning
  by_cases hsame : other = subscriber
  · subst hsame
    rw [Function.update_self] at hrunning
    exact hthread hrunning
  · rwa [Function.update_of_ne hsame] at hrunning

theorem Holds.erase {other : Subscriber}
    (h : Holds s.subscribers s.threads other step) (channel : UInt8) :
    Holds (s.subscribers.erase channel) s.threads other step where
  entry := by
    by_cases hsame : other.channel = channel
    · rw [hsame]
      exact Or.inr (KeyMap.erase_self _ channel)
    · rw [KeyMap.erase_of_ne _ hsame]
      exact h.entry
  thread := h.thread

/-- A subscriber whose thread does not run is erased; the loop does not rely on
what it has found. -/
theorem Inv.erase (h : Inv s) (hholds : Holds s.subscribers s.threads subscriber .erase)
    (hquiet : ∀ topic value it, s.turn = .found topic value it → s.stopping = true) :
    Inv { s with subscribers := s.subscribers.erase subscriber.channel } where
  channels := fun channel other hother => h.channels channel other (KeyMap.erase_eq_some hother).2
  alive := by
    intro other hrunning
    rcases h.alive other hrunning with hentry | hturn
    · left
      have hne : other.channel ≠ subscriber.channel := by
        intro hsame
        rw [hsame] at hentry
        rcases hholds.entry with hmine | hnone
        · obtain rfl := Option.some.inj (hentry.symm.trans hmine)
          exact hholds.thread rfl hrunning
        · rw [hnone] at hentry
          cases hentry
      exact (KeyMap.erase_of_ne _ hne).trans hentry
    · exact Or.inr hturn
  flight := by
    intro channel hchannel
    exact KeyMap.erase_of_none (h.flight channel hchannel) _
  found := by
    intro topic value it hturn hrunning
    have hstopping := hquiet topic value it hturn
    rw [hstopping] at hrunning
    cases hrunning
  turnHolds := fun other step hturn => (h.turnHolds other step hturn).erase _
  stopperHolds := by
    intro other step hstopper
    obtain ⟨hholds, hother⟩ := h.stopperHolds other step hstopper
    exact ⟨hholds.erase _, hother⟩
  stopping := h.stopping
  emptied := by
    intro hstopper
    obtain ⟨hflight, hempty⟩ := h.emptied hstopper
    exact ⟨hflight, fun channel => KeyMap.erase_of_none (hempty channel) _⟩
  joined := h.joined

/-- A part of `unsubscribe`, by a thread that holds the subscriber. -/
theorem Inv.unsubscribe (h : Inv s) (hholds : Holds s.subscribers s.threads subscriber step)
    (hquiet : ∀ topic value it, s.turn = .found topic value it → s.stopping = true) :
    Inv (s.unsubscribe subscriber step) := by
  cases step with
  | stopThread => exact h.updateThread fun hrunning => hrunning
  | joinThread => exact h.updateThread fun hrunning => nomatch hrunning
  | erase => exact h.erase hholds hquiet

/-- What the thread that has executed a part goes on with. -/
theorem Holds.after {next : UnsubscribeStep}
    (h : Holds s.subscribers s.threads subscriber step)
    (hnext : (step = .stopThread ∧ next = .joinThread) ∨
      (step = .joinThread ∧ next = .erase)) :
    Holds (s.unsubscribe subscriber step).subscribers (s.unsubscribe subscriber step).threads
      subscriber next := by
  rcases hnext with ⟨rfl, rfl⟩ | ⟨rfl, rfl⟩
  · exact ⟨h.entry, fun hstep => nomatch hstep⟩
  · refine ⟨h.entry, fun _ hrunning => ?_⟩
    simp [State.unsubscribe] at hrunning

theorem Inv.turnUnsubscribe (h : Inv s) (hturn : s.turn = .unsubscribing subscriber step) :
    Inv { s.unsubscribe subscriber step with turn := Turn.after subscriber step } := by
  have hholds := h.turnHolds subscriber step hturn
  have hquiet : ∀ topic value it, s.turn = .found topic value it → s.stopping = true := by
    intro topic value it hfound
    rw [hturn] at hfound
    cases hfound
  have hparts := h.unsubscribe hholds hquiet
  have hsame : (s.unsubscribe subscriber step).turn = .unsubscribing subscriber step := by
    cases step <;> exact hturn
  apply hparts.setTurn
  · simp [hsame]
  · intro channel hflight
    cases step <;> cases hflight
  · intro topic value it hfound
    cases step <;> cases hfound
  · intro other next hnext
    cases step with
    | stopThread =>
        cases hnext
        exact hholds.after (Or.inl ⟨rfl, rfl⟩)
    | joinThread =>
        cases hnext
        exact hholds.after (Or.inr ⟨rfl, rfl⟩)
    | erase => cases hnext

theorem Inv.stopperUnsubscribe (h : Inv s)
    (hstopper : s.stopper = .unsubscribing subscriber step) :
    Inv { s.unsubscribe subscriber step with stopper := Stopper.after subscriber step } := by
  obtain ⟨hholds, hother⟩ := h.stopperHolds subscriber step hstopper
  have hstopping : s.stopping = true := h.stopping (by rw [hstopper]; nofun)
  have hparts := h.unsubscribe hholds fun _ _ _ _ => hstopping
  have hsame : (s.unsubscribe subscriber step).stopping = true ∧
      (s.unsubscribe subscriber step).turn = s.turn := by
    cases step <;> exact ⟨hstopping, rfl⟩
  apply hparts.setStopper
  · exact fun _ => hsame.1
  · intro other next hnext
    rw [hsame.2]
    cases step with
    | stopThread =>
        cases hnext
        exact ⟨hholds.after (Or.inl ⟨rfl, rfl⟩), hother⟩
    | joinThread =>
        cases hnext
        exact ⟨hholds.after (Or.inr ⟨rfl, rfl⟩), hother⟩
    | erase => cases hnext
  · rintro (hnext | hnext) <;> cases step <;> cases hnext
  · intro hnext
    cases step <;> cases hnext

/-- While a `subscribe` is under way the map has not been found empty. -/
theorem Inv.not_emptied (h : Inv s) (hflight : s.turn.inFlight ≠ none) :
    ¬ (s.stopper = .emptied ∨ s.stopper = .joined) :=
  fun hstopper => hflight (h.emptied hstopper).1

theorem Inv.not_joined (h : Inv s) (hturn : s.turn ≠ .returned) : s.stopper ≠ .joined :=
  fun hstopper => hturn (h.joined hstopper)

/-- The loop starts the thread of the subscriber it has created. -/
theorem Inv.startThread (h : Inv s) (hturn : s.turn = .created subscriber)
    (thread : SubscriberThread) :
    Inv { s with
      turn := .started subscriber
      threads := Function.update s.threads subscriber thread } where
  channels := h.channels
  alive := by
    intro other hrunning
    by_cases hsame : other = subscriber
    · exact Or.inr (by rw [hsame])
    · simp only [Function.update_of_ne hsame] at hrunning
      rcases h.alive other hrunning with hentry | hstarted
      · exact Or.inl hentry
      · rw [hturn] at hstarted
        cases hstarted
  flight := fun channel hchannel => h.flight channel (by rw [hturn]; exact hchannel)
  found := fun _ _ _ hfound => nomatch hfound
  turnHolds := fun _ _ hnext => nomatch hnext
  stopperHolds := by
    intro other step hstopper
    obtain ⟨⟨hentry, hthread⟩, hother⟩ := h.stopperHolds other step hstopper
    rw [hturn] at hother
    have hne : other ≠ subscriber := by
      rintro rfl
      exact hother rfl
    refine ⟨⟨hentry, ?_⟩, hother⟩
    simp only [Function.update_of_ne hne]
    exact hthread
  stopping := h.stopping
  emptied := fun hstopper => absurd hstopper (h.not_emptied (by simp [hturn, Turn.inFlight]))
  joined := fun hstopper => absurd hstopper (h.not_joined (by simp [hturn]))

/-- The subscriber gets its place in the map. -/
theorem Inv.insert (h : Inv s) (hturn : s.turn = .started subscriber) :
    Inv { s with
      turn := .waiting
      subscribers := s.subscribers.insert subscriber.channel subscriber } := by
  have hnone : s.subscribers subscriber.channel = none :=
    h.flight subscriber.channel (by rw [hturn]; rfl)
  have hself : s.subscribers.insert subscriber.channel subscriber subscriber.channel =
      some subscriber := by
    rw [KeyMap.insert_of_none hnone, Function.update_self]
  refine {
    channels := ?_
    alive := ?_
    flight := fun _ hflight => nomatch hflight
    found := fun _ _ _ hfound => nomatch hfound
    turnHolds := fun _ _ hnext => nomatch hnext
    stopperHolds := ?_
    stopping := h.stopping
    emptied := fun hstopper => absurd hstopper (h.not_emptied (by simp [hturn, Turn.inFlight]))
    joined := fun hstopper => absurd hstopper (h.not_joined (by simp [hturn])) }
  · intro channel other hother
    rcases KeyMap.insert_eq_some hother with hold | ⟨rfl, rfl, -⟩
    · exact h.channels channel other hold
    · rfl
  · intro other hrunning
    left
    rcases h.alive other hrunning with hentry | hstarted
    · have hne : other.channel ≠ subscriber.channel := by
        intro hsame
        rw [hsame, hnone] at hentry
        cases hentry
      exact (KeyMap.insert_of_ne _ hne).trans hentry
    · rw [hturn] at hstarted
      cases hstarted
      exact hself
  · intro other step hstopper
    obtain ⟨⟨hentry, hthread⟩, hother⟩ := h.stopperHolds other step hstopper
    rw [hturn] at hother
    have hne : other.channel ≠ subscriber.channel := fun hsame => hother (by rw [hsame]; rfl)
    refine ⟨⟨?_, hthread⟩, fun hflight => nomatch hflight⟩
    simp only [KeyMap.insert_of_ne _ hne]
    exact hentry

theorem empty_iff (s : State) : s.empty = true ↔ ∀ channel, s.subscribers channel = none := by
  simp only [State.empty, List.all_eq_true, List.mem_range, Option.isNone_iff_eq_none]
  refine ⟨fun h channel => ?_, fun h channel _ => h _⟩
  have hchannel := h channel.toNat channel.toNat_lt
  rwa [UInt8.ofNat_toNat] at hchannel

/-- The loop takes up a message. -/
theorem Inv.receive (h : Inv s) (hturn : s.turn = .waiting) (channel : UInt8) (value : Bool) :
    Inv (s.receive config channel value) := by
  unfold State.receive
  split
  · next topic htopic =>
    obtain ⟨-, rfl⟩ := topicFor_eq_some htopic
    apply h.setTurn
    · simp [hturn]
    · exact fun _ hflight => nomatch hflight
    · intro found value it hfound
      cases hfound
      rfl
    · exact fun _ _ hnext => nomatch hnext
  · exact h

/-- The loop drops a message. -/
theorem Inv.drop (h : Inv s)
    (hturn : s.turn ≠ .returned ∧ ∀ subscriber, s.turn ≠ .started subscriber) :
    Inv { s with turn := .waiting } :=
  h.setTurn hturn (fun _ hflight => nomatch hflight) (fun _ _ _ hfound => nomatch hfound)
    (fun _ _ hnext => nomatch hnext)

/-- As long as `stopping` is not set, a channel the loop has found free is free. -/
theorem Inv.toSubscribing (h : Inv s) {topic : Topic} (hturn : s.turn = .found topic true none)
    (hstopping : s.stopping = false) : Inv { s with turn := .subscribing topic } := by
  apply h.setTurn
  · simp [hturn]
  · intro channel hflight
    cases hflight
    exact Or.inr ⟨hstopping, h.found topic true none hturn hstopping⟩
  · exact fun _ _ _ hfound => nomatch hfound
  · exact fun _ _ hnext => nomatch hnext

/-- The subscriber the loop has found is the one it destroys. -/
theorem Inv.toUnsubscribing (h : Inv s) {topic : Topic}
    (hturn : s.turn = .found topic false (some subscriber)) (hstopping : s.stopping = false) :
    Inv { s with turn := .unsubscribing subscriber .stopThread } := by
  have hentry := h.found topic false (some subscriber) hturn hstopping
  have hchannel := h.channels topic.channel subscriber hentry
  apply h.setTurn
  · simp [hturn]
  · exact fun _ hflight => nomatch hflight
  · exact fun _ _ _ hfound => nomatch hfound
  · intro other step hnext
    cases hnext
    exact ⟨Or.inl (by rw [hchannel]; exact hentry), fun hstep => nomatch hstep⟩

theorem Inv.checkStopping (h : Inv s) : Inv s.checkStopping := by
  unfold State.checkStopping
  split
  · next topic hturn =>
    split
    · exact h.drop (by simp [hturn])
    · next hstopping => exact h.toSubscribing hturn (by simpa using hstopping)
  · next topic subscriber hturn =>
    split
    · exact h.drop (by simp [hturn])
    · next hstopping =>
      simp only [Bool.or_eq_true, not_or, Bool.not_eq_true] at hstopping
      exact h.toUnsubscribing hturn hstopping.1
  · next hturn => exact h.drop (by simp [hturn])
  · exact h

theorem Inv.create (h : Inv s) {topic : Topic} (hturn : s.turn = .subscribing topic) (count : Nat) :
    Inv { s with turn := .created ⟨topic, count⟩, count } := by
  have hcreated : Inv { s with turn := .created ⟨topic, count⟩ } := by
    apply h.setTurn
    · simp [hturn]
    · intro channel hflight
      rw [hturn]
      exact Or.inl hflight
    · exact fun _ _ _ hfound => nomatch hfound
    · exact fun _ _ hnext => nomatch hnext
  exact { hcreated with }

theorem Inv.leaveRun (h : Inv s) (hturn : s.turn = .waiting) :
    Inv { s with turn := .returned } := by
  apply h.setTurn
  · simp [hturn]
  · exact fun _ hflight => nomatch hflight
  · exact fun _ _ _ hfound => nomatch hfound
  · exact fun _ _ hnext => nomatch hnext

theorem Inv.stop (h : Inv s) : Inv { s with stopper := .emptying, stopping := true } where
  channels := h.channels
  alive := h.alive
  flight := h.flight
  found := fun _ _ _ _ hstopping => nomatch hstopping
  turnHolds := h.turnHolds
  stopperHolds := fun _ _ hnext => nomatch hnext
  stopping := fun _ => rfl
  emptied := by
    rintro (hnext | hnext) <;> cases hnext
  joined := fun hnext => nomatch hnext

theorem Inv.takeFirst (h : Inv s) (hstopper : s.stopper = .emptying) (channel : UInt8) :
    Inv (s.takeFirst channel) := by
  unfold State.takeFirst
  split
  · next subscriber hentry =>
    have hchannel := h.channels channel subscriber hentry
    apply h.setStopper
    · exact fun _ => h.stopping (by rw [hstopper]; nofun)
    · intro other step hnext
      cases hnext
      refine ⟨⟨Or.inl (by rw [hchannel]; exact hentry), fun hstep => nomatch hstep⟩, ?_⟩
      intro hflight
      have hnone := h.flight _ hflight
      rw [hchannel, hentry] at hnone
      cases hnone
    · rintro (hnext | hnext) <;> cases hnext
    · exact fun hnext => nomatch hnext
  · exact h

theorem Inv.leaveLoop (h : Inv s) (hstopper : s.stopper = .emptying) (hempty : s.empty = true)
    (hflight : s.turn.inFlight = none) : Inv { s with stopper := .emptied } := by
  apply h.setStopper
  · exact fun _ => h.stopping (by rw [hstopper]; nofun)
  · exact fun _ _ hnext => nomatch hnext
  · exact fun _ => ⟨hflight, (empty_iff s).mp hempty⟩
  · exact fun hnext => nomatch hnext

theorem Inv.joinThread (h : Inv s) (hstopper : s.stopper = .emptied)
    (hturn : s.turn = .returned) : Inv { s with stopper := .joined } := by
  apply h.setStopper
  · exact fun _ => h.stopping (by rw [hstopper]; nofun)
  · exact fun _ _ hnext => nomatch hnext
  · exact fun _ => h.emptied (Or.inl hstopper)
  · exact fun _ => hturn

/-- What one step keeps. -/
theorem Inv.next (h : Inv s) {label : Label} (henabled : enabled s label = true)
    (hok : NotInFlight s label) : Inv (next config s label) := by
  cases label with
  | receive channel value => exact h.receive (beq_iff_eq.mp henabled) channel value
  | checkStopping => exact h.checkStopping
  | create =>
      simp only [StopSubscribers.next, State.create]
      split
      · next topic hturn => exact h.create hturn _
      · exact h
  | startThread spawned =>
      simp only [StopSubscribers.next, State.startThread]
      split
      · next subscriber hturn => exact h.startThread hturn _
      · exact h
  | insert =>
      simp only [StopSubscribers.next, State.insert]
      split
      · next subscriber hturn => exact h.insert hturn
      · exact h
  | unsubscribe =>
      simp only [StopSubscribers.next]
      split
      · next subscriber step hturn => exact h.turnUnsubscribe hturn
      · exact h
  | leaveRun =>
      simp only [enabled, Bool.and_eq_true, beq_iff_eq] at henabled
      exact h.leaveRun henabled.1
  | finish subscriber =>
      apply h.updateThread
      intro hrunning
      cases hrunning
  | stop => exact h.stop
  | takeFirst channel =>
      simp only [enabled, Bool.and_eq_true, beq_iff_eq] at henabled
      exact h.takeFirst henabled.1 channel
  | stopperUnsubscribe =>
      simp only [StopSubscribers.next]
      split
      · next subscriber step hstopper => exact h.stopperUnsubscribe hstopper
      · exact h
  | leaveLoop =>
      simp only [enabled, Bool.and_eq_true, beq_iff_eq] at henabled
      exact h.leaveLoop henabled.1 henabled.2 hok
  | joinThread =>
      simp only [enabled, Bool.and_eq_true, beq_iff_eq] at henabled
      exact h.joinThread henabled.1 henabled.2

theorem inv_of_reachable (h : (machine config).ReachableWith NotInFlight s) : Inv s :=
  h.invariant Inv (Inv.start config) fun _ _ hinv henabled hok => hinv.next henabled hok

/-- `onStopThread` is over, and a subscriber is in the map or on its way there. -/
structure Leaked (s : State) : Prop where
  stopping : s.stopping = true
  stopper : s.stopper = .emptied ∨ s.stopper = .joined
  left : s.turn.inFlight ≠ none ∨
    ((∃ channel subscriber, s.subscribers channel = some subscriber) ∧
      ∀ subscriber step, s.turn ≠ .unsubscribing subscriber step)
  joined : s.stopper = .joined → s.turn = .returned

/-- The loop goes on without a new subscriber. -/
theorem Leaked.setTurn (h : Leaked s) {turn : Turn} (hflight : s.turn.inFlight = none)
    (hreturned : s.turn ≠ .returned)
    (hturn : ∀ subscriber step, turn ≠ .unsubscribing subscriber step) :
    Leaked { s with turn } where
  stopping := h.stopping
  stopper := h.stopper
  left := by
    rcases h.left with hpending | ⟨hentry, -⟩
    · exact absurd hflight hpending
    · exact Or.inr ⟨hentry, hturn⟩
  joined := fun hstopper => absurd (h.joined hstopper) hreturned

/-- A `subscribe` goes on to its next statement. -/
theorem Leaked.goOn (h : Leaked s) (hturn : s.turn ≠ .returned) {turn : Turn}
    (hflight : turn.inFlight ≠ none) (threads : Subscriber → SubscriberThread) (count : Nat) :
    Leaked { s with turn, threads, count } where
  stopping := h.stopping
  stopper := h.stopper
  left := Or.inl hflight
  joined := fun hstopper => absurd (h.joined hstopper) hturn

/-- The subscriber, or another one under its channel, is in the map. -/
theorem Leaked.insert (h : Leaked s) (hturn : s.turn ≠ .returned) (subscriber : Subscriber) :
    Leaked { s with
      turn := .waiting
      subscribers := s.subscribers.insert subscriber.channel subscriber } where
  stopping := h.stopping
  stopper := h.stopper
  left := by
    refine Or.inr ⟨⟨subscriber.channel, ?_⟩, by simp⟩
    cases hold : s.subscribers subscriber.channel with
    | none => exact ⟨subscriber, by simp [KeyMap.insert_of_none hold]⟩
    | some other => exact ⟨other, by simpa [KeyMap.insert_of_some hold] using hold⟩
  joined := fun hstopper => absurd (h.joined hstopper) hturn

theorem Leaked.checkStopping (h : Leaked s) : Leaked s.checkStopping := by
  unfold State.checkStopping
  split
  · next topic hturn =>
    rw [if_pos h.stopping]
    exact h.setTurn (by rw [hturn]; rfl) (by simp [hturn]) (by simp)
  · next topic subscriber hturn =>
    rw [if_pos (by simp [h.stopping])]
    exact h.setTurn (by rw [hturn]; rfl) (by simp [hturn]) (by simp)
  · next hturn => exact h.setTurn (by rw [hturn]; rfl) (by simp [hturn]) (by simp)
  · exact h

/-- Nothing takes the subscriber out of the map any more. -/
theorem Leaked.next (h : Leaked s) {label : Label} (henabled : enabled s label = true) :
    Leaked (next config s label) := by
  have hidle : s.stopper ≠ .idle ∧ s.stopper ≠ .emptying ∧
      ∀ subscriber step, s.stopper ≠ .unsubscribing subscriber step := by
    rcases h.stopper with hstopper | hstopper <;> simp [hstopper]
  cases label with
  | receive channel value =>
      have hturn : s.turn = .waiting := beq_iff_eq.mp henabled
      simp only [StopSubscribers.next, State.receive]
      split
      · exact h.setTurn (by rw [hturn]; rfl) (by simp [hturn]) (by simp)
      · exact h
  | checkStopping => exact h.checkStopping
  | create =>
      simp only [StopSubscribers.next, State.create]
      split
      · next topic hturn => exact h.goOn (by simp [hturn]) (by simp [Turn.inFlight]) _ _
      · exact h
  | startThread spawned =>
      simp only [StopSubscribers.next, State.startThread]
      split
      · next subscriber hturn => exact h.goOn (by simp [hturn]) (by simp [Turn.inFlight]) _ _
      · exact h
  | insert =>
      simp only [StopSubscribers.next, State.insert]
      split
      · next subscriber hturn => exact h.insert (by simp [hturn]) subscriber
      · exact h
  | unsubscribe =>
      simp only [StopSubscribers.next]
      split
      · next subscriber step hturn =>
        exfalso
        rcases h.left with hpending | ⟨-, hnot⟩
        · exact hpending (by rw [hturn]; rfl)
        · exact hnot subscriber step hturn
      · exact h
  | leaveRun =>
      simp only [enabled, Bool.and_eq_true, beq_iff_eq] at henabled
      exact h.setTurn (by rw [henabled.1]; rfl) (by simp [henabled.1]) (by simp)
  | finish subscriber => exact ⟨h.stopping, h.stopper, h.left, h.joined⟩
  | stop => exact absurd (beq_iff_eq.mp henabled) hidle.1
  | takeFirst channel | leaveLoop =>
      simp only [enabled, Bool.and_eq_true, beq_iff_eq] at henabled
      exact absurd henabled.1 hidle.2.1
  | stopperUnsubscribe =>
      simp only [StopSubscribers.next]
      split
      · next subscriber step hstopper => exact absurd hstopper (hidle.2.2 subscriber step)
      · exact h
  | joinThread =>
      simp only [enabled, Bool.and_eq_true, beq_iff_eq] at henabled
      exact ⟨h.stopping, Or.inr rfl, h.left, fun _ => henabled.2⟩

/-- As long as no `subscribe` is under way when `onStopThread` finds the map empty,
nothing is left when `joinThread` has returned. If one is, its subscriber is left
in the map. -/
theorem joinThread_subscribers (config : GlobalConfig) (s : State)
    (h : (machine config).ReachableWith NotInFlight s) :
    (s.stopper = .joined → (∀ channel, s.subscribers channel = none) ∧
      ∀ subscriber, (s.threads subscriber).thread ≠ .running) ∧
    ((machine config).enabled s .leaveLoop = true → ¬ NotInFlight s .leaveLoop →
      ∀ t, (machineFrom config ((machine config).next s .leaveLoop)).Reachable t →
        t.stopper = .joined → ∃ channel subscriber, t.subscribers channel = some subscriber) := by
  have hinv := inv_of_reachable h
  constructor
  · intro hjoined
    obtain ⟨-, hempty⟩ := hinv.emptied (Or.inr hjoined)
    refine ⟨hempty, fun subscriber hrunning => ?_⟩
    rcases hinv.alive subscriber hrunning with hentry | hstarted
    · rw [hempty] at hentry
      cases hentry
    · rw [hinv.joined hjoined] at hstarted
      cases hstarted
  · intro henabled hflight t ht hjoined
    have hstopper : s.stopper = .emptying := by
      simp only [machine, machineFrom, enabled, Bool.and_eq_true, beq_iff_eq] at henabled
      exact henabled.1
    have hstart : Leaked ((machine config).next s .leaveLoop) := {
      stopping := hinv.stopping (by simp [hstopper])
      stopper := Or.inl rfl
      left := Or.inl hflight
      joined := fun hnext => nomatch hnext }
    have hleaked : Leaked t := ht.invariant Leaked hstart
      fun _ _ hleaked hstep _ => hleaked.next hstep
    rcases hleaked.left with hpending | ⟨hentry, -⟩
    · rw [hleaked.joined hjoined] at hpending
      exact absurd rfl hpending
    · exact hentry

/-- A topic with a thread of its own that is subscribed on demand. -/
def threadedTopic : Topic := ⟨1, true, false, ⟨.none, 0⟩⟩

private theorem oneTopic_checked : GlobalConfig.Checked [] [threadedTopic] :=
  ⟨by decide, by decide, by decide, by decide⟩

def oneTopic : GlobalConfig := .ofChecked _ _ false oneTopic_checked

/-- A subscriber that is in the map is destroyed. -/
theorem joinThread_subscribers_one : ∃ s : State,
    s.stopper = .joined ∧ s.count = 1 ∧ (∀ channel, s.subscribers channel = none) ∧
      ∀ subscriber, (s.threads subscriber).thread ≠ .running := by
  let subscriber : Subscriber := ⟨threadedTopic, 1⟩
  have hrun : ∃ s, (machine oneTopic).ReachableWith NotInFlight s ∧
      (s.stopper = .joined ∧ s.count = 1) :=
    Machine.ReachableWith.exists_replay (fun _ _ h => h)
      (fun s : State => s.stopper = .joined ∧ s.count = 1) .start
      [.receive 1 true, .checkStopping, .create, .startThread true, .insert, .stop,
        .takeFirst 1, .stopperUnsubscribe, .finish subscriber, .stopperUnsubscribe,
        .stopperUnsubscribe, .leaveLoop, .leaveRun, .joinThread] (by decide +kernel)
  obtain ⟨s, hreach, hjoined, hcount⟩ := hrun
  exact ⟨s, hjoined, hcount, (joinThread_subscribers oneTopic s hreach).1 hjoined⟩

/-- `stopThread` runs between the check and the insertion of a `subscribe`. -/
theorem joinThread_leaves_subscriber :
    ¬ ∀ (config : GlobalConfig) (s : State), (machine config).Reachable s →
      s.stopper = .joined → (∀ channel, s.subscribers channel = none) ∧
        ∀ subscriber, (s.threads subscriber).thread ≠ .running := by
  intro hall
  let subscriber : Subscriber := ⟨threadedTopic, 1⟩
  have hrun : ∃ s, (machine oneTopic).Reachable s ∧
      (s.stopper = .joined ∧ s.subscribers 1 = some subscriber ∧
        (s.threads subscriber).thread = .running) :=
    Machine.exists_reachable
      (fun s : State => s.stopper = .joined ∧ s.subscribers 1 = some subscriber ∧
        (s.threads subscriber).thread = .running)
      [.receive 1 true, .checkStopping, .stop, .leaveLoop, .create, .startThread true, .insert,
        .leaveRun, .joinThread] (by decide +kernel)
  obtain ⟨s, hreach, hjoined, -, hrunning⟩ := hrun
  exact (hall oneTopic s hreach hjoined).2 subscriber hrunning

end StopSubscribers

end Ros2Connect
