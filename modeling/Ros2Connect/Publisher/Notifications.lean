import Ros2Connect.Publisher.PublisherBase

/-!
The notifications of one publisher over a whole history of `testForSubscriber`
calls. That a subscriber is gone is told after ten seconds in which no call saw
one; the time stamp that measures them is also the mark that none is measured,
so a reading of zero only starts the measurement anew.
-/

namespace Ros2Connect

namespace PublisherBase

/-- A call of `testForSubscriber` with what it reads. -/
structure Call where
  subscriptionCount : Nat
  now : Int
  deriving Repr, DecidableEq

def test (publisher : PublisherBase) (call : Call) : PublisherBase × Option Bool :=
  publisher.testForSubscriber call.subscriptionCount call.now

/-- The publisher after its first calls. -/
def after (calls : List Call) : PublisherBase :=
  calls.foldl (fun publisher call => (publisher.test call).1) start

/-- What a call that follows others notifies about. -/
def notification (calls : List Call) (call : Call) : Option Bool :=
  ((after calls).test call).2

/-- The notifications a publisher sends, in order. -/
def notificationsFrom (publisher : PublisherBase) : List Call → List Bool
  | [] => []
  | call :: rest =>
      (publisher.test call).2.toList ++ notificationsFrom (publisher.test call).1 rest

def notifications (calls : List Call) : List Bool := notificationsFrom start calls

/-- Every call from one at least ten seconds ago up to this one saw no
subscriber. -/
def AbsentTenSeconds (calls : List Call) (call : Call) : Prop :=
  ∃ older first younger, calls = older ++ first :: younger ∧
    10000000000 ≤ call.now - first.now ∧
    ∀ other ∈ first :: younger ++ [call], other.subscriptionCount = 0

/-- What one call does. -/
inductive Tests (publisher : PublisherBase) (call : Call) :
    PublisherBase × Option Bool → Prop where
  | noticed : publisher.hasSubscriber = true → call.subscriptionCount = 0 →
      publisher.subscriberGoneAwayTimePoint = 0 →
      Tests publisher call ({ publisher with subscriberGoneAwayTimePoint := call.now }, none)
  | goneAway : publisher.hasSubscriber = true → call.subscriptionCount = 0 →
      publisher.subscriberGoneAwayTimePoint ≠ 0 →
      10000000000 ≤ call.now - publisher.subscriberGoneAwayTimePoint →
      Tests publisher call ({ publisher with hasSubscriber := false }, some false)
  | waits : publisher.hasSubscriber = true → call.subscriptionCount = 0 →
      publisher.subscriberGoneAwayTimePoint ≠ 0 → Tests publisher call (publisher, none)
  | reappeared : publisher.hasSubscriber = true → 0 < call.subscriptionCount →
      Tests publisher call ({ publisher with subscriberGoneAwayTimePoint := 0 }, none)
  | present : publisher.hasSubscriber = true → 0 < call.subscriptionCount →
      publisher.subscriberGoneAwayTimePoint ≤ 0 → Tests publisher call (publisher, none)
  | appeared : publisher.hasSubscriber = false → 0 < call.subscriptionCount →
      Tests publisher call (⟨true, 0⟩, some true)
  | absent : publisher.hasSubscriber = false → call.subscriptionCount = 0 →
      Tests publisher call (publisher, none)

theorem test_tests (publisher : PublisherBase) (call : Call) :
    Tests publisher call (publisher.test call) := by
  unfold test testForSubscriber
  by_cases hsubscriber : publisher.hasSubscriber = true
  · rcases Nat.eq_zero_or_pos call.subscriptionCount with hcount | hcount
    · rw [if_pos ⟨hsubscriber, hcount⟩]
      by_cases hunset : publisher.subscriberGoneAwayTimePoint = 0
      · rw [if_pos hunset]
        exact .noticed hsubscriber hcount hunset
      · rw [if_neg hunset]
        by_cases hlong : call.now - publisher.subscriberGoneAwayTimePoint ≥ 10000000000
        · rw [if_pos hlong]
          exact .goneAway hsubscriber hcount hunset hlong
        · rw [if_neg hlong]
          exact .waits hsubscriber hcount hunset
    · rw [if_neg (by omega)]
      by_cases hset : publisher.subscriberGoneAwayTimePoint > 0
      · rw [if_pos ⟨hsubscriber, hset, hcount⟩]
        exact .reappeared hsubscriber hcount
      · rw [if_neg (by omega), if_neg (by simp [hsubscriber])]
        exact .present hsubscriber hcount (by omega)
  · rw [if_neg (by simp [hsubscriber]), if_neg (by simp [hsubscriber])]
    rw [Bool.not_eq_true] at hsubscriber
    rcases Nat.eq_zero_or_pos call.subscriptionCount with hcount | hcount
    · rw [if_neg (by omega)]
      exact .absent hsubscriber hcount
    · rw [if_pos ⟨hsubscriber, hcount⟩]
      exact .appeared hsubscriber hcount

/-- A notification turns `hasSubscriber` over. -/
theorem test_notifies {publisher : PublisherBase} {call : Call} {value : Bool}
    (h : (publisher.test call).2 = some value) : publisher.hasSubscriber ≠ value := by
  have htests := test_tests publisher call
  generalize publisher.test call = tested at htests h
  cases htests with
  | goneAway hsubscriber =>
      cases h
      simp [hsubscriber]
  | appeared hsubscriber =>
      cases h
      simp [hsubscriber]
  | noticed | waits | reappeared | present | absent => cases h

theorem test_true {publisher : PublisherBase} {call : Call}
    (h : (publisher.test call).2 = some true) : 0 < call.subscriptionCount := by
  have htests := test_tests publisher call
  generalize publisher.test call = tested at htests h
  cases htests with
  | appeared _ hcount => exact hcount
  | goneAway | noticed | waits | reappeared | present | absent => cases h

theorem after_append (calls : List Call) (call : Call) :
    after (calls ++ [call]) = ((after calls).test call).1 := by
  simp [after]

theorem notificationsFrom_append (publisher : PublisherBase) (calls : List Call) (call : Call) :
    notificationsFrom publisher (calls ++ [call]) = notificationsFrom publisher calls ++
      ((calls.foldl (fun publisher call => (publisher.test call).1) publisher).test
        call).2.toList := by
  induction calls generalizing publisher with
  | nil => simp [notificationsFrom]
  | cons first rest ih =>
      rw [List.cons_append, notificationsFrom, ih, notificationsFrom, List.append_assoc]
      rfl

theorem notifications_append (calls : List Call) (call : Call) :
    notifications (calls ++ [call]) = notifications calls ++ (notification calls call).toList :=
  notificationsFrom_append start calls call

theorem hasSubscriber_after_append (calls : List Call) (call : Call) :
    (after (calls ++ [call])).hasSubscriber =
      (notification calls call).getD (after calls).hasSubscriber := by
  rw [after_append]
  exact hasSubscriber_testForSubscriber _ _ _

/-- The notifications so far alternate, and the last one said what
`hasSubscriber` holds. -/
structure Alternates (calls : List Call) : Prop where
  chain : (notifications calls).IsChain (· ≠ ·)
  first : ∀ value ∈ (notifications calls).head?, value = true
  last : (notifications calls).getLast?.getD false = (after calls).hasSubscriber

theorem alternates (calls : List Call) : Alternates calls := by
  induction calls using List.reverseRecOn with
  | nil => exact ⟨.nil, by simp [notifications, notificationsFrom], rfl⟩
  | append_singleton calls call ih =>
      have hnotifications := notifications_append calls call
      have hsubscriber := hasSubscriber_after_append calls call
      cases hnotification : notification calls call with
      | none =>
          rw [hnotification] at hnotifications hsubscriber
          simp only [Option.toList_none, List.append_nil] at hnotifications
          refine ⟨?_, ?_, ?_⟩
          · exact hnotifications ▸ ih.chain
          · exact hnotifications ▸ ih.first
          · rw [hnotifications, hsubscriber]
            exact ih.last
      | some value =>
          rw [hnotification] at hnotifications hsubscriber
          simp only [Option.toList_some] at hnotifications
          have hturned : (after calls).hasSubscriber ≠ value := test_notifies hnotification
          have hlast := ih.last
          refine ⟨?_, ?_, ?_⟩
          · rw [hnotifications, List.isChain_append]
            refine ⟨ih.chain, .singleton _, ?_⟩
            intro old hold new hnew
            rw [Option.mem_def.mp hold] at hlast
            obtain rfl : value = new := by simpa using hnew
            rw [← hlast] at hturned
            exact hturned
          · intro first hfirst
            rw [hnotifications] at hfirst
            cases hold : notifications calls with
            | nil =>
                rw [hold] at hlast hfirst
                obtain rfl : value = first := by simpa using hfirst
                rw [← hlast] at hturned
                cases value with
                | true => rfl
                | false => exact absurd rfl hturned
            | cons old rest =>
                rw [hold] at hfirst
                obtain rfl : old = first := by simpa using hfirst
                exact ih.first old (by simp [hold])
          · rw [hnotifications, hsubscriber]
            simp

/-- What the time stamp of a publisher with a subscriber says: since the call
that set it no call has seen a subscriber. -/
structure Measures (calls : List Call) : Prop where
  nonneg : 0 ≤ (after calls).subscriberGoneAwayTimePoint
  absent : (after calls).hasSubscriber = true →
    (after calls).subscriberGoneAwayTimePoint ≠ 0 →
      ∃ older first younger, calls = older ++ first :: younger ∧
        first.now = (after calls).subscriberGoneAwayTimePoint ∧
        ∀ other ∈ first :: younger, other.subscriptionCount = 0

theorem Measures.next {calls : List Call} (h : Measures calls) {call : Call}
    (hnow : 0 ≤ call.now) : Measures (calls ++ [call]) := by
  have htests := test_tests (after calls) call
  have hafter := after_append calls call
  generalize (after calls).test call = tested at htests hafter
  cases htests with
  | noticed _ hcount =>
      refine ⟨by simpa [hafter] using hnow, fun _ _ => ⟨calls, call, [], rfl, ?_, ?_⟩⟩
      · rw [hafter]
      · simpa using hcount
  | goneAway => exact ⟨by simpa [hafter] using h.nonneg, by simp [hafter]⟩
  | waits hsubscriber hcount hset =>
      obtain ⟨older, first, younger, hcalls, hfirst, hzero⟩ := h.absent hsubscriber hset
      refine ⟨by simpa [hafter] using h.nonneg, fun _ _ =>
        ⟨older, first, younger ++ [call], ?_, ?_, ?_⟩⟩
      · rw [hcalls, List.append_assoc, List.cons_append]
      · rw [hafter]
        exact hfirst
      · intro other hother
        rw [← List.cons_append, List.mem_append, List.mem_singleton] at hother
        rcases hother with hold | rfl
        · exact hzero other hold
        · exact hcount
  | reappeared => exact ⟨by simp [hafter], by simp [hafter]⟩
  | present _ _ hunset =>
      have hzero : (after calls).subscriberGoneAwayTimePoint = 0 :=
        le_antisymm hunset h.nonneg
      exact ⟨by simp [hafter, hzero], by simp [hafter, hzero]⟩
  | appeared => exact ⟨by simp [hafter], by simp [hafter]⟩
  | absent hsubscriber =>
      exact ⟨by simpa [hafter] using h.nonneg, by simp [hafter, hsubscriber]⟩

theorem measures {calls : List Call} (hnow : ∀ call ∈ calls, 0 ≤ call.now) :
    Measures calls := by
  induction calls using List.reverseRecOn with
  | nil => exact ⟨le_refl _, by simp [after, start]⟩
  | append_singleton calls call ih =>
      have hold := ih fun other hother => hnow other (List.mem_append_left _ hother)
      exact hold.next (hnow call (by simp))

/-- A publisher that tells that its subscriber is gone has seen none for ten
seconds. -/
theorem Measures.absentTenSeconds {calls : List Call} (h : Measures calls) {call : Call}
    (hfalse : notification calls call = some false) : AbsentTenSeconds calls call := by
  have htests := test_tests (after calls) call
  unfold notification at hfalse
  generalize (after calls).test call = tested at htests hfalse
  cases htests with
  | goneAway hsubscriber hcount hset hlong =>
      obtain ⟨older, first, younger, hcalls, hfirst, hzero⟩ := h.absent hsubscriber hset
      refine ⟨older, first, younger, hcalls, hfirst ▸ hlong, ?_⟩
      intro other hother
      rw [List.mem_append, List.mem_singleton] at hother
      rcases hother with hold | rfl
      · exact hzero other hold
      · exact hcount
  | noticed | waits | reappeared | present | appeared | absent => cases hfalse

/-- The notifications alternate, starting with `true`; the last one is what
`hasSubscriber` holds; `true` is sent by a call that saw a subscriber and
`false` by one before which none was seen for ten seconds. -/
theorem testForSubscriber_debounces (calls : List Call)
    (hnow : ∀ call ∈ calls, 0 ≤ call.now) :
    (notifications calls).IsChain (· ≠ ·) ∧
    (∀ value ∈ (notifications calls).head?, value = true) ∧
    (notifications calls).getLast?.getD false = (after calls).hasSubscriber ∧
    ∀ earlier call later, calls = earlier ++ call :: later →
      (notification earlier call = some true → 0 < call.subscriptionCount) ∧
      (notification earlier call = some false → AbsentTenSeconds earlier call) := by
  obtain ⟨hchain, hfirst, hlast⟩ := alternates calls
  refine ⟨hchain, hfirst, hlast, ?_⟩
  rintro earlier call later rfl
  have hearlier : Measures earlier :=
    measures fun other hother => hnow other (List.mem_append_left _ hother)
  exact ⟨test_true, hearlier.absentTenSeconds⟩

/-- A subscriber that comes at time zero, goes, and is gone for ten seconds. -/
theorem testForSubscriber_debounces_gone :
    let calls : List Call := [⟨1, 0⟩, ⟨0, 0⟩, ⟨0, 5⟩, ⟨0, 10000000005⟩]
    notifications calls = [true, false] ∧ (notifications calls).IsChain (· ≠ ·) :=
  ⟨by decide, (testForSubscriber_debounces [⟨1, 0⟩, ⟨0, 0⟩, ⟨0, 5⟩, ⟨0, 10000000005⟩]
    (by decide)).1⟩

end PublisherBase

end Ros2Connect
