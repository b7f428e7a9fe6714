import Mathlib.Data.List.TakeWhile
import Mathlib.Data.List.TakeDrop
import Ros2Connect.Parameters.EnumParser

/-!
The form `{seconds, nanoseconds}` of a duration as the regular expression
describes it. `matchRmwTime` scans a text once from left to right; it takes
exactly the texts of the form, and reads the integers written in them.
-/

namespace Ros2Connect.EnumParser

def isUnsigned (c : Char) : Bool := c == 'u' || c == 'U'

def isLong (c : Char) : Bool := c == 'l' || c == 'L'

/-- `\s*`. -/
def Spaces (text : List Char) : Prop := ∀ c ∈ text, isSpace c = true

/-- `(?:[uU]*[lL]*)?`. -/
inductive Suffix : List Char → Prop where
  | intro {unsigned long : List Char} : (∀ c ∈ unsigned, isUnsigned c = true) →
      (∀ c ∈ long, isLong c = true) → Suffix (unsigned ++ long)

/-- `\d+`. -/
structure Digits (text : List Char) : Prop where
  nonempty : text ≠ []
  digits : ∀ c ∈ text, c.isDigit = true

/-- `(-?\d+)` and the integer it writes. -/
inductive Signed : List Char → Int → Prop where
  | plain {text : List Char} : Digits text → Signed text (number text)
  | negative {text : List Char} : Digits text → Signed ('-' :: text) (-(number text : Int))

/-- `RMW_TIME_REGEX` and the two integers it writes. -/
inductive Spells : List Char → Int → Nat → Prop where
  | intro {before first firstSuffix afterFirst beforeSecond second secondSuffix after :
        List Char} {sec : Int} :
      Spaces before → Signed first sec → Suffix firstSuffix → Spaces afterFirst →
      Spaces beforeSecond → Digits second → Suffix secondSuffix → Spaces after →
      Spells ('\x7b' :: (before ++ (first ++ (firstSuffix ++ (afterFirst ++ ',' ::
        (beforeSecond ++ (second ++ (secondSuffix ++ (after ++ ['\x7d'])))))))))
        sec (number second)

section Scan

variable {p : Char → Bool} {front rest : List Char}

/-- The text does not begin with a character of the class. -/
def Stops (p : Char → Bool) (text : List Char) : Prop :=
  ∀ c, text.head? = some c → p c = false

theorem Stops.cons {stop : Char} (h : p stop = false) : Stops p (stop :: rest) := by
  rintro c ⟨⟩
  exact h

theorem Stops.append (hfront : ∀ c ∈ front, p c = false) (hrest : Stops p rest) :
    Stops p (front ++ rest) := by
  cases front with
  | nil => exact hrest
  | cons c front => exact .cons (hfront c List.mem_cons_self)

theorem dropWhile_append (hfront : ∀ c ∈ front, p c = true) (hrest : Stops p rest) :
    (front ++ rest).dropWhile p = rest := by
  rw [List.dropWhile_append_of_pos hfront]
  cases rest with
  | nil => rfl
  | cons c rest => exact List.dropWhile_cons_of_neg (by simp [hrest c rfl])

theorem takeWhile_append (hfront : ∀ c ∈ front, p c = true) (hrest : Stops p rest) :
    (front ++ rest).takeWhile p = front := by
  rw [List.takeWhile_append_of_pos hfront]
  cases rest with
  | nil => simp
  | cons c rest => simp [hrest c rfl]

end Scan

theorem isSpace_iff (c : Char) : isSpace c = true ↔
    c = ' ' ∨ c = '\t' ∨ c = '\n' ∨ c = '\x0b' ∨ c = '\x0c' ∨ c = '\r' := by
  simp only [isSpace, Bool.or_eq_true, beq_iff_eq, or_assoc]

/-- No two of the classes that may meet in the expression share a character. -/
theorem isSpace_disjoint {c : Char} (h : isSpace c = true) :
    isUnsigned c = false ∧ isLong c = false ∧ c.isDigit = false := by
  rcases (isSpace_iff c).mp h with rfl | rfl | rfl | rfl | rfl | rfl <;> decide

theorem isLong_disjoint {c : Char} (h : isLong c = true) :
    isUnsigned c = false ∧ isSpace c = false ∧ c.isDigit = false := by
  simp only [isLong, Bool.or_eq_true, beq_iff_eq] at h
  rcases h with rfl | rfl <;> decide

theorem isUnsigned_disjoint {c : Char} (h : isUnsigned c = true) : c.isDigit = false := by
  simp only [isUnsigned, Bool.or_eq_true, beq_iff_eq] at h
  rcases h with rfl | rfl <;> decide

theorem isDigit_disjoint {c : Char} (h : c.isDigit = true) :
    isSpace c = false ∧ c ≠ '-' := by
  constructor
  · rw [Bool.eq_false_iff]
    intro hspace
    exact absurd h (by simp [(isSpace_disjoint hspace).2.2])
  · rintro rfl
    exact absurd h (by decide)

/-- A comma or a closing brace, which end a number. -/
structure Delimiter (stop : Char) : Prop where
  space : isSpace stop = false
  unsigned : isUnsigned stop = false
  long : isLong stop = false
  digit : stop.isDigit = false

theorem delimiter_comma : Delimiter ',' := ⟨by decide, by decide, by decide, by decide⟩

theorem delimiter_brace : Delimiter '\x7d' := ⟨by decide, by decide, by decide, by decide⟩

section Suffix

variable {suffix spaces rest : List Char} {stop : Char}

theorem skipSuffix_append (hsuffix : Suffix suffix) (hspaces : Spaces spaces)
    (hstop : Delimiter stop) : skipSuffix (suffix ++ (spaces ++ stop :: rest)) = stop :: rest := by
  obtain @⟨unsigned, long, hunsigned, hlong⟩ := hsuffix
  have hafterLong : Stops isLong (spaces ++ stop :: rest) :=
    .append (fun c hc => (isSpace_disjoint (hspaces c hc)).2.1) (.cons hstop.long)
  have hafterUnsigned : Stops isUnsigned (long ++ (spaces ++ stop :: rest)) :=
    .append (fun c hc => (isLong_disjoint (hlong c hc)).1)
      (.append (fun c hc => (isSpace_disjoint (hspaces c hc)).1) (.cons hstop.unsigned))
  change (((unsigned ++ long ++ (spaces ++ stop :: rest)).dropWhile isUnsigned).dropWhile
    isLong).dropWhile isSpace = stop :: rest
  rw [List.append_assoc, dropWhile_append hunsigned hafterUnsigned,
    dropWhile_append hlong hafterLong, dropWhile_append hspaces (.cons hstop.space)]

theorem eq_append_of_skipSuffix {text : List Char} (h : skipSuffix text = rest) :
    ∃ suffix spaces, Suffix suffix ∧ Spaces spaces ∧ text = suffix ++ (spaces ++ rest) := by
  let afterUnsigned := text.dropWhile isUnsigned
  let afterLong := afterUnsigned.dropWhile isLong
  have hunsigned : text.takeWhile isUnsigned ++ afterUnsigned = text :=
    List.takeWhile_append_dropWhile
  have hlong : afterUnsigned.takeWhile isLong ++ afterLong = afterUnsigned :=
    List.takeWhile_append_dropWhile
  have hspaces : afterLong.takeWhile isSpace ++ rest = afterLong := by
    rw [← h]
    exact List.takeWhile_append_dropWhile
  refine ⟨text.takeWhile isUnsigned ++ afterUnsigned.takeWhile isLong,
    afterLong.takeWhile isSpace, ⟨fun c hc => List.mem_takeWhile_imp hc,
      fun c hc => List.mem_takeWhile_imp hc⟩, fun c hc => List.mem_takeWhile_imp hc, ?_⟩
  rw [hspaces, List.append_assoc, hlong, hunsigned]

/-- What follows a number is none of its digits. -/
theorem stops_isDigit (hsuffix : Suffix suffix) (hspaces : Spaces spaces)
    (hstop : Delimiter stop) : Stops Char.isDigit (suffix ++ (spaces ++ stop :: rest)) := by
  obtain @⟨unsigned, long, hunsigned, hlong⟩ := hsuffix
  refine .append ?_ (.append (fun c hc => (isSpace_disjoint (hspaces c hc)).2.2)
    (.cons hstop.digit))
  intro c hc
  rcases List.mem_append.mp hc with hc | hc
  · exact isUnsigned_disjoint (hunsigned c hc)
  · exact (isLong_disjoint (hlong c hc)).2.2

end Suffix

theorem Digits.stops_isSpace {text : List Char} (h : Digits text) (rest : List Char) :
    Stops isSpace (text ++ rest) := by
  cases text with
  | nil => exact absurd rfl h.nonempty
  | cons c text => exact .cons (isDigit_disjoint (h.digits c List.mem_cons_self)).1

/-- The digits a scan has found are followed by what `skipSuffix` has left. -/
theorem eq_append_of_takeWhile {text rest digits : List Char} {c : Char}
    (hdigits : text.takeWhile Char.isDigit = c :: digits)
    (hrest : skipSuffix (text.dropWhile Char.isDigit) = rest) :
    Digits (c :: digits) ∧ ∃ suffix spaces, Suffix suffix ∧ Spaces spaces ∧
      text = (c :: digits) ++ (suffix ++ (spaces ++ rest)) := by
  obtain ⟨suffix, spaces, hsuffix, hspaces, htext⟩ := eq_append_of_skipSuffix hrest
  refine ⟨⟨List.cons_ne_nil c digits, ?_⟩, suffix, spaces, hsuffix, hspaces, ?_⟩
  · rw [← hdigits]
    exact fun d hd => List.mem_takeWhile_imp hd
  · rw [← htext, ← hdigits, List.takeWhile_append_dropWhile]

/-- What the scan takes for the sign and the digits writes a signed integer. -/
theorem signed_of_digits {signed text rest : List Char} (hdigits : Digits text)
    (h : (if signed.head? == some '-' then signed.tail else signed) = text ++ rest) :
    ∃ first, signed = first ++ rest ∧ Signed first
      (if signed.head? == some '-' then -(number text : Int) else number text) := by
  split at h
  next hnegative =>
    rw [if_pos hnegative]
    cases signed with
    | nil => cases hnegative
    | cons c tail =>
        cases h
        obtain rfl : c = '-' := by simpa using hnegative
        exact ⟨'-' :: text, rfl, .negative hdigits⟩
  next hplain =>
    rw [if_neg hplain]
    exact ⟨text, h, .plain hdigits⟩

theorem matchRmwTime_sound {value : List Char} {sec : Int} {nsec : Nat}
    (h : matchRmwTime value = some (sec, nsec)) : Spells value sec nsec := by
  unfold matchRmwTime at h
  split at h
  next rest =>
    simp only [List.span_eq_takeWhile_dropWhile] at h
    have hbefore : rest.takeWhile isSpace ++ rest.dropWhile isSpace = rest :=
      List.takeWhile_append_dropWhile
    have hbeforeSpaces : Spaces (rest.takeWhile isSpace) := fun c hc => List.mem_takeWhile_imp hc
    rw [← hbefore]
    generalize rest.dropWhile isSpace = signed at h ⊢
    split at h
    next _ _ c digits afterFirst hfirst hskip =>
      obtain ⟨hdigits, suffix, spaces, hsuffix, hspaces, htext⟩ :=
        eq_append_of_takeWhile hfirst hskip
      obtain ⟨first, rfl, hsigned⟩ := signed_of_digits hdigits htext
      have hafterFirst : afterFirst.takeWhile isSpace ++ afterFirst.dropWhile isSpace =
        afterFirst := List.takeWhile_append_dropWhile
      have hbeforeSecond : Spaces (afterFirst.takeWhile isSpace) :=
        fun c hc => List.mem_takeWhile_imp hc
      split at h
      next _ _ c' digits' hsecond hskip' =>
        obtain ⟨hdigits', suffix', spaces', hsuffix', hspaces', hsecondText⟩ :=
          eq_append_of_takeWhile hsecond hskip'
        rw [hfirst, hsecond] at h
        cases h
        have hspells := Spells.intro hbeforeSpaces hsigned hsuffix hspaces hbeforeSecond hdigits'
          hsuffix' hspaces'
        rw [← hsecondText, hafterFirst] at hspells
        exact hspells
      next => cases h
    next => cases h
  next => cases h

/-- A number is scanned up to its delimiter. -/
theorem scan_number {text suffix spaces : List Char} {stop : Char} (htext : Digits text)
    (hsuffix : Suffix suffix) (hspaces : Spaces spaces) (hstop : Delimiter stop)
    (rest : List Char) :
    (text ++ (suffix ++ (spaces ++ stop :: rest))).takeWhile Char.isDigit = text ∧
      skipSuffix ((text ++ (suffix ++ (spaces ++ stop :: rest))).dropWhile Char.isDigit) =
        stop :: rest := by
  have hstops : Stops Char.isDigit (suffix ++ (spaces ++ stop :: rest)) :=
    stops_isDigit hsuffix hspaces hstop
  constructor
  · exact takeWhile_append htext.digits hstops
  · rw [dropWhile_append htext.digits hstops]
    exact skipSuffix_append hsuffix hspaces hstop

/-- The scan finds the digits behind the sign. -/
theorem Signed.scan {first : List Char} {sec : Int} (h : Signed first sec)
    (rest : List Char) : Stops isSpace (first ++ rest) ∧ ∃ digits, Digits digits ∧
      (if (first ++ rest).head? == some '-' then (first ++ rest).tail else first ++ rest) =
        digits ++ rest ∧
      sec = if (first ++ rest).head? == some '-' then -(number digits : Int)
        else number digits := by
  cases h with
  | plain htext =>
      refine ⟨htext.stops_isSpace rest, first, htext, ?_⟩
      have hplain : ((first ++ rest).head? == some '-') = false := by
        cases first with
        | nil => exact absurd rfl htext.nonempty
        | cons c digits =>
            have hdigit := isDigit_disjoint (htext.digits c List.mem_cons_self)
            simpa using hdigit.2
      rw [hplain]
      exact ⟨rfl, rfl⟩
  | negative htext =>
      exact ⟨.cons (by decide), _, htext, rfl, rfl⟩

theorem matchRmwTime_complete {value : List Char} {sec : Int} {nsec : Nat}
    (h : Spells value sec nsec) : matchRmwTime value = some (sec, nsec) := by
  obtain @⟨before, first, firstSuffix, afterFirst, beforeSecond, second, secondSuffix, after, _,
    hbefore, hfirst, hfirstSuffix, hafterFirst, hbeforeSecond, hsecond, hsecondSuffix, hafter⟩ := h
  obtain ⟨htakeSecond, hskipSecond⟩ := scan_number hsecond hsecondSuffix hafter delimiter_brace []
  have hstopsSecond := hsecond.stops_isSpace (secondSuffix ++ (after ++ ['\x7d']))
  obtain ⟨c', secondDigits, hsecondDigits⟩ := List.exists_cons_of_ne_nil hsecond.nonempty
  generalize second ++ (secondSuffix ++ (after ++ ['\x7d'])) = secondText at *
  obtain ⟨hstops, digits, hdigits, htail, hsec⟩ := hfirst.scan
    (firstSuffix ++ (afterFirst ++ ',' :: (beforeSecond ++ secondText)))
  obtain ⟨htake, hskip⟩ := scan_number hdigits hfirstSuffix hafterFirst delimiter_comma
    (beforeSecond ++ secondText)
  obtain ⟨c, firstDigits, hfirstDigits⟩ := List.exists_cons_of_ne_nil hdigits.nonempty
  simp only [matchRmwTime, List.span_eq_takeWhile_dropWhile]
  rw [dropWhile_append hbefore hstops, htail, htake, hskip, ← hsec, hfirstDigits]
  simp only [dropWhile_append hbeforeSecond hstopsSecond, htakeSecond, hskipSecond, hsecondDigits]

/-- The scan matches the texts of the form, and only those, and reads the
integers they are written with. -/
theorem matchRmwTime_eq_some_iff (value : List Char) (sec : Int) (nsec : Nat) :
    matchRmwTime value = some (sec, nsec) ↔ Spells value sec nsec :=
  ⟨matchRmwTime_sound, matchRmwTime_complete⟩

end Ros2Connect.EnumParser
