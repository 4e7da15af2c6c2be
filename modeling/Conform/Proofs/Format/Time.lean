import Conform.Format.Standard
import Conform.Proofs.Uri
import Mathlib.Tactic.IntervalCases

/-!
# Dates and times

The grammar of dates and times of day, for any reading of digits, and the texts that the formats `date`, `time` and
`date-time` accept: those of the grammar with decimal digits of any script, where a line break may follow a date and a time
(`Format.accepts_dateTime_iff`).  On texts whose digits are those of ASCII and that have no line break, that is the grammar
with ASCII digits.
-/

namespace Conform

namespace Format

/-! ### The grammar -/

/-- The value of an ASCII digit. -/
def asciiValue? (c : Char) : Option Nat := if c.isDigit then some (c.toNat - 48) else none

/-- A year with a day that others lack: every fourth, but of the full centuries every fourth only. -/
def IsLeap (year : Nat) : Prop := 4 ∣ year ∧ (100 ∣ year → 400 ∣ year)

/-- The number of days of each month in a common year. -/
def commonMonths : List Nat := [31, 28, 31, 30, 31, 30, 31, 31, 30, 31, 30, 31]

/-- A day of the Gregorian calendar, from the year 1 to the year 9999. -/
structure IsDay (year month day : Nat) : Prop where
  year_pos : 1 ≤ year
  year_le : year ≤ 9999
  month_pos : 1 ≤ month
  day_pos : 1 ≤ day
  /-- The day is one of its month, or the leap day. -/
  inside : (∃ days, commonMonths[month - 1]? = some days ∧ day ≤ days) ∨ IsLeap year ∧ month = 2 ∧ day = 29

section Grammar

variable (digit : Char → Option Nat)

/-- The number that a row of digits names. -/
def numberOf (cs : List Char) : Nat := cs.foldl (fun n c => 10 * n + (digit c).getD 0) 0

/-- The row is one of so many digits that name the number. -/
structure IsNumeral (width : Nat) (cs : List Char) (n : Nat) : Prop where
  length_eq : cs.length = width
  digits : ∀ c ∈ cs, (digit c).isSome = true
  number_eq : numberOf digit cs = n

/-- Year, month and day, in digits with hyphens between them. -/
inductive IsFullDate : List Char → Prop where
  | intro {ys ms ds : List Char} {year month day : Nat} (hyear : IsNumeral digit 4 ys year)
      (hmonth : IsNumeral digit 2 ms month) (hday : IsNumeral digit 2 ds day) (h : IsDay year month day) :
    IsFullDate (ys ++ '-' :: (ms ++ '-' :: ds))

/-- A fraction of a second: nothing, or a point and digits. -/
inductive IsFraction : List Char → Prop where
  | none : IsFraction []
  | digits {ds : List Char} (hne : ds ≠ []) (h : ∀ c ∈ ds, (digit c).isSome = true) : IsFraction ('.' :: ds)

/-- An offset from universal time. -/
inductive IsZone : List Char → Prop where
  | zulu : IsZone ['Z']
  | smallZulu : IsZone ['z']
  | offset {sign : Char} {hs ms : List Char} {hour minute : Nat} (hsign : sign = '+' ∨ sign = '-')
      (hhour : IsNumeral digit 2 hs hour) (hminute : IsNumeral digit 2 ms minute) (h : hour ≤ 23 ∧ minute ≤ 59) :
    IsZone (sign :: (hs ++ ':' :: ms))

/-- Hour, minute and second, in digits with colons between them, and then a fraction and an offset.  A minute may have a
leap second. -/
inductive IsFullTime : List Char → Prop where
  | intro {hs ms ss fraction zone : List Char} {hour minute second : Nat} (hhour : IsNumeral digit 2 hs hour)
      (hminute : IsNumeral digit 2 ms minute) (hsecond : IsNumeral digit 2 ss second)
      (h : hour ≤ 23 ∧ minute ≤ 59 ∧ second ≤ 60) (hfraction : IsFraction digit fraction) (hzone : IsZone digit zone) :
    IsFullTime (hs ++ ':' :: (ms ++ ':' :: (ss ++ (fraction ++ zone))))

end Grammar

/-- The text is of the kind, or one is with a line break behind it. -/
def Ended (kind : List Char → Prop) (cs : List Char) : Prop := kind cs ∨ ∃ body, kind body ∧ cs = body ++ ['\n']

/-- A date, a `T` of either case, and a time of day. -/
def Joined (date time : List Char → Prop) (cs : List Char) : Prop :=
  ∃ front mark rest, (mark = 'T' ∨ mark = 't') ∧ cs = front ++ mark :: rest ∧ date front ∧ time rest

/-! ### Readings of digits -/

section Readings

variable {digit digit' : Char → Option Nat} {width n : Nat} {cs : List Char}

theorem numberOf_congr (h : ∀ c ∈ cs, digit c = digit' c) : numberOf digit cs = numberOf digit' cs := by
  unfold numberOf
  refine List.foldl_ext _ _ 0 fun n c hc => ?_
  rw [h c hc]

theorem IsNumeral.congr (h : IsNumeral digit width cs n) (heq : ∀ c ∈ cs, digit c = digit' c) :
    IsNumeral digit' width cs n where
  length_eq := h.length_eq
  digits c hc := heq c hc ▸ h.digits c hc
  number_eq := numberOf_congr heq ▸ h.number_eq

theorem IsFullDate.congr (h : IsFullDate digit cs) (heq : ∀ c ∈ cs, digit c = digit' c) : IsFullDate digit' cs := by
  cases h with
  | intro hyear hmonth hday h =>
    refine .intro (hyear.congr fun c hc => ?_) (hmonth.congr fun c hc => ?_) (hday.congr fun c hc => ?_) h
    all_goals exact heq c (by simp [hc])

theorem IsFraction.congr (h : IsFraction digit cs) (heq : ∀ c ∈ cs, digit c = digit' c) : IsFraction digit' cs := by
  cases h with
  | none => exact .none
  | digits hne h => exact .digits hne fun c hc => heq c (by simp [hc]) ▸ h c hc

theorem IsZone.congr (h : IsZone digit cs) (heq : ∀ c ∈ cs, digit c = digit' c) : IsZone digit' cs := by
  cases h with
  | zulu => exact .zulu
  | smallZulu => exact .smallZulu
  | offset hsign hhour hminute h =>
    refine .offset hsign (hhour.congr fun c hc => ?_) (hminute.congr fun c hc => ?_) h
    all_goals exact heq c (by simp [hc])

theorem IsFullTime.congr (h : IsFullTime digit cs) (heq : ∀ c ∈ cs, digit c = digit' c) : IsFullTime digit' cs := by
  cases h with
  | intro hhour hminute hsecond h hfraction hzone =>
    refine .intro (hhour.congr fun c hc => ?_) (hminute.congr fun c hc => ?_) (hsecond.congr fun c hc => ?_) h
      (hfraction.congr fun c hc => ?_) (hzone.congr fun c hc => ?_)
    all_goals exact heq c (by simp [hc])

/-! ### The characters of dates and times -/

theorem IsFullDate.mem (h : IsFullDate digit cs) {c : Char} (hc : c ∈ cs) : (digit c).isSome = true ∨ c = '-' := by
  cases h with
  | intro hyear hmonth hday h =>
    simp only [List.mem_append, List.mem_cons] at hc
    rcases hc with hc | hc | hc | hc | hc
    · exact .inl (hyear.digits c hc)
    · exact .inr hc
    · exact .inl (hmonth.digits c hc)
    · exact .inr hc
    · exact .inl (hday.digits c hc)

theorem IsFraction.mem (h : IsFraction digit cs) {c : Char} (hc : c ∈ cs) : (digit c).isSome = true ∨ c = '.' := by
  cases h with
  | none => cases hc
  | digits hne h => exact (List.mem_cons.1 hc).symm.imp_left (h c)

theorem IsZone.mem (h : IsZone digit cs) {c : Char} (hc : c ∈ cs) :
    (digit c).isSome = true ∨ c ∈ [':', '+', '-', 'Z', 'z'] := by
  cases h with
  | zulu => exact .inr (by simp_all)
  | smallZulu => exact .inr (by simp_all)
  | offset hsign hhour hminute h =>
    simp only [List.mem_append, List.mem_cons] at hc
    rcases hc with rfl | hc | rfl | hc
    · exact .inr (by rcases hsign with rfl | rfl <;> decide)
    · exact .inl (hhour.digits c hc)
    · exact .inr (by decide)
    · exact .inl (hminute.digits c hc)

theorem IsFullTime.mem (h : IsFullTime digit cs) {c : Char} (hc : c ∈ cs) :
    (digit c).isSome = true ∨ c ∈ ['.', ':', '+', '-', 'Z', 'z'] := by
  cases h with
  | intro hhour hminute hsecond h hfraction hzone =>
    simp only [List.mem_append, List.mem_cons] at hc
    rcases hc with hc | rfl | hc | rfl | hc | hc | hc
    · exact .inl (hhour.digits c hc)
    · exact .inr (by decide)
    · exact .inl (hminute.digits c hc)
    · exact .inr (by decide)
    · exact .inl (hsecond.digits c hc)
    · exact (hfraction.mem hc).imp_right fun h => by simp [h]
    · exact (hzone.mem hc).imp_right fun h => List.mem_cons_of_mem _ h

end Readings

/-! ### What is recognized -/

section Recognition

variable {a b c d : Char} {n : Nat} {cs : List Char}

theorem twoDigits?_eq_some : twoDigits? a b = some n ↔ IsNumeral Text.decimalValue? 2 [a, b] n := by
  unfold twoDigits?
  constructor
  · intro h
    split at h
    · rename_i hdigits
      exact ⟨rfl, by simpa [Text.isDecimal] using hdigits, Option.some.inj h⟩
    · cases h
  · intro h
    have hdigits : Text.isDecimal a && Text.isDecimal b := by simpa [Text.isDecimal] using h.digits
    rw [if_pos hdigits]
    exact congrArg some h.number_eq

theorem fourDigits?_eq_some : fourDigits? a b c d = some n ↔ IsNumeral Text.decimalValue? 4 [a, b, c, d] n := by
  unfold fourDigits?
  constructor
  · intro h
    split at h
    · rename_i hdigits
      exact ⟨rfl, by simpa [Text.isDecimal] using hdigits, Option.some.inj h⟩
    · cases h
  · intro h
    have hdigits : [a, b, c, d].all Text.isDecimal := by simpa [Text.isDecimal] using h.digits
    rw [if_pos hdigits]
    exact congrArg some h.number_eq

theorem isLeapYear_iff {year : Nat} : isLeapYear year = true ↔ IsLeap year := by
  simp only [isLeapYear, IsLeap, Bool.and_eq_true, Bool.or_eq_true, beq_iff_eq, bne_iff_ne]
  omega

/-- A day is no later than the last of its month exactly if a common year has it or it is the leap day. -/
private theorem le_daysIn_iff {year month day : Nat} (hpos : 1 ≤ month) (hle : month ≤ 12) : day ≤ daysIn year month ↔
    (∃ days, commonMonths[month - 1]? = some days ∧ day ≤ days) ∨ IsLeap year ∧ month = 2 ∧ day = 29 := by
  rw [← isLeapYear_iff, daysIn]
  -- In the table the months settle themselves, but for February in a leap year.
  interval_cases month <;> cases isLeapYear year <;> simp [commonMonths]
  omega

theorem isCalendarDay_iff {year month day : Nat} : isCalendarDay year month day = true ↔ IsDay year month day := by
  have hbounds : isCalendarDay year month day = true ↔
      (1 ≤ year ∧ year ≤ 9999) ∧ (1 ≤ month ∧ month ≤ 12) ∧ 1 ≤ day ∧ day ≤ daysIn year month := by
    simp [isCalendarDay, and_assoc]
  rw [hbounds]
  constructor
  · rintro ⟨⟨hpos, hle⟩, ⟨hmonth, hmonth'⟩, hday, h⟩
    exact ⟨hpos, hle, hmonth, hday, (le_daysIn_iff hmonth hmonth').1 h⟩
  · intro h
    have hmonth : month ≤ 12 := by
      rcases h.inside with ⟨days, hdays, -⟩ | ⟨-, rfl, -⟩
      · have hlt := (List.getElem?_eq_some_iff.1 hdays).1
        simp only [commonMonths, List.length_cons, List.length_nil] at hlt
        omega
      · omega
    exact ⟨⟨h.year_pos, h.year_le⟩, ⟨h.month_pos, hmonth⟩, h.day_pos, (le_daysIn_iff h.month_pos hmonth).2 h.inside⟩

theorem IsNumeral.two {digit : Char → Option Nat} (h : IsNumeral digit 2 cs n) : ∃ a b, cs = [a, b] :=
  List.length_eq_two.1 h.length_eq

theorem IsNumeral.four {digit : Char → Option Nat} (h : IsNumeral digit 4 cs n) : ∃ a b c d, cs = [a, b, c, d] :=
  List.length_eq_four.1 h.length_eq

theorem isDate_iff : isDate cs = true ↔ IsFullDate Text.decimalValue? (Text.dropFinalBreak cs) := by
  unfold isDate
  generalize Text.dropFinalBreak cs = body
  constructor
  · intro h
    split at h
    · split at h
      · rename_i hyear hmonth hday
        exact .intro (fourDigits?_eq_some.1 hyear) (twoDigits?_eq_some.1 hmonth) (twoDigits?_eq_some.1 hday)
          (isCalendarDay_iff.1 h)
      · cases h
    · cases h
  · intro h
    cases h with
    | intro hyear hmonth hday h =>
      obtain ⟨a, b, c, d, rfl⟩ := hyear.four
      obtain ⟨e, f, rfl⟩ := hmonth.two
      obtain ⟨g, k, rfl⟩ := hday.two
      simp only [List.cons_append, List.nil_append, fourDigits?_eq_some.2 hyear, twoDigits?_eq_some.2 hmonth,
        twoDigits?_eq_some.2 hday]
      exact isCalendarDay_iff.2 h

theorem isOffset_iff : isOffset cs = true ↔ IsZone Text.decimalValue? cs := by
  constructor
  · intro h
    unfold isOffset at h
    split at h
    · exact .zulu
    · exact .smallZulu
    · rw [Bool.and_eq_true] at h
      obtain ⟨hsign, h⟩ := h
      split at h
      · rename_i hhour hminute
        exact .offset (by simpa using hsign) (twoDigits?_eq_some.1 hhour) (twoDigits?_eq_some.1 hminute) (by simpa using h)
      · cases h
    · cases h
  · intro h
    cases h with
    | zulu => rfl
    | smallZulu => rfl
    | offset hsign hhour hminute h =>
      obtain ⟨a, b, rfl⟩ := hhour.two
      obtain ⟨c, d, rfl⟩ := hminute.two
      rcases hsign with rfl | rfl
      all_goals simp [isOffset, twoDigits?_eq_some.2 hhour, twoDigits?_eq_some.2 hminute, h]

/-- An offset starts with no digit and with no point, so a fraction before it ends where the offset starts. -/
private theorem IsZone.start (h : IsZone Text.decimalValue? cs) :
    cs.dropWhile Text.isDecimal = cs ∧ cs.head? ≠ some '.' := by
  cases h with
  | zulu => decide
  | smallZulu => decide
  | offset hsign hhour hminute h =>
    rcases hsign with rfl | rfl
    · exact ⟨List.dropWhile_cons_of_neg (by decide), by simp⟩
    · exact ⟨List.dropWhile_cons_of_neg (by decide), by simp⟩

theorem isOffset_dropFraction_iff : isOffset (dropFraction cs) = true ↔
    ∃ fraction zone, cs = fraction ++ zone ∧ IsFraction Text.decimalValue? fraction ∧ IsZone Text.decimalValue? zone := by
  constructor
  · intro h
    unfold dropFraction at h
    split at h
    · rename_i d rest
      split at h
      · rename_i hd
        refine ⟨'.' :: d :: rest.takeWhile Text.isDecimal, rest.dropWhile Text.isDecimal, ?_, ?_, isOffset_iff.1 h⟩
        · rw [List.cons_append, List.cons_append, List.takeWhile_append_dropWhile]
        · refine .digits (List.cons_ne_nil _ _) (List.forall_mem_cons.2 ⟨hd, fun c hc => ?_⟩)
          exact (List.mem_takeWhile_imp hc : Text.isDecimal c = true)
      · exact ⟨[], _, rfl, .none, isOffset_iff.1 h⟩
    · exact ⟨[], _, rfl, .none, isOffset_iff.1 h⟩
  · rintro ⟨fraction, zone, rfl, hfraction, hzone⟩
    obtain ⟨hdigit, hpoint⟩ := hzone.start
    -- A zone starts with neither a digit nor a point, so exactly the fraction is dropped.
    have hdrop : dropFraction (fraction ++ zone) = zone := by
      cases hfraction with
      | none =>
        rw [List.nil_append]
        unfold dropFraction
        split
        · exact absurd rfl hpoint
        · rfl
      | @digits ds hne h =>
        obtain ⟨d, ds, rfl⟩ := List.exists_cons_of_ne_nil hne
        obtain ⟨hd, hds⟩ := List.forall_mem_cons.1 h
        have hd : Text.isDecimal d = true := hd
        have hds : ∀ c ∈ ds, Text.isDecimal c = true := hds
        simp only [dropFraction, List.cons_append, hd, if_true]
        rw [List.dropWhile_append_of_pos hds, hdigit]
    rw [hdrop]
    exact isOffset_iff.2 hzone

theorem isTime_iff : isTime cs = true ↔ IsFullTime Text.decimalValue? (Text.dropFinalBreak cs) := by
  unfold isTime
  generalize Text.dropFinalBreak cs = body
  constructor
  · intro h
    split at h
    · rw [Bool.and_eq_true, isOffset_dropFraction_iff] at h
      obtain ⟨h, fraction, zone, rfl, hfraction, hzone⟩ := h
      split at h
      · rename_i hhour hminute hsecond
        exact .intro (twoDigits?_eq_some.1 hhour) (twoDigits?_eq_some.1 hminute) (twoDigits?_eq_some.1 hsecond)
          (by simpa [and_assoc] using h) hfraction hzone
      · cases h
    · cases h
  · intro h
    cases h with
    | intro hhour hminute hsecond h hfraction hzone =>
      obtain ⟨a, b, rfl⟩ := hhour.two
      obtain ⟨c, d, rfl⟩ := hminute.two
      obtain ⟨e, f, rfl⟩ := hsecond.two
      simp only [List.cons_append, List.nil_append, twoDigits?_eq_some.2 hhour, twoDigits?_eq_some.2 hminute,
        twoDigits?_eq_some.2 hsecond, Bool.and_eq_true, decide_eq_true_eq, isOffset_dropFraction_iff]
      exact ⟨⟨⟨h.1, h.2.1⟩, h.2.2⟩, _, _, rfl, hfraction, hzone⟩

/-- A break at the end is passed over where the kind of text has none. -/
theorem dropFinalBreak_iff {kind : List Char → Prop} (hkind : ∀ body, kind body → '\n' ∉ body) :
    kind (Text.dropFinalBreak cs) ↔ Ended kind cs := by
  unfold Text.dropFinalBreak
  by_cases hlast : cs.getLast? = some '\n'
  · have hcs : cs = cs.dropLast ++ ['\n'] := (List.dropLast_append_getLast? _ hlast).symm
    rw [if_pos (by simp [hlast])]
    constructor
    · exact fun h => .inr ⟨cs.dropLast, h, hcs⟩
    · rintro (h | ⟨body, h, heq⟩)
      · exact absurd (List.mem_of_getLast? hlast) (hkind cs h)
      · rwa [heq, List.dropLast_concat]
  · rw [if_neg (by simpa using hlast)]
    refine ⟨.inl, ?_⟩
    rintro (h | ⟨body, h, rfl⟩)
    · exact h
    · exact absurd List.getLast?_concat hlast

private theorem IsFullDate.not_mem {c : Char} (hc : ¬(Text.isDecimal c = true ∨ c = '-')) (body : List Char)
    (h : IsFullDate Text.decimalValue? body) : c ∉ body := fun hmem => hc (h.mem hmem)

private theorem IsFullTime.not_mem {c : Char} (hc : ¬(Text.isDecimal c = true ∨ c ∈ ['.', ':', '+', '-', 'Z', 'z']))
    (body : List Char) (h : IsFullTime Text.decimalValue? body) : c ∉ body := fun hmem => hc (h.mem hmem)

theorem isDate_iff_ended : isDate cs = true ↔ Ended (IsFullDate Text.decimalValue?) cs := by
  rw [isDate_iff]
  exact dropFinalBreak_iff (IsFullDate.not_mem (by decide))

theorem isTime_iff_ended : isTime cs = true ↔ Ended (IsFullTime Text.decimalValue?) cs := by
  rw [isTime_iff]
  exact dropFinalBreak_iff (IsFullTime.not_mem (by decide))

/-- What is behind a text of the kind can only be a line break. -/
private theorem Ended.not_mem {kind : List Char → Prop} (h : Ended kind cs) {c : Char} (hbreak : c ≠ '\n')
    (hkind : ∀ body, kind body → c ∉ body) : c ∉ cs := by
  rcases h with h | ⟨body, h, rfl⟩
  · exact hkind cs h
  · simp [hkind body h, hbreak]

/-- Neither a date nor a time has the mark that joins them. -/
private theorem not_mem_of_isDate (h : isDate cs = true) : 'T' ∉ cs ∧ 't' ∉ cs := by
  have hended := isDate_iff_ended.1 h
  constructor
  · exact hended.not_mem (by decide) (IsFullDate.not_mem (by decide))
  · exact hended.not_mem (by decide) (IsFullDate.not_mem (by decide))

private theorem not_mem_of_isTime (h : isTime cs = true) : 'T' ∉ cs :=
  (isTime_iff_ended.1 h).not_mem (by decide) (IsFullTime.not_mem (by decide))

/-- The first mark is the only one, so it does not matter which of the two cases is looked for first. -/
theorem isDateTime_iff : isDateTime cs = true ↔ Joined (isDate · = true) (isTime · = true) cs := by
  unfold isDateTime
  constructor
  · intro h
    split at h
    · rename_i date time hcut
      rw [Bool.and_eq_true] at h
      rcases Option.or_eq_some_iff.1 hcut with hcut | ⟨-, hcut⟩
      · exact ⟨date, 'T', time, .inl rfl, (Text.eq_of_cut? hcut).1, h⟩
      · exact ⟨date, 't', time, .inr rfl, (Text.eq_of_cut? hcut).1, h⟩
    · cases h
  · rintro ⟨date, mark, time, hmark, rfl, hdate, htime⟩
    obtain ⟨hupper, hlower⟩ := not_mem_of_isDate hdate
    have hcut : (Text.cut? 'T' (date ++ mark :: time)).or (Text.cut? 't' (date ++ mark :: time)) = some (date, time) := by
      rcases hmark with rfl | rfl
      · rw [Text.cut?_append hupper]
        simp [Text.cut?]
      · have hnone : Text.cut? 'T' (date ++ 't' :: time) = none :=
          Text.cut?_eq_none.2 (by simp [hupper, not_mem_of_isTime htime])
        rw [hnone, Text.cut?_append hlower]
        simp [Text.cut?]
    simp [hcut, hdate, htime]

end Recognition

/-! ### Plain texts -/

/-- The text has no line break, and its digits are those of ASCII. -/
def IsPlain (cs : List Char) : Prop := '\n' ∉ cs ∧ ∀ c ∈ cs, Text.isDecimal c = true → c.isDigit = true

section Plain

variable {cs : List Char}

theorem decimalValue?_eq_asciiValue? {c : Char} (h : Text.isDecimal c = true → c.isDigit = true) :
    Text.decimalValue? c = asciiValue? c := by
  unfold asciiValue?
  split
  · rename_i hdigit
    rw [Text.decimalValue?, if_pos hdigit]
  · rename_i hdigit
    have hdecimal : ¬Text.isDecimal c = true := fun hdecimal => hdigit (h hdecimal)
    simpa [Text.isDecimal] using hdecimal

theorem IsPlain.digits (h : IsPlain cs) : ∀ c ∈ cs, Text.decimalValue? c = asciiValue? c :=
  fun c hc => decimalValue?_eq_asciiValue? (h.2 c hc)

/-- A text of ASCII digits and of characters that are neither digits nor line breaks is plain. -/
private theorem isPlain_of_mem (others : List Char) (hothers : others.all fun c => c != '\n' && !Text.isDecimal c)
    (h : ∀ c ∈ cs, (asciiValue? c).isSome = true ∨ c ∈ others) : IsPlain cs := by
  have hothers : ∀ c ∈ others, c ≠ '\n' ∧ Text.isDecimal c = false := by simpa using hothers
  have hdigit : ∀ c, (asciiValue? c).isSome = true → c.isDigit = true := by
    intro c hc
    unfold asciiValue? at hc
    split at hc
    · assumption
    · cases hc
  constructor
  · intro hbreak
    rcases h _ hbreak with hc | hc
    · exact absurd hc (by decide)
    · exact (hothers _ hc).1 rfl
  · intro c hc hdecimal
    rcases h c hc with hc | hc
    · exact hdigit c hc
    · rw [(hothers c hc).2] at hdecimal
      cases hdecimal

theorem IsFullDate.isPlain (h : IsFullDate asciiValue? cs) : IsPlain cs :=
  isPlain_of_mem ['-'] (by decide) fun c hc => (h.mem hc).imp_right List.mem_singleton.2

theorem IsFullTime.isPlain (h : IsFullTime asciiValue? cs) : IsPlain cs :=
  isPlain_of_mem ['.', ':', '+', '-', 'Z', 'z'] (by decide) fun c hc => h.mem hc

private theorem IsPlain.ended_iff {kind : List Char → Prop} (h : IsPlain cs) : Ended kind cs ↔ kind cs := by
  refine ⟨?_, .inl⟩
  rintro (hkind | ⟨body, -, rfl⟩)
  · exact hkind
  · exact absurd (by simp) h.1

/-- Where all digits are those of ASCII, and no line break is passed over, both readings of digits have the same texts. -/
private theorem ascii_iff (kind : (Char → Option Nat) → List Char → Prop)
    (hcongr : ∀ digit digit' : Char → Option Nat, kind digit cs → (∀ c ∈ cs, digit c = digit' c) → kind digit' cs)
    (hplain : kind asciiValue? cs → IsPlain cs) :
    kind asciiValue? cs ↔ Ended (kind Text.decimalValue?) cs ∧ IsPlain cs := by
  constructor
  · intro h
    exact ⟨.inl (hcongr _ _ h fun c hc => ((hplain h).digits c hc).symm), hplain h⟩
  · rintro ⟨h, hplain⟩
    exact hcongr _ _ (hplain.ended_iff.1 h) hplain.digits

theorem isFullDate_ascii_iff : IsFullDate asciiValue? cs ↔ isDate cs = true ∧ IsPlain cs := by
  rw [isDate_iff_ended]
  exact ascii_iff IsFullDate (fun _ _ => IsFullDate.congr) IsFullDate.isPlain

theorem isFullTime_ascii_iff : IsFullTime asciiValue? cs ↔ isTime cs = true ∧ IsPlain cs := by
  rw [isTime_iff_ended]
  exact ascii_iff IsFullTime (fun _ _ => IsFullTime.congr) IsFullTime.isPlain

theorem isPlain_joined {front rest : List Char} {mark : Char} (hmark : mark = 'T' ∨ mark = 't') :
    IsPlain (front ++ mark :: rest) ↔ IsPlain front ∧ IsPlain rest := by
  have hone : mark ≠ '\n' ∧ ¬Text.isDecimal mark = true := by
    rcases hmark with rfl | rfl <;> decide
  unfold IsPlain
  simp only [List.mem_append, List.mem_cons]
  grind

theorem joined_ascii_iff : Joined (IsFullDate asciiValue?) (IsFullTime asciiValue?) cs ↔ isDateTime cs = true ∧ IsPlain cs := by
  rw [isDateTime_iff]
  constructor
  · rintro ⟨front, mark, rest, hmark, rfl, hdate, htime⟩
    rw [isFullDate_ascii_iff] at hdate
    rw [isFullTime_ascii_iff] at htime
    exact ⟨⟨front, mark, rest, hmark, rfl, hdate.1, htime.1⟩, (isPlain_joined hmark).2 ⟨hdate.2, htime.2⟩⟩
  · rintro ⟨⟨front, mark, rest, hmark, rfl, hdate, htime⟩, hplain⟩
    obtain ⟨hfront, hrest⟩ := (isPlain_joined hmark).1 hplain
    exact ⟨front, mark, rest, hmark, rfl, isFullDate_ascii_iff.2 ⟨hdate, hfront⟩, isFullTime_ascii_iff.2 ⟨htime, hrest⟩⟩

end Plain

/-- The formats of dates and times accept the texts of the grammar with decimal digits of any script, with or without a line
break behind a date and behind a time.  With ASCII digits only, and without line breaks, they accept exactly what the grammar
with ASCII digits has. -/
theorem accepts_dateTime_iff (s : String) :
    ((StandardFormat.date.accepts (.str s) = .ok true ↔ Ended (IsFullDate Text.decimalValue?) s.toList) ∧
      (StandardFormat.time.accepts (.str s) = .ok true ↔ Ended (IsFullTime Text.decimalValue?) s.toList) ∧
      (StandardFormat.dateTime.accepts (.str s) = .ok true ↔
        Joined (Ended (IsFullDate Text.decimalValue?)) (Ended (IsFullTime Text.decimalValue?)) s.toList)) ∧
    (IsFullDate asciiValue? s.toList ↔ StandardFormat.date.accepts (.str s) = .ok true ∧ IsPlain s.toList) ∧
    (IsFullTime asciiValue? s.toList ↔ StandardFormat.time.accepts (.str s) = .ok true ∧ IsPlain s.toList) ∧
    (Joined (IsFullDate asciiValue?) (IsFullTime asciiValue?) s.toList ↔
      StandardFormat.dateTime.accepts (.str s) = .ok true ∧ IsPlain s.toList) := by
  have hok (b : Bool) : (Except.ok b : Except Regex.ReadError Bool) = .ok true ↔ b = true := by rw [Except.ok.injEq]
  have hdate : StandardFormat.date.accepts (.str s) = .ok true ↔ isDate s.toList = true := hok _
  have htime : StandardFormat.time.accepts (.str s) = .ok true ↔ isTime s.toList = true := hok _
  have hboth : StandardFormat.dateTime.accepts (.str s) = .ok true ↔ isDateTime s.toList = true := hok _
  rw [hdate, htime, hboth]
  refine ⟨⟨isDate_iff_ended, isTime_iff_ended, ?_⟩, isFullDate_ascii_iff, isFullTime_ascii_iff, joined_ascii_iff⟩
  rw [isDateTime_iff]
  simp only [Joined, isDate_iff_ended, isTime_iff_ended]

/-- A line break may follow a date, and a date may be written in digits beyond ASCII. -/
theorem accepts_date_loosely :
    (StandardFormat.date.accepts (.str "2020-01-01\n") = .ok true ∧ ¬IsFullDate asciiValue? "2020-01-01\n".toList) ∧
    (StandardFormat.date.accepts (.str "٢٠٢٠-٠١-٠١") = .ok true ∧ ¬IsFullDate asciiValue? "٢٠٢٠-٠١-٠١".toList) ∧
    StandardFormat.dateTime.accepts (.str "2020-01-01\nT00:00:00Z") = .ok true ∧
      ¬Joined (IsFullDate asciiValue?) (IsFullTime asciiValue?) "2020-01-01\nT00:00:00Z".toList := by
  refine ⟨⟨rfl, fun h => absurd h.isPlain.1 (by decide)⟩, ⟨rfl, fun h => ?_⟩, rfl, fun h => ?_⟩
  · exact absurd (h.isPlain.2 '٢' (by decide) (by decide)) (by decide)
  · exact absurd (joined_ascii_iff.1 h).2.1 (by decide)

end Format

end Conform
