import Conform.Proofs.Number.Doubles
import Conform.Proofs.Number.Order

/-!
# Multiples by value

A number is a multiple of another exactly if division to an integer leaves nothing (`Decimal.rest_eq_zero_iff`).  The test
sees what is left after it has been rounded, and rounding takes a rest for nothing exactly if it comes to half a unit of
the least place or less (`Decimal.isZero_round_iff`).  So the test tells multiples by the values of the two numbers where
the quotient and the rest lie within the limits (`Number.MeasuredBy`), and elsewhere only where the doubles happen to
(`Number.isMultipleOf_iff_isMultiple`).
-/

namespace Conform

/-- A quotient is rounded to zero up to one half. -/
theorem Double.roundDiv_eq_zero_iff {num den : Nat} (hden : 0 < den) : roundDiv num den = 0 ↔ 2 * num ≤ den := by
  have hzero : num / den = 0 ↔ num < den := Nat.div_eq_zero_iff_lt hden
  have hrest (h : num < den) : num % den = num := Nat.mod_eq_of_lt h
  unfold roundDiv
  dsimp only
  split
  · rename_i hup
    refine iff_of_false (Nat.succ_ne_zero _) fun hle => ?_
    have hlt : num < den := by omega
    have hlow : ¬(den < 2 * num || 2 * num == den && 0 % 2 == 1) = true := by simpa using hle
    rw [hrest hlt, hzero.2 hlt] at hup
    exact hlow hup
  · rename_i hdown
    simp only [Bool.or_eq_true, decide_eq_true_eq, not_or, not_lt] at hdown
    rw [hzero]
    constructor
    · intro hlt
      have := hdown.1
      rwa [hrest hlt] at this
    · intro hle
      omega

namespace Decimal

section Round

variable {limits : Limits} {c k : Nat} {e least : Int}

theorem dropDigits_eq_zero_iff : dropDigits c k = 0 ↔ 2 * c ≤ 10 ^ k := by
  unfold dropDigits
  split
  · rename_i hk
    have hlt := lt_pow_digitCount c
    have hpow : 10 * 10 ^ digitCount c ≤ 10 ^ k := by
      rw [← pow_succ']
      exact Nat.pow_le_pow_right (by norm_num) hk
    exact iff_of_true rfl (by omega)
  · exact Double.roundDiv_eq_zero_iff (Nat.pow_pos (by norm_num))

/-- Nothing is left above a place of what comes to half a unit there or less. -/
theorem roundAt_eq_zero_iff (hc : 0 < c) : (roundAt least c e).1 = 0 ↔ (c : ℚ) * 10 ^ e ≤ 10 ^ least / 2 := by
  have hpos : (0 : ℚ) < 10 ^ e := by positivity
  unfold roundAt
  split
  · rename_i hlt
    obtain ⟨k, rfl⟩ : ∃ k : Nat, least = k + e := ⟨(least - e).toNat, by omega⟩
    have hk : (k + e - e).toNat = k := by omega
    have hscale : (c : ℚ) * 10 ^ e * 2 = 2 * c * 10 ^ e := by ring
    rw [dropDigits_eq_zero_iff, hk, le_div_iff₀ (by norm_num), hscale, zpow_add₀ (by norm_num), zpow_natCast,
      mul_le_mul_iff_left₀ hpos]
    norm_cast
  · rename_i hle
    have hpow : (10 : ℚ) ^ least ≤ 10 ^ e := zpow_le_zpow_right₀ (by norm_num) (not_lt.1 hle)
    have hone : (1 : ℚ) ≤ c := by exact_mod_cast hc
    refine iff_of_false hc.ne' (not_le.2 ?_)
    nlinarith [show (0 : ℚ) < 10 ^ least by positivity]

/-- What is rounded to this magnitude or less comes to nothing. -/
def Limits.floor (limits : Limits) : ℚ := 10 ^ (limits.minLeading - limits.digits + 1) / 2

theorem Limits.floor_pos (limits : Limits) : 0 < limits.floor := by
  unfold Limits.floor
  positivity

/-- A result is rounded to zero exactly if its magnitude is too small. -/
theorem isZero_round_iff (hdigits : 0 < limits.digits) {negative : Bool} {d : Decimal}
    (h : round limits negative c e = .ok d) : d.isZero = true ↔ (c : ℚ) * 10 ^ e ≤ limits.floor := by
  unfold round at h
  split at h
  · rename_i hzero
    cases h
    obtain rfl : c = 0 := by simpa using hzero
    refine iff_of_true rfl ?_
    simpa using limits.floor_pos.le
  rename_i hc
  have hc : 0 < c := Nat.pos_of_ne_zero (by simpa using hc)
  have hd : d.isZero = true ↔ (roundAt (limits.place c e) c e).1 = 0 := by
    change (if limits.maxLeading < limits.leading c e then _ else _) = _ at h
    split at h
    · cases h
    · cases h
      exact beq_iff_eq
  rw [hd, roundAt_eq_zero_iff hc, Limits.floor]
  rcases max_choice (e + digitCount c - limits.digits) (limits.minLeading - limits.digits + 1) with hplace | hplace
  · -- with all its digits in use a result lies above the least place
    have hcount := digitCount_pos c
    have hlow := pow_leading_le hc (e := e)
    have hunit : (10 : ℚ) ^ limits.place c e ≤ 10 ^ leading c e := by
      refine zpow_le_zpow_right₀ (by norm_num) ?_
      unfold leading Limits.place
      omega
    have hleast : (10 : ℚ) ^ (limits.minLeading - limits.digits + 1) ≤ 10 ^ limits.place c e :=
      zpow_le_zpow_right₀ (by norm_num) (le_max_right _ _)
    have hpos : (0 : ℚ) < 10 ^ limits.place c e := by positivity
    exact iff_of_false (by linarith) (by linarith)
  · rw [Limits.place, hplace]

end Round

/-! ### What division leaves -/

section Rest

variable {a b : ℚ}

theorem rest_eq_zero_iff (hb : b ≠ 0) : rest a b = 0 ↔ ∃ k : ℤ, a = k * b := by
  unfold rest
  constructor
  · intro h
    exact ⟨⌊a / b⌋, by linarith⟩
  · rintro ⟨k, rfl⟩
    rw [mul_div_cancel_right₀ _ hb, Int.floor_intCast]
    ring

theorem rest_nonneg (hb : 0 < b) : 0 ≤ rest a b := by
  have hfloor := Int.floor_le (a / b)
  rw [le_div_iff₀ hb] at hfloor
  unfold rest
  linarith

theorem rest_lt (hb : 0 < b) : rest a b < b := by
  have hfloor := Int.lt_floor_add_one (a / b)
  rw [div_lt_iff₀ hb] at hfloor
  unfold rest
  linarith

end Rest

theorem magnitude_eq_abs (d : Decimal) : d.magnitude = |d.value| := by
  cases d with
  | finite s c e =>
    have hnonneg : (0 : ℚ) ≤ c * 10 ^ e := by positivity
    cases s <;> simp [magnitude, value, abs_of_nonneg hnonneg]
  | infinite | nan => simp [magnitude, value]

/-- With no more digits in the quotient than the limit the remainder is the rounded rest. -/
theorem remainder_of_lt {limits : Limits} (hdigits : 0 < limits.digits) {x d : Decimal} (hx : x.isFinite = true)
    (hd : d.isFinite = true) (hpos : 0 < d.magnitude) (h : x.magnitude < 10 ^ limits.digits * d.magnitude) :
    ∃ s r e, remainder limits x d = round limits s r e ∧ (r : ℚ) * 10 ^ e = rest x.magnitude d.magnitude := by
  cases x with
  | infinite | nan => cases hx
  | finite s c e =>
    cases d with
    | infinite | nan => cases hd
    | finite s' c' e' =>
      have hc' : 0 < c' := Nat.pos_of_ne_zero fun hzero => by simp [magnitude, hzero] at hpos
      obtain ⟨r, y, hparts, hrest⟩ := remainderParts_of_lt hdigits hc' h
      refine ⟨s, r, y, ?_, hrest⟩
      rw [remainder, if_neg (by simpa using hc'.ne'), hparts]
      rfl

theorem remainder_of_le {limits : Limits} (hdigits : 0 < limits.digits) {x d : Decimal} (hx : x.isFinite = true)
    (hd : d.isFinite = true) (hpos : 0 < d.magnitude) (h : 10 ^ limits.digits * d.magnitude ≤ x.magnitude) :
    remainder limits x d = .error .invalid := by
  cases x with
  | infinite | nan => cases hx
  | finite s c e =>
    cases d with
    | infinite | nan => cases hd
    | finite s' c' e' =>
      have hc' : 0 < c' := Nat.pos_of_ne_zero fun hzero => by simp [magnitude, hzero] at hpos
      rw [remainder, if_neg (by simpa using hc'.ne'), remainderParts_of_le hdigits hc' h]
      rfl

end Decimal

namespace Number

/-- The value is an integer times the value of the divisor. -/
def IsMultiple (value divisor : Number) : Prop := ∃ k : ℤ, value.value = k * divisor.value

/-- What the division of a number to an integer leaves, if anything, does not get lost: two integers are divided exactly,
and else the quotient has no more than 200 digits and the rest is neither too small nor too large for the limits. -/
def MeasuredBy (value divisor : Number) : Prop :=
  (∃ m n, value = .int m ∧ divisor = .int n) ∨
  (value.magnitude < 10 ^ 200 * divisor.magnitude ∧
    (0 < Decimal.rest value.magnitude divisor.magnitude →
      Decimal.Limits.remainder.floor < Decimal.rest value.magnitude divisor.magnitude ∧
      Decimal.rest value.magnitude divisor.magnitude < Decimal.Limits.remainder.ceiling))

section Multiple

variable {x d : Number}

theorem magnitude_of_positive (hd : d.isJson = true) (hpositive : d.isPositive = true) : d.magnitude = d.value := by
  rw [magnitude, Decimal.magnitude_eq_abs]
  exact abs_of_pos ((isPositive_iff hd).1 hpositive)

theorem magnitude_pos (hd : d.isJson = true) (hpositive : d.isPositive = true) : 0 < d.magnitude := by
  rw [magnitude_of_positive hd hpositive]
  exact (isPositive_iff hd).1 hpositive

/-- The rest of the magnitudes tells multiples, whatever the sign of the dividend. -/
theorem rest_eq_zero_iff_isMultiple (hd : d.isJson = true) (hpositive : d.isPositive = true) :
    Decimal.rest x.magnitude d.magnitude = 0 ↔ x.IsMultiple d := by
  have hpos := (isPositive_iff hd).1 hpositive
  rw [magnitude_of_positive hd hpositive, Decimal.rest_eq_zero_iff hpos.ne', magnitude, Decimal.magnitude_eq_abs]
  change (∃ k : ℤ, |x.value| = k * d.value) ↔ ∃ k : ℤ, x.value = k * d.value
  rcases abs_choice x.value with habs | habs
  · rw [habs]
  · rw [habs]
    constructor
    · rintro ⟨k, hk⟩
      exact ⟨-k, by push_cast; linarith⟩
    · rintro ⟨k, hk⟩
      exact ⟨-k, by push_cast; linarith⟩

theorem isMultiple_int_iff {m n : Int} : IsMultiple (.int m) (.int n) ↔ n ∣ m := by
  unfold IsMultiple
  rw [value_int, value_int]
  constructor
  · rintro ⟨k, hk⟩
    exact ⟨k, by rw [mul_comm]; exact_mod_cast hk⟩
  · rintro ⟨k, rfl⟩
    exact ⟨k, by push_cast; ring⟩

theorem isMultipleOf_int {m n : Int} (hn : n ≠ 0) :
    ∃ b, isMultipleOf (.int m) (.int n) = .ok b ∧ (b = true ↔ IsMultiple (.int m) (.int n)) := by
  refine ⟨m % n == 0, ?_, ?_⟩
  · rw [isMultipleOf, if_neg (by simpa using hn)]
  · rw [isMultiple_int_iff, beq_iff_eq, Int.dvd_iff_emod_eq_zero]

/-- Nothing gets lost of the rest of numerals with no digit below the least place, where the leading digits of the two are
fewer than 200 places apart and that of the divisor below the limit. -/
theorem measuredBy_of_leading {s s' : Bool} {c c' : Nat} {e e' : Int} (hx : x.toDecimal = .finite s c e)
    (hd : d.toDecimal = .finite s' c' e') (hc' : 0 < c') (he : -1000198 ≤ e) (he' : -1000198 ≤ e')
    (htop : Decimal.leading c' e' < 999999) (hnear : Decimal.leading c e < Decimal.leading c' e' + 200) :
    x.MeasuredBy d := by
  have hm : x.magnitude = c * 10 ^ e := by rw [magnitude, hx, Decimal.magnitude]
  have hm' : d.magnitude = c' * 10 ^ e' := by rw [magnitude, hd, Decimal.magnitude]
  refine .inr ⟨?_, fun hrest => ⟨?_, ?_⟩⟩
  · rw [hm, hm']
    calc (c : ℚ) * 10 ^ e < 10 ^ (Decimal.leading c e + 1) := Decimal.lt_pow_leading
      _ ≤ 10 ^ (200 + Decimal.leading c' e' : Int) := zpow_le_zpow_right₀ (by norm_num) (by omega)
      _ = 10 ^ 200 * 10 ^ Decimal.leading c' e' := zpow_add₀ (by norm_num) 200 _
      _ ≤ 10 ^ 200 * (c' * 10 ^ e') := mul_le_mul_of_nonneg_left (Decimal.pow_leading_le hc') (by positivity)
  · -- the rest is a multiple of the unit of the finer numeral
    have hunit : (0 : ℚ) < 10 ^ min e e' := by positivity
    rw [hm, hm', Decimal.scale_eq (min_le_left e e'), Decimal.scale_eq (min_le_right e e'),
      Decimal.rest_scale hunit] at hrest ⊢
    generalize c * Nat.pow 10 (e - min e e').toNat % (c' * Nat.pow 10 (e' - min e e').toNat) = r at *
    have hr : (1 : ℚ) ≤ r := by
      exact_mod_cast Nat.pos_of_ne_zero fun hzero : r = 0 => by simp [hzero] at hrest
    have hleast : (10 : ℚ) ^ (-1000198 : Int) ≤ 10 ^ min e e' := zpow_le_zpow_right₀ (by norm_num) (by omega)
    have hfloor : Decimal.Limits.remainder.floor = (10 : ℚ) ^ (-1000198 : Int) / 2 := rfl
    have hpos : (0 : ℚ) < 10 ^ (-1000198 : Int) := by positivity
    rw [hfloor]
    nlinarith
  · have hb : (0 : ℚ) < c' * 10 ^ e' := by positivity
    calc Decimal.rest x.magnitude d.magnitude < d.magnitude := Decimal.rest_lt (by rw [hm']; exact hb)
      _ = c' * 10 ^ e' := hm'
      _ ≤ 10 ^ (Decimal.leading c' e' + 1) := Decimal.lt_pow_leading.le
      _ ≤ Decimal.Limits.remainder.ceiling := Decimal.pow_le_ceiling .remainder (by decide) (by
        change _ ≤ (999999 : Int)
        omega)

/-- Unless both numbers are integers their remainder as decimals is asked for. -/
theorem isMultipleOf_of_not_int (h : ¬∃ m n, x = .int m ∧ d = .int n) :
    x.isMultipleOf d = match Decimal.remainder .remainder x.toDecimal d.toDecimal with
      | .ok r => .ok r.isZero
      | .error .overflow => .error .overflow
      | .error .invalid => x.dividesRoughly d := by
  unfold isMultipleOf
  split
  · exact absurd ⟨_, _, rfl, rfl⟩ h
  · rfl

/-- The rest of a quotient of no more than 200 digits is tested after it has been rounded. -/
theorem isMultipleOf_of_lt (hx : x.isJson = true) (hd : d.isJson = true) (hpositive : d.isPositive = true)
    (hnot : ¬∃ m n, x = .int m ∧ d = .int n) (hlt : x.magnitude < 10 ^ 200 * d.magnitude) :
    x.isMultipleOf d =
      if Decimal.rest x.magnitude d.magnitude < Decimal.Limits.remainder.ceiling then
        .ok (decide (Decimal.rest x.magnitude d.magnitude ≤ Decimal.Limits.remainder.floor))
      else .error .overflow := by
  have hpos := magnitude_pos hd hpositive
  obtain ⟨s, r, e, hremainder, hrest⟩ := Decimal.remainder_of_lt (by decide : 0 < Decimal.Limits.remainder.digits)
    (isFinite_toDecimal hx) (isFinite_toDecimal hd) hpos hlt
  have hreturns : Returns (Decimal.round .remainder s r e) ↔ (r : ℚ) * 10 ^ e < Decimal.Limits.remainder.ceiling :=
    Decimal.returns_round_iff (by decide) (by decide) s
  rw [isMultipleOf_of_not_int hnot, hremainder]
  simp only [magnitude, ← hrest]
  cases hround : Decimal.round .remainder s r e with
  | ok result =>
    rw [if_pos (hreturns.1 ⟨_, hround⟩)]
    refine congrArg Except.ok ?_
    rw [Bool.eq_iff_iff, decide_eq_true_iff]
    exact Decimal.isZero_round_iff (by decide) hround
  | error fault =>
    obtain rfl := Decimal.eq_overflow_of_round hround
    have hnot : ¬Returns (Decimal.round .remainder s r e) := by
      rw [hround]
      rintro ⟨_, h⟩
      cases h
    rw [if_neg (mt hreturns.2 hnot)]

/-- Of a longer quotient that of the doubles is all that is asked for: it passes if it is finite. -/
theorem isMultipleOf_of_le (hx : x.isJson = true) (hd : d.isJson = true) (hpositive : d.isPositive = true)
    (hnot : ¬∃ m n, x = .int m ∧ d = .int n) (hle : 10 ^ 200 * d.magnitude ≤ x.magnitude) :
    x.isMultipleOf d = (x.roughQuotient d).map Double.isFinite := by
  have hpos := magnitude_pos hd hpositive
  rw [isMultipleOf_of_not_int hnot, Decimal.remainder_of_le (by decide : 0 < Decimal.Limits.remainder.digits)
    (isFinite_toDecimal hx) (isFinite_toDecimal hd) hpos hle]
  change x.dividesRoughly d = _
  rw [dividesRoughly_eq]
  cases hq : x.roughQuotient d with
  | error => rfl
  | ok q => exact congrArg Except.ok (isInteger_roughQuotient hx hd hle hq)

/-- A test for what is no more than a positive bound tells zero if what is not zero is more. -/
private theorem le_iff_eq_zero_iff {r bound : ℚ} (hr : 0 ≤ r) (hbound : 0 < bound) :
    (r ≤ bound ↔ r = 0) ↔ (0 < r → bound < r) := by
  constructor
  · intro hiff hpos
    by_contra hle
    exact hpos.ne' (hiff.1 (not_lt.1 hle))
  · intro h
    constructor
    · intro hle
      by_contra hne
      exact not_lt.2 hle (h (lt_of_le_of_ne hr (Ne.symm hne)))
    · rintro rfl
      exact hbound.le

/-- The test tells multiples where nothing of the rest gets lost; and where the quotient is longer, if it should be that the
number is a multiple and the quotient of the doubles finite, or neither. -/
theorem isMultipleOf_iff_isMultiple (hx : x.isJson = true) (hd : d.isJson = true) (hpositive : d.isPositive = true) :
    (∃ b, x.isMultipleOf d = .ok b ∧ (b = true ↔ x.IsMultiple d)) ↔ x.MeasuredBy d ∨
      (10 ^ 200 * d.magnitude ≤ x.magnitude ∧ ∃ q, x.roughQuotient d = .ok q ∧ (q.isFinite = true ↔ x.IsMultiple d)) := by
  by_cases hint : ∃ m n, x = .int m ∧ d = .int n
  · refine iff_of_true ?_ (.inl (.inl hint))
    obtain ⟨m, n, rfl, rfl⟩ := hint
    refine isMultipleOf_int ?_
    rintro rfl
    cases hpositive
  rw [MeasuredBy, or_iff_right hint]
  -- Below `10 ^ 200` times the divisor the rest decides, above it the quotient of the doubles.
  rcases lt_or_ge x.magnitude (10 ^ 200 * d.magnitude) with hlt | hle
  · have hnonneg := Decimal.rest_nonneg (a := x.magnitude) (magnitude_pos hd hpositive)
    simp only [hlt, true_and, not_le.2 hlt, false_and, or_false]
    rw [isMultipleOf_of_lt hx hd hpositive hint hlt, ← rest_eq_zero_iff_isMultiple hd hpositive]
    generalize Decimal.rest x.magnitude d.magnitude = r at *
    split
    · rename_i hceiling
      simp only [Except.ok.injEq, exists_eq_left', decide_eq_true_iff, hceiling, and_true]
      exact le_iff_eq_zero_iff hnonneg Decimal.Limits.remainder.floor_pos
    · rename_i hceiling
      refine iff_of_false (by simp) fun h => ?_
      have hceiling_pos : 0 < Decimal.Limits.remainder.ceiling :=
        lt_of_lt_of_le (by positivity) (Decimal.pow_le_ceiling .remainder (by decide) le_rfl)
      exact hceiling (h (by linarith)).2
  · simp only [not_lt.2 hle, false_and, false_or, hle, true_and]
    rw [isMultipleOf_of_le hx hd hpositive hint hle]
    cases x.roughQuotient d with
    | error => simp [Except.map]
    | ok q => simp [Except.map]

end Multiple

end Number

end Conform
