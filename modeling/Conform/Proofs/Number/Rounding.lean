import Conform.Number.Decimal
import Conform.Proofs.Result
import Mathlib.Algebra.Order.Field.Power
import Mathlib.Data.Rat.Floor
import Mathlib.Tactic.Linarith

/-!
# Magnitudes and rounding

The magnitude of a decimal number lies between two powers of ten that its leading digit tells (`Decimal.pow_leading_le`,
`Decimal.lt_pow_leading`).  A result is too large for a calculation exactly if its magnitude comes within half a unit of
the last digit of the least power of ten beyond the limits (`Decimal.returns_round_iff`).
-/

namespace Conform

theorem digitCount_pos (n : Nat) : 0 < digitCount n := Nat.length_toDigits_pos

theorem digitCount_le_iff {n k : Nat} (hk : 0 < k) : digitCount n ≤ k ↔ n < 10 ^ k :=
  Nat.length_toDigits_le_iff (by decide) hk

theorem lt_pow_digitCount (n : Nat) : n < 10 ^ digitCount n := (digitCount_le_iff (digitCount_pos n)).1 le_rfl

theorem pow_le_of_lt_digitCount {n k : Nat} (hn : 0 < n) (hk : k < digitCount n) : 10 ^ k ≤ n := by
  rcases Nat.eq_zero_or_pos k with rfl | hpos
  · exact hn
  · by_contra h
    have := (digitCount_le_iff hpos).2 (not_le.1 h)
    omega

namespace Double

theorem le_roundDiv (num den : Nat) : num / den ≤ roundDiv num den := by
  unfold roundDiv
  dsimp only
  split
  · omega
  · exact le_rfl

theorem roundDiv_le (num den : Nat) : roundDiv num den ≤ num / den + 1 := by
  unfold roundDiv
  dsimp only
  split
  · exact le_rfl
  · omega

/-- A quotient is rounded up to an even number from halfway below it. -/
theorem le_roundDiv_iff {num den n : Nat} (hden : 0 < den) (hn : 0 < n) (heven : n % 2 = 0) :
    n ≤ roundDiv num den ↔ (2 * n - 1) * den ≤ 2 * num := by
  have hnum := Nat.div_add_mod num den
  have hrest := Nat.mod_lt num hden
  unfold roundDiv
  dsimp only
  generalize num / den = q at *
  generalize num % den = r at *
  have hcases : q + 1 < n ∨ q + 1 = n ∨ n ≤ q := by omega
  obtain ⟨k, rfl⟩ : ∃ k, n = k + 1 := ⟨n - 1, by omega⟩
  have hfactor : 2 * (k + 1) - 1 = 2 * k + 1 := by omega
  rw [hfactor]
  rcases hcases with h | h | h
  · have hlt : 2 * num < (2 * k + 1) * den := by
      have := Nat.mul_le_mul_left den (show q + 1 ≤ k by omega)
      nlinarith
    refine iff_of_false ?_ (by omega)
    split <;> omega
  · obtain rfl : q = k := by omega
    have hodd : q % 2 = 1 := by omega
    have hround : (den < 2 * r || 2 * r == den && q % 2 == 1) = true ↔ den ≤ 2 * r := by
      simp only [hodd, Bool.or_eq_true, Bool.and_eq_true, decide_eq_true_eq, beq_iff_eq, and_true]
      omega
    have hhalf : (2 * q + 1) * den ≤ 2 * num ↔ den ≤ 2 * r := by
      have : (2 * q + 1) * den = 2 * (den * q) + den := by ring
      omega
    rw [hhalf, ← hround]
    split
    · simp_all
    · rename_i hfalse
      refine iff_of_false (by omega) hfalse
  · have hle : (2 * k + 1) * den ≤ 2 * num := by
      have := Nat.mul_le_mul_left den h
      nlinarith
    refine iff_of_true ?_ hle
    split <;> omega

end Double

namespace Decimal

/-- The magnitude of a finite number. -/
def magnitude : Decimal → ℚ
  | .finite _ c e => c * 10 ^ e
  | _ => 0

section Magnitude

variable {c : Nat} {e : Int}

theorem pow_leading_le (hc : 0 < c) : (10 : ℚ) ^ leading c e ≤ c * 10 ^ e := by
  have hpos := digitCount_pos c
  have hpow : (10 : ℚ) ^ (digitCount c - 1) ≤ c := by
    exact_mod_cast pow_le_of_lt_digitCount hc (show digitCount c - 1 < digitCount c by omega)
  have hlead : leading c e = ((digitCount c - 1 : Nat) : Int) + e := by
    unfold leading
    omega
  rw [hlead, zpow_add₀ (by norm_num), zpow_natCast]
  gcongr

theorem lt_pow_leading : (c : ℚ) * 10 ^ e < 10 ^ (leading c e + 1) := by
  have hpow : (c : ℚ) < 10 ^ digitCount c := by exact_mod_cast lt_pow_digitCount c
  have hlead : leading c e + 1 = (digitCount c : Int) + e := by
    unfold leading
    omega
  rw [hlead, zpow_add₀ (by norm_num), zpow_natCast]
  gcongr

/-- Of two numerals the one with the greater leading digit is greater. -/
theorem lt_of_leading_lt {c' : Nat} {e' : Int} (h : leading c e < leading c' e') (hc' : 0 < c') :
    (c : ℚ) * 10 ^ e < c' * 10 ^ e' :=
  calc (c : ℚ) * 10 ^ e < 10 ^ (leading c e + 1) := lt_pow_leading
    _ ≤ 10 ^ leading c' e' := zpow_le_zpow_right₀ (by norm_num) (by omega)
    _ ≤ c' * 10 ^ e' := pow_leading_le hc'

/-- A numeral brought to a lesser exponent. -/
theorem scale_eq {least : Int} (h : least ≤ e) :
    (c : ℚ) * 10 ^ e = ((c * Nat.pow 10 (e - least).toNat : Nat) : ℚ) * 10 ^ least := by
  have he : e = ((e - least).toNat : Int) + least := by omega
  rw [Nat.pow_eq, Nat.cast_mul, Nat.cast_pow, mul_assoc]
  conv_lhs => rw [he, zpow_add₀ (by norm_num), zpow_natCast]
  norm_num

end Magnitude

/-! ### Rounding to the limits -/

section Round

variable {limits : Limits} {c : Nat} {e : Int}

/-- What is rounded to this magnitude or more has too large a leading digit. -/
def Limits.ceiling (limits : Limits) : ℚ :=
  10 ^ (limits.maxLeading + 1) - 10 ^ (limits.maxLeading + 1 - limits.digits) / 2

theorem pow_le_ceiling (limits : Limits) {k : Int} (hdigits : 0 < limits.digits) (hk : k ≤ limits.maxLeading) :
    (10 : ℚ) ^ k ≤ limits.ceiling := by
  have hk : (10 : ℚ) ^ k ≤ 10 ^ limits.maxLeading := zpow_le_zpow_right₀ (by norm_num) hk
  have hunit : (10 : ℚ) ^ (limits.maxLeading + 1 - limits.digits) ≤ 10 ^ limits.maxLeading :=
    zpow_le_zpow_right₀ (by norm_num) (by omega)
  have hpos : (0 : ℚ) < 10 ^ limits.maxLeading := by positivity
  have hsucc : (10 : ℚ) ^ (limits.maxLeading + 1) = 10 * 10 ^ limits.maxLeading := by
    rw [zpow_add_one₀ (by norm_num)]
    ring
  unfold Limits.ceiling
  linarith

private theorem ceiling_lt_pow (limits : Limits) {k : Int} (hk : limits.maxLeading < k) : limits.ceiling < (10 : ℚ) ^ k := by
  have hk : (10 : ℚ) ^ (limits.maxLeading + 1) ≤ 10 ^ k := zpow_le_zpow_right₀ (by norm_num) (by omega)
  have hpos : (0 : ℚ) < 10 ^ (limits.maxLeading + 1 - limits.digits) := by positivity
  unfold Limits.ceiling
  linarith

/-- The place below which the digits of a result are rounded away. -/
def Limits.place (limits : Limits) (c : Nat) (e : Int) : Int :=
  max (e + digitCount c - limits.digits) (limits.minLeading - limits.digits + 1)

/-- The leading digit of a result, after rounding. -/
def Limits.leading (limits : Limits) (c : Nat) (e : Int) : Int :=
  Decimal.leading (roundAt (limits.place c e) c e).1 (roundAt (limits.place c e) c e).2

private theorem leading_of_lt (h : e < limits.place c e) : limits.leading c e =
    limits.place c e + digitCount (dropDigits c (limits.place c e - e).toNat) - 1 := by
  unfold Limits.leading roundAt
  rw [if_pos h]
  rfl

private theorem leading_of_le (h : limits.place c e ≤ e) : limits.leading c e = Decimal.leading c e := by
  unfold Limits.leading roundAt
  rw [if_neg (by omega)]

theorem returns_round (hc : 0 < c) {negative : Bool} :
    Returns (round limits negative c e) ↔ limits.leading c e ≤ limits.maxLeading := by
  unfold round
  rw [if_neg (by simpa using hc.ne')]
  change Returns (if limits.maxLeading < limits.leading c e then _ else _) ↔ _
  split
  · exact iff_of_false (fun ⟨d, h⟩ => by cases h) (by omega)
  · exact iff_of_true (returns_ok _) (by omega)

theorem eq_overflow_of_round {negative : Bool} {fault : Fault} (h : round limits negative c e = .error fault) :
    fault = .overflow := by
  unfold round at h
  split at h
  · cases h
  · dsimp only at h
    split at h
    · cases h
      rfl
    · cases h

theorem digitCount_dropDigits_le (k : Nat) : digitCount (dropDigits c k) ≤ digitCount c - k + 1 := by
  unfold dropDigits
  split
  · exact (digitCount_le_iff (by omega)).2 (by positivity)
  · rename_i hk
    have hpow : (10 : Nat) ^ digitCount c = 10 ^ (digitCount c - k) * 10 ^ k := by
      rw [← pow_add, Nat.sub_add_cancel (by omega)]
    have hdiv : c / Nat.pow 10 k < 10 ^ (digitCount c - k) := by
      refine Nat.div_lt_of_lt_mul ?_
      rw [Nat.pow_eq, mul_comm, ← hpow]
      exact lt_pow_digitCount c
    have hround := Double.roundDiv_le c (Nat.pow 10 k)
    have hlt : 10 ^ (digitCount c - k) < 10 ^ (digitCount c - k + 1) := Nat.pow_lt_pow_right (by norm_num) (by omega)
    exact (digitCount_le_iff (by omega)).2 (by omega)

theorem le_digitCount_dropDigits (hc : 0 < c) {k : Nat} (hk : k < digitCount c) :
    digitCount c - k ≤ digitCount (dropDigits c k) := by
  unfold dropDigits
  rw [if_neg (by omega)]
  have hpow : (10 : Nat) ^ (digitCount c - 1) = 10 ^ (digitCount c - k - 1) * 10 ^ k := by
    rw [← pow_add]
    congr 1
    omega
  have hdiv : 10 ^ (digitCount c - k - 1) ≤ c / Nat.pow 10 k := by
    refine (Nat.le_div_iff_mul_le (Nat.pow_pos (by norm_num))).2 ?_
    rw [← hpow]
    exact pow_le_of_lt_digitCount hc (by have := digitCount_pos c; omega)
  have hround := Double.le_roundDiv c (Nat.pow 10 k)
  by_contra h
  have := (digitCount_le_iff (n := Double.roundDiv c (Nat.pow 10 k)) (k := digitCount c - k - 1) (by
    have := digitCount_pos (Double.roundDiv c (Nat.pow 10 k))
    omega)).1 (by omega)
  omega

/-- A result whose leading digit is at the limit is rounded beyond it from half a unit below the next power. -/
private theorem maxLeading_lt_iff (hdigits : 0 < limits.digits) {k : Nat} (hle : limits.digits < digitCount c)
    (hk : k = digitCount c - limits.digits) (htop : Decimal.leading c e = limits.maxLeading) :
    limits.maxLeading < e + k + digitCount (dropDigits c k) - 1 ↔ limits.ceiling ≤ (c : ℚ) * 10 ^ e := by
  have hplace : e + k = limits.maxLeading + 1 - limits.digits := by
    unfold Decimal.leading at htop
    omega
  have hcount : limits.maxLeading < e + k + digitCount (dropDigits c k) - 1 ↔ 10 ^ limits.digits ≤ dropDigits c k := by
    rw [← not_lt (a := dropDigits c k), ← digitCount_le_iff hdigits, hplace]
    omega
  have heven : (10 : Nat) ^ limits.digits % 2 = 0 := by
    obtain ⟨n, hn⟩ := Nat.exists_eq_succ_of_ne_zero hdigits.ne'
    rw [hn, pow_succ]
    omega
  have hone := Nat.one_le_pow limits.digits 10 (by norm_num)
  have hcast : (((2 * 10 ^ limits.digits - 1) * 10 ^ k : Nat) : ℚ) = (2 * 10 ^ limits.digits - 1) * 10 ^ k := by
    rw [Nat.cast_mul, Nat.cast_sub (by omega)]
    push_cast
    rfl
  have hceiling : limits.ceiling = (2 * 10 ^ limits.digits - 1) * 10 ^ k * 10 ^ e / 2 := by
    have hunit : (10 : ℚ) ^ (limits.maxLeading + 1 - limits.digits) = 10 ^ k * 10 ^ e := by
      rw [← hplace, zpow_add₀ (by norm_num), zpow_natCast, mul_comm]
    have hnext : (10 : ℚ) ^ (limits.maxLeading + 1) = 10 ^ limits.digits * (10 ^ k * 10 ^ e) := by
      rw [← hunit, ← zpow_natCast, ← zpow_add₀ (by norm_num)]
      congr 1
      omega
    rw [Limits.ceiling, hunit, hnext]
    ring
  have hpos : (0 : ℚ) < 10 ^ e := by positivity
  have hscale : (c : ℚ) * 10 ^ e * 2 = 2 * c * 10 ^ e := by ring
  rw [hcount, dropDigits, if_neg (by omega), Nat.pow_eq,
    Double.le_roundDiv_iff (Nat.pow_pos (by norm_num)) (by positivity) heven]
  rw [hceiling, div_le_iff₀ (by norm_num), hscale, mul_le_mul_iff_left₀ hpos, ← hcast]
  norm_cast

/-- A result that needs no rounding is below the next power by a unit of its last digit. -/
private theorem lt_ceiling_of_digits (hle : digitCount c ≤ limits.digits)
    (htop : Decimal.leading c e = limits.maxLeading) : (c : ℚ) * 10 ^ e < limits.ceiling := by
  unfold Decimal.leading at htop
  have hc : (c : ℚ) + 1 ≤ 10 ^ digitCount c := by exact_mod_cast lt_pow_digitCount c
  have hnext : (10 : ℚ) ^ (limits.maxLeading + 1) = 10 ^ digitCount c * 10 ^ e := by
    rw [← zpow_natCast, ← zpow_add₀ (by norm_num)]
    congr 1
    omega
  have hunit : (10 : ℚ) ^ (limits.maxLeading + 1 - limits.digits) ≤ 10 ^ e :=
    zpow_le_zpow_right₀ (by norm_num) (by omega)
  have hpos : (0 : ℚ) < 10 ^ e := by positivity
  have hmul := mul_le_mul_of_nonneg_right hc hpos.le
  unfold Limits.ceiling
  rw [hnext]
  linarith

/-- A result is too large exactly if its magnitude is. -/
theorem returns_round_iff (hdigits : 0 < limits.digits) (hlimits : limits.minLeading ≤ limits.maxLeading)
    (negative : Bool) : Returns (round limits negative c e) ↔ (c : ℚ) * 10 ^ e < limits.ceiling := by
  rcases Nat.eq_zero_or_pos c with rfl | hc
  · have hpos : (0 : ℚ) < 10 ^ limits.maxLeading := by positivity
    have := pow_le_ceiling limits hdigits le_rfl
    simp only [Nat.cast_zero, zero_mul]
    exact iff_of_true (returns_ok _) (by linarith)
  rw [returns_round hc]
  have hcount := digitCount_pos c
  have hlow := pow_leading_le hc (e := e)
  have hhigh := lt_pow_leading (c := c) (e := e)
  -- Only where the leading digit is at the top does it matter whether the rounding carries.
  rcases lt_trichotomy (Decimal.leading c e) limits.maxLeading with htop | htop | htop
  · have hle := pow_le_ceiling limits hdigits (show Decimal.leading c e + 1 ≤ limits.maxLeading by omega)
    refine iff_of_true ?_ (by linarith)
    rcases lt_or_ge e (limits.place c e) with hplace | hplace
    · have hdrop := digitCount_dropDigits_le (c := c) (limits.place c e - e).toNat
      rw [leading_of_lt hplace]
      unfold Decimal.leading at htop
      unfold Limits.place at *
      omega
    · rw [leading_of_le hplace]
      omega
  · rcases lt_or_ge e (limits.place c e) with hplace | hplace
    · have hk : limits.place c e = e + digitCount c - limits.digits := by
        unfold Decimal.leading at htop
        unfold Limits.place
        omega
      have hiff := maxLeading_lt_iff (k := (limits.place c e - e).toNat) hdigits (by omega) (by omega) htop
      rw [← not_le, ← hiff, leading_of_lt hplace]
      omega
    · rw [leading_of_le hplace]
      refine iff_of_true htop.le (lt_ceiling_of_digits ?_ htop)
      unfold Limits.place at hplace
      omega
  · have hge := ceiling_lt_pow limits htop
    refine iff_of_false ?_ (by linarith)
    rcases lt_or_ge e (limits.place c e) with hplace | hplace
    · have hk : limits.place c e = e + digitCount c - limits.digits := by
        unfold Decimal.leading at htop
        unfold Limits.place
        omega
      have hdrop := le_digitCount_dropDigits hc (k := (limits.place c e - e).toNat) (by omega)
      rw [leading_of_lt hplace]
      unfold Decimal.leading at htop
      omega
    · rw [leading_of_le hplace]
      omega

end Round

end Decimal

end Conform
