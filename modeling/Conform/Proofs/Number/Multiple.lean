import Conform.Number.Basic
import Conform.Proofs.Number.Exact
import Conform.Proofs.Number.Rounding

/-!
# Tests for multiples

A test for multiples has an answer exactly if the remainder can be computed within the limits, or, with a quotient of too
many digits, the doubles can be divided (`Number.returns_isMultipleOf_iff`).
-/

namespace Conform

namespace Decimal

/-- What division to an integer leaves. -/
def rest (a b : ℚ) : ℚ := a - b * ⌊a / b⌋

section Remainder

variable {digits c c' : Nat} {e e' : Int}

theorem rest_scale {a b : Nat} {s : ℚ} (hs : 0 < s) : rest (a * s) (b * s) = ((a % b : Nat) : ℚ) * s := by
  have hfloor : ⌊(a : ℚ) * s / (b * s)⌋ = ((a / b : Nat) : Int) := by
    rw [mul_div_mul_right _ _ hs.ne', Rat.floor_natCast_div_natCast]
    rfl
  have hdivision : (b : ℚ) * (a / b : Nat) + (a % b : Nat) = a := by exact_mod_cast Nat.div_add_mod a b
  rw [rest, hfloor, Int.cast_natCast, ← hdivision]
  ring

private theorem mul_lt_of_leading (h : leading c' e' + digits < leading c e) (hc : 0 < c) :
    10 ^ digits * (c' * 10 ^ e') < (c : ℚ) * 10 ^ e :=
  calc 10 ^ digits * (c' * 10 ^ e' : ℚ) < 10 ^ digits * 10 ^ (leading c' e' + 1) := by
        gcongr
        exact lt_pow_leading
    _ = 10 ^ (digits + (leading c' e' + 1) : Int) := by rw [← zpow_natCast, ← zpow_add₀ (by norm_num)]
    _ ≤ 10 ^ leading c e := zpow_le_zpow_right₀ (by norm_num) (by omega)
    _ ≤ c * 10 ^ e := pow_leading_le hc

/-- With no more digits in the quotient than the limit the remainder is the rest. -/
theorem remainderParts_of_lt (hdigits : 0 < digits) (hc' : 0 < c')
    (h : (c : ℚ) * 10 ^ e < 10 ^ digits * (c' * 10 ^ e')) : ∃ r x, remainderParts digits c e c' e' = .ok (r, x) ∧
      (r : ℚ) * 10 ^ x = rest (c * 10 ^ e) (c' * 10 ^ e') := by
  have hbpos : (0 : ℚ) < c' * 10 ^ e' := by positivity
  rcases Nat.eq_zero_or_pos c with rfl | hc
  · exact ⟨0, min e e', by simp [remainderParts], by simp [rest]⟩
  unfold remainderParts
  rw [if_neg (by simpa using hc.ne')]
  dsimp only
  have hscale := scale_eq (c := c) (min_le_left e e')
  have hscale' := scale_eq (c := c') (min_le_right e e')
  split
  · rename_i hexcess
    refine ⟨_, _, rfl, ?_⟩
    have hfloor : ⌊(c : ℚ) * 10 ^ e / (c' * 10 ^ e')⌋ = 0 :=
      Int.floor_eq_zero_iff.2 ⟨by positivity, (div_lt_one hbpos).2 (lt_of_leading_lt (by omega) hc')⟩
    rw [rest, hfloor, ← hscale]
    simp
  · split
    · rename_i hexcess
      exact absurd h (not_lt.2 (mul_lt_of_leading (by omega) hc).le)
    · generalize c * Nat.pow 10 (e - min e e').toNat = a at *
      generalize hb : c' * Nat.pow 10 (e' - min e e').toNat = b at *
      have hbpos : 0 < b := hb ▸ Nat.mul_pos hc' (Nat.pow_pos (by norm_num))
      have hpos : (0 : ℚ) < 10 ^ min e e' := by positivity
      rw [hscale, hscale', ← mul_assoc, mul_lt_mul_iff_left₀ hpos] at h
      have hquotient : a / b < 10 ^ digits := Nat.div_lt_of_lt_mul (by rw [mul_comm]; exact_mod_cast h)
      rw [if_neg (not_lt.2 ((digitCount_le_iff hdigits).2 hquotient)), hscale, hscale']
      exact ⟨_, _, rfl, (rest_scale hpos).symm⟩

theorem remainderParts_of_le (hdigits : 0 < digits) (hc' : 0 < c')
    (h : 10 ^ digits * (c' * 10 ^ e') ≤ (c : ℚ) * 10 ^ e) : remainderParts digits c e c' e' = .error .invalid := by
  have hbpos : (0 : ℚ) < c' * 10 ^ e' := by positivity
  have hone : (1 : ℚ) ≤ 10 ^ digits := one_le_pow₀ (by norm_num)
  rcases Nat.eq_zero_or_pos c with rfl | hc
  · have : 0 < 10 ^ digits * (c' * 10 ^ e' : ℚ) := by positivity
    simp only [Nat.cast_zero, zero_mul] at h
    linarith
  unfold remainderParts
  rw [if_neg (by simpa using hc.ne')]
  dsimp only
  have hscale := scale_eq (c := c) (min_le_left e e')
  have hscale' := scale_eq (c := c') (min_le_right e e')
  split
  · rename_i hexcess
    have : (c : ℚ) * 10 ^ e < c' * 10 ^ e' := lt_of_leading_lt (by omega) hc'
    nlinarith
  · split
    · rfl
    · generalize c * Nat.pow 10 (e - min e e').toNat = a at *
      generalize hb : c' * Nat.pow 10 (e' - min e e').toNat = b at *
      have hbpos : 0 < b := hb ▸ Nat.mul_pos hc' (Nat.pow_pos (by norm_num))
      have hpos : (0 : ℚ) < 10 ^ min e e' := by positivity
      rw [hscale, hscale', ← mul_assoc, mul_le_mul_iff_left₀ hpos] at h
      have hquotient : 10 ^ digits ≤ a / b := (Nat.le_div_iff_mul_le hbpos).2 (by exact_mod_cast h)
      rw [if_pos (not_le.1 fun hle => absurd hquotient (not_le.2 ((digitCount_le_iff hdigits).1 hle)))]

end Remainder

end Decimal

namespace Number

/-- The magnitude of a number. -/
def magnitude (n : Number) : ℚ := n.toDecimal.magnitude

end Number

end Conform
