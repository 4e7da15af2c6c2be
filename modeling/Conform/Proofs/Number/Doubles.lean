import Conform.Proofs.Number.Multiple

/-!
# Quotients of doubles

The double nearest to a fraction is off by half of the fraction at most, or by half of the least double where that is more
(`Double.isNear_ofRatio`).  A double quotient that is large enough is an integer whatever is divided
(`Double.isInteger_div`), so of two numbers far apart the quotient of the doubles tells only whether it is within their
range (`Number.isInteger_roughQuotient`).
-/

namespace Conform

namespace Double

/-- The magnitude of a finite number. -/
def magnitude : Double → ℚ
  | .finite _ m e => m * 2 ^ e
  | _ => 0

section Fraction

variable {num den : Nat}

theorem abs_roundDiv_sub_le (hden : 0 < den) : |(roundDiv num den : ℚ) - num / den| ≤ 1 / 2 := by
  have hpos : (0 : ℚ) < den := by exact_mod_cast hden
  have hdivision : (den : ℚ) * (num / den : Nat) + (num % den : Nat) = num := by exact_mod_cast Nat.div_add_mod num den
  have hquotient : (num : ℚ) / den = (num / den : Nat) + (num % den : Nat) / den := by
    rw [← hdivision]
    field_simp
  have hrest : (0 : ℚ) ≤ (num % den : Nat) / den := by positivity
  have hlt : ((num % den : Nat) : ℚ) / den < 1 := (div_lt_one hpos).2 (by exact_mod_cast Nat.mod_lt num hden)
  rw [hquotient]
  unfold roundDiv
  dsimp only
  split
  · rename_i hup
    have hhalf : den ≤ 2 * (num % den) := by
      simp only [Bool.or_eq_true, decide_eq_true_eq, Bool.and_eq_true, beq_iff_eq] at hup
      omega
    have hhalf : 1 / 2 ≤ ((num % den : Nat) : ℚ) / den := by
      rw [div_le_div_iff₀ (by norm_num) hpos, one_mul, mul_comm]
      exact_mod_cast hhalf
    rw [Nat.cast_succ, abs_le]
    constructor <;> linarith
  · rename_i hdown
    have hhalf : 2 * (num % den) ≤ den := by
      simp only [Bool.or_eq_true, decide_eq_true_eq, not_or, not_lt] at hdown
      exact hdown.1
    have hhalf : ((num % den : Nat) : ℚ) / den ≤ 1 / 2 := by
      rw [div_le_div_iff₀ hpos (by norm_num), one_mul, mul_comm]
      exact_mod_cast hhalf
    rw [abs_le]
    constructor <;> linarith

/-- The powers of two that a fraction lies between, by the bits of its terms. -/
theorem two_pow_log2_le (hnum : 0 < num) (hden : 0 < den) :
    (2 : ℚ) ^ ((Nat.log2 num : Int) - Nat.log2 den - 1) < num / den ∧
      (num : ℚ) / den < 2 ^ ((Nat.log2 num : Int) - Nat.log2 den + 1) := by
  have hpos : (0 : ℚ) < den := by exact_mod_cast hden
  have hlow : (2 : ℚ) ^ Nat.log2 num ≤ num := by exact_mod_cast Nat.log2_self_le hnum.ne'
  have hhigh : (num : ℚ) < 2 ^ (Nat.log2 num + 1) := by exact_mod_cast Nat.lt_log2_self
  have hlow' : (2 : ℚ) ^ Nat.log2 den ≤ den := by exact_mod_cast Nat.log2_self_le hden.ne'
  have hhigh' : (den : ℚ) < 2 ^ (Nat.log2 den + 1) := by exact_mod_cast Nat.lt_log2_self
  constructor
  · rw [lt_div_iff₀ hpos]
    calc (2 : ℚ) ^ ((Nat.log2 num : Int) - Nat.log2 den - 1) * den
        < 2 ^ ((Nat.log2 num : Int) - Nat.log2 den - 1) * 2 ^ (Nat.log2 den + 1) := by gcongr
      _ = 2 ^ Nat.log2 num := by
        rw [← zpow_natCast, ← zpow_natCast, ← zpow_add₀ (by norm_num)]
        congr 1
        push_cast
        ring
      _ ≤ num := hlow
  · rw [div_lt_iff₀ hpos]
    calc (num : ℚ) < 2 ^ (Nat.log2 num + 1) := hhigh
      _ = 2 ^ ((Nat.log2 num : Int) - Nat.log2 den + 1) * 2 ^ Nat.log2 den := by
        rw [← zpow_natCast, ← zpow_natCast, ← zpow_add₀ (by norm_num)]
        congr 1
        push_cast
        ring
      _ ≤ 2 ^ ((Nat.log2 num : Int) - Nat.log2 den + 1) * den := by gcongr

/-! ### Rounding to a double -/

/-- The comparison of the shifted terms is that of the fraction with a power of two. -/
theorem lt_shift_iff (hden : 0 < den) (e : Int) :
    (if e < 0 then num <<< (-e).toNat < den <<< mantissaBits else num < den <<< (mantissaBits + e.toNat)) ↔
      (num : ℚ) / den < 2 ^ (e + 53) := by
  have hpos : (0 : ℚ) < den := by exact_mod_cast hden
  rw [div_lt_iff₀ hpos]
  split
  · obtain ⟨k, rfl⟩ : ∃ k : Nat, e = -k := ⟨(-e).toNat, by omega⟩
    have hk : (0 : ℚ) < 2 ^ k := by positivity
    have hscale : (2 : ℚ) ^ (-(k : Int) + 53) * den = den * 2 ^ 53 / 2 ^ k := by
      rw [zpow_add₀ (by norm_num), zpow_neg, zpow_natCast]
      field_simp
    rw [Nat.shiftLeft_eq, Nat.shiftLeft_eq, hscale, lt_div_iff₀ hk, neg_neg, Int.toNat_natCast]
    exact_mod_cast Iff.rfl
  · obtain ⟨k, rfl⟩ : ∃ k : Nat, e = k := ⟨e.toNat, by omega⟩
    have hscale : (2 : ℚ) ^ ((k : Int) + 53) * den = den * 2 ^ (53 + k) := by
      rw [mul_comm, add_comm (k : Int), ← zpow_natCast]
      push_cast
      rfl
    rw [Nat.shiftLeft_eq, hscale, Int.toNat_natCast]
    exact_mod_cast Iff.rfl

/-- The fraction has all its bits above the exponent that is chosen for it, unless that is the least one. -/
theorem exponentFor_eq_or (hnum : 0 < num) (hden : 0 < den) :
    exponentFor num den = minExponent ∨ (2 : ℚ) ^ (exponentFor num den + 52) ≤ num / den := by
  have hlow := (two_pow_log2_le hnum hden).1
  unfold exponentFor
  dsimp only
  generalize he : (Nat.log2 num : Int) - Nat.log2 den - mantissaBits = e at *
  have hbits : (mantissaBits : Int) = 53 := rfl
  have hfull : _ ↔ (num : ℚ) / den < 2 ^ (e + 53) := lt_shift_iff hden e
  rcases lt_or_ge ((num : ℚ) / den) (2 ^ (e + 53)) with h | h
  · rw [if_pos (hfull.2 h)]
    rcases max_choice minExponent e with hmax | hmax
    · exact .inl hmax
    · rw [hmax]
      refine .inr (hlow.le.trans' (zpow_le_zpow_right₀ (by norm_num) ?_))
      omega
  · rw [if_neg (mt hfull.1 (not_lt.2 h))]
    rcases max_choice minExponent (e + 1) with hmax | hmax
    · exact .inl hmax
    · rw [hmax]
      refine .inr (h.trans' (zpow_le_zpow_right₀ (by norm_num) ?_))
      omega

/-- The exponent of a fraction that has a bit more than a mantissa is positive. -/
theorem one_le_exponentFor (hnum : 0 < num) (hden : 0 < den) (h : (2 : ℚ) ^ 55 ≤ num / den) :
    1 ≤ exponentFor num den := by
  have hlt := h.trans_lt (two_pow_log2_le hnum hden).2
  have hexp : (55 : Int) < (Nat.log2 num : Int) - Nat.log2 den + 1 := by
    rw [← zpow_natCast] at hlt
    exact (zpow_lt_zpow_iff_right₀ (by norm_num)).1 hlt
  have hbits : (mantissaBits : Int) = 53 := rfl
  unfold exponentFor
  dsimp only
  refine le_trans ?_ (le_max_right _ _)
  split <;> omega

/-- The rounded count of a unit in a fraction, the unit being a power of two, is off by one half at most. -/
theorem abs_roundDiv_shift_sub_le (hden : 0 < den) (k : Int) :
    |((if k < 0 then roundDiv (num <<< (-k).toNat) den else roundDiv num (den <<< k.toNat) : Nat) : ℚ) -
      num / den / 2 ^ k| ≤ 1 / 2 := by
  split
  · obtain ⟨j, rfl⟩ : ∃ j : Nat, k = -j := ⟨(-k).toNat, by omega⟩
    have hscale : (num : ℚ) / den / 2 ^ (-(j : Int)) = ((num <<< j : Nat) : ℚ) / den := by
      rw [zpow_neg, zpow_natCast, div_inv_eq_mul, Nat.shiftLeft_eq]
      push_cast
      ring
    rw [hscale, neg_neg, Int.toNat_natCast]
    exact abs_roundDiv_sub_le hden
  · obtain ⟨j, rfl⟩ : ∃ j : Nat, k = j := ⟨k.toNat, by omega⟩
    have hscale : (num : ℚ) / den / 2 ^ (j : Int) = num / ((den <<< j : Nat) : ℚ) := by
      rw [zpow_natCast, Nat.shiftLeft_eq, div_div]
      push_cast
      rfl
    rw [hscale, Int.toNat_natCast]
    exact abs_roundDiv_sub_le (by rw [Nat.shiftLeft_eq]; positivity)

/-- A double that is rounded to counts multiples of a unit, as many as are in the fraction to within one half. -/
theorem exists_of_ofRatio (hnum : 0 < num) (hden : 0 < den) {s s' : Bool} {m : Nat} {e : Int}
    (h : ofRatio s num den = .finite s' m e) : ∃ n : Nat, (m : ℚ) * 2 ^ e = n * 2 ^ exponentFor num den ∧
      exponentFor num den ≤ e ∧ |(n : ℚ) - num / den / 2 ^ exponentFor num den| ≤ 1 / 2 := by
  unfold ofRatio at h
  rw [if_neg (by simpa using hnum.ne')] at h
  dsimp only at h
  generalize exponentFor num den = k at *
  have hround : |_ - (num : ℚ) / den / 2 ^ k| ≤ 1 / 2 := abs_roundDiv_shift_sub_le hden k
  generalize (if k < 0 then roundDiv (num <<< (-k).toNat) den else roundDiv num (den <<< k.toNat)) = n at *
  refine ⟨n, ?_, ?_, hround⟩
  · split at h
    · rename_i hcarry
      -- A carry out of the top makes the significand a power of two, which is halved with the exponent raised by one.
      obtain rfl : n = 2 ^ 53 := by simpa [mantissaBits, Nat.shiftLeft_eq] using hcarry
      split at h
      · cases h
      · cases h
        rw [zpow_add_one₀ (by norm_num)]
        norm_num
        ring
    · split at h
      · cases h
      · cases h
        rfl
  · split at h
    · split at h
      · cases h
      · cases h
        omega
    · split at h
      · cases h
      · cases h
        exact le_rfl

/-- A double is as near to a magnitude as rounding leaves it: off by half of the magnitude at most, or by half of the least
double where that is more. -/
structure IsNear (v : ℚ) (m : Nat) (e : Int) : Prop where
  le_exponent : minExponent ≤ e
  error_le : |(m : ℚ) * 2 ^ e - v| ≤ max ((2 : ℚ) ^ (-1075 : Int)) (v / 2)

theorem isNear_ofRatio (hden : 0 < den) {s s' : Bool} {m : Nat} {e : Int} (h : ofRatio s num den = .finite s' m e) :
    IsNear (num / den) m e := by
  rcases Nat.eq_zero_or_pos num with rfl | hnum
  · cases h
    exact ⟨le_rfl, by simp⟩
  obtain ⟨n, hn, hle, hround⟩ := exists_of_ofRatio hnum hden h
  refine ⟨(le_max_left _ _).trans hle, ?_⟩
  have hunit : (0 : ℚ) < 2 ^ exponentFor num den := by positivity
  have herror : |(m : ℚ) * 2 ^ e - num / den| ≤ 2 ^ exponentFor num den / 2 := by
    have hfactor : (n : ℚ) * 2 ^ exponentFor num den - num / den =
        (n - num / den / 2 ^ exponentFor num den) * 2 ^ exponentFor num den := by field_simp
    rw [hn, hfactor, abs_mul, abs_of_pos hunit]
    nlinarith
  -- Half a unit is half of the least double, or the fraction has all its bits above the unit.
  rcases exponentFor_eq_or hnum hden with hmin | hfull
  · have hhalf : (2 : ℚ) ^ (-1075 : Int) = 2 ^ minExponent / 2 := zpow_sub_one₀ (by norm_num) minExponent
    rw [hmin, ← hhalf] at herror
    exact herror.trans (le_max_left _ _)
  · refine herror.trans (le_max_of_le_right ?_)
    have hle : (2 : ℚ) ^ exponentFor num den ≤ 2 ^ (exponentFor num den + 52) :=
      zpow_le_zpow_right₀ (by norm_num) (by omega)
    linarith

/-- A double that is read is near to the decimal, also where the decimal is too small for any. -/
theorem isNear_ofScientific {s s' : Bool} {c m : Nat} {k e : Int} (h : ofScientific s c k = .finite s' m e) :
    IsNear (c * 10 ^ k) m e := by
  unfold ofScientific at h
  dsimp only at h
  split at h
  · rename_i hsmall
    cases h
    refine ⟨le_rfl, le_max_of_le_left ?_⟩
    have hnonneg : (0 : ℚ) ≤ c * 10 ^ k := by positivity
    rw [Nat.cast_zero, zero_mul, zero_sub, abs_neg, abs_of_nonneg hnonneg]
    simp only [Bool.or_eq_true, beq_iff_eq, decide_eq_true_eq] at hsmall
    rcases hsmall with rfl | hsmall
    · simp
    · calc (c : ℚ) * 10 ^ k ≤ 10 ^ (Decimal.leading c k + 1) := Decimal.lt_pow_leading.le
        _ ≤ 10 ^ (-330 : Int) := by
          refine zpow_le_zpow_right₀ (by norm_num) ?_
          unfold Decimal.leading
          omega
        _ ≤ 2 ^ (-1075 : Int) := by
          have hpow : (2 : ℚ) ^ 1075 ≤ 10 ^ 330 := by exact_mod_cast (by decide +kernel : 2 ^ 1075 ≤ 10 ^ 330)
          exact inv_anti₀ (by positivity) hpow
  split at h
  · cases h
  split at h
  · obtain ⟨j, rfl⟩ : ∃ j : Nat, k = -j := ⟨(-k).toNat, by omega⟩
    have hscale : (c : ℚ) * 10 ^ (-(j : Int)) = c / (Nat.pow 10 j : Nat) := by
      rw [zpow_neg, zpow_natCast, ← div_eq_mul_inv, Nat.pow_eq]
      push_cast
      rfl
    rw [neg_neg, Int.toNat_natCast] at h
    rw [hscale]
    exact isNear_ofRatio (Nat.pow_pos (by norm_num)) h
  · obtain ⟨j, rfl⟩ : ∃ j : Nat, k = j := ⟨k.toNat, by omega⟩
    have hscale : (c : ℚ) * 10 ^ (j : Int) = (c * Nat.pow 10 j : Nat) / (1 : Nat) := by
      rw [zpow_natCast, Nat.pow_eq]
      push_cast
      rw [div_one]
    rw [Int.toNat_natCast] at h
    rw [hscale]
    exact isNear_ofRatio Nat.one_pos h

/-- Of two magnitudes far apart the doubles are far apart, unless the lesser is rounded to zero. -/
theorem IsNear.le_of_le {v v' : ℚ} {m m' : Nat} {e e' : Int} (h : IsNear v m e) (h' : IsNear v' m' e') (hm' : 0 < m')
    (hle : 10 ^ 200 * v' ≤ v) : (2 : ℚ) ^ 55 * (m' * 2 ^ e') ≤ m * 2 ^ e := by
  obtain ⟨-, herror⟩ := h
  obtain ⟨hexp', herror'⟩ := h'
  have hleast : 2 * (2 : ℚ) ^ (-1075 : Int) ≤ m' * 2 ^ e' :=
    calc 2 * (2 : ℚ) ^ (-1075 : Int) = 2 ^ minExponent := by
          rw [show (-1075 : Int) = minExponent - 1 from rfl, zpow_sub_one₀ (by norm_num)]
          ring
      _ ≤ 2 ^ e' := zpow_le_zpow_right₀ (by norm_num) hexp'
      _ ≤ m' * 2 ^ e' := le_mul_of_one_le_left (by positivity) (by exact_mod_cast hm')
  have hunit : (0 : ℚ) < 2 ^ (-1075 : Int) := by positivity
  generalize (2 : ℚ) ^ (-1075 : Int) = u at *
  generalize (m : ℚ) * 2 ^ e = w at *
  generalize (m' : ℚ) * 2 ^ e' = w' at *
  rw [abs_le] at herror herror'
  -- A double that is not zero comes from no less than half of it, and from no less than half of the least one.
  have hdouble : w' ≤ 2 * v' ∧ u ≤ v' := by
    rcases max_choice u (v' / 2) with hmax | hmax
    · rw [hmax] at herror'
      constructor <;> linarith
    · have := le_max_left u (v' / 2)
      rw [hmax] at herror' this
      constructor <;> linarith
  have hmax : max u (v / 2) = v / 2 := max_eq_right (by linarith)
  rw [hmax] at herror
  linarith

end Fraction

/-! ### Quotients -/

theorem ratio_eq (m : Nat) (e : Int) : 0 < (ratio m e).2 ∧ ((ratio m e).1 : ℚ) / (ratio m e).2 = m * 2 ^ e := by
  unfold ratio
  split
  · obtain ⟨k, rfl⟩ : ∃ k : Nat, e = -k := ⟨(-e).toNat, by omega⟩
    refine ⟨by simp [Nat.shiftLeft_eq], ?_⟩
    rw [neg_neg, Int.toNat_natCast, Nat.shiftLeft_eq, one_mul, zpow_neg, zpow_natCast, ← div_eq_mul_inv]
    push_cast
    rfl
  · obtain ⟨k, rfl⟩ : ∃ k : Nat, e = k := ⟨e.toNat, by omega⟩
    refine ⟨by simp, ?_⟩
    rw [Int.toNat_natCast, Nat.shiftLeft_eq, zpow_natCast]
    push_cast
    rw [div_one]

theorem isInteger_ofRatio {num den : Nat} (hnum : 0 < num) (hden : 0 < den) (h : (2 : ℚ) ^ 55 ≤ num / den) (s : Bool) :
    (ofRatio s num den).isInteger = (ofRatio s num den).isFinite := by
  cases hq : ofRatio s num den with
  | infinite | nan => rfl
  | finite s' m e =>
    obtain ⟨-, -, hle, -⟩ := exists_of_ofRatio hnum hden hq
    have hone := one_le_exponentFor hnum hden h
    have hratio : ratio m e = (m <<< e.toNat, 1) := if_neg (by omega)
    simp [isInteger, isFinite, hratio, Nat.mod_one]

/-- A double quotient of 2 ^ 55 or more is an integer, as doubles of that size all are. -/
theorem isInteger_div {x y q : Double}
    (h : x.isFinite = true → y.isFinite = true → 2 ^ 55 * y.magnitude ≤ x.magnitude) (hq : x.div? y = some q) :
    q.isInteger = q.isFinite := by
  unfold div? at hq
  split at hq
  · cases hq
  rename_i hzero
  cases x with
  | infinite | nan =>
    cases y <;> cases hq <;> rfl
  | finite s m e =>
    cases y with
    | infinite =>
      cases hq
      exact beq_iff_eq.2 (Nat.zero_mod _)
    | nan =>
      cases hq
      rfl
    | finite s' m' e' =>
      have hle := h rfl rfl
      have hm' : 0 < m' := Nat.pos_of_ne_zero (by simpa [isZero] using hzero)
      have hpos : (0 : ℚ) < m' * 2 ^ e' := by positivity
      simp only [magnitude] at hle
      obtain ⟨hb, hratio⟩ := ratio_eq m e
      obtain ⟨hb', hratio'⟩ := ratio_eq m' e'
      rw [← hratio, ← hratio'] at hle
      rw [← hratio'] at hpos
      obtain rfl : ofRatio (s != s') ((ratio m e).1 * (ratio m' e').2) ((ratio m e).2 * (ratio m' e').1) = q :=
        Option.some.inj hq
      generalize (ratio m e).1 = a, (ratio m e).2 = b at *
      generalize (ratio m' e').1 = a', (ratio m' e').2 = b' at *
      have hquotient : ((a * b' : Nat) : ℚ) / (b * a' : Nat) = a / b / (a' / b') := by
        push_cast
        rw [div_div_div_eq]
      have ha' : 0 < a' := Nat.pos_of_ne_zero fun hzero => by simp [hzero] at hpos
      have ha : 0 < a := Nat.pos_of_ne_zero fun hzero => by
        simp only [hzero, Nat.cast_zero, zero_div] at hle
        linarith
      refine isInteger_ofRatio (by positivity) (by positivity) ?_ _
      rw [hquotient, le_div_iff₀ hpos]
      exact hle

end Double

namespace Number

variable {x d : Number}

/-- The quotient of the nearest doubles. -/
def roughQuotient (value divisor : Number) : Except ArithmeticFault Double :=
  value.toDouble.bind fun x => divisor.toDouble.bind fun y =>
    match x.div? y with
    | some q => .ok q
    | none => .error .zeroDivision

theorem dividesRoughly_eq (value divisor : Number) :
    value.dividesRoughly divisor = (value.roughQuotient divisor).map Double.isInteger := by
  unfold dividesRoughly roughQuotient
  cases value.toDouble with
  | error => rfl
  | ok x =>
    cases divisor.toDouble with
    | error => rfl
    | ok y =>
      change (match x.div? y with | some q => _ | none => _) = Except.map _ (match x.div? y with | some q => _ | none => _)
      cases x.div? y <;> rfl

/-- A number of a JSON text is near to its double. -/
theorem isNear_of_toDouble (hx : x.isJson = true) {s : Bool} {m : Nat} {e : Int} (h : x.toDouble = .ok (.finite s m e)) :
    Double.IsNear x.magnitude m e := by
  cases x with
  | dbl => cases hx
  | int n =>
    have hmag : (int n).magnitude = (n.natAbs : ℚ) / (1 : Nat) := by simp [magnitude, toDecimal, Decimal.ofInt, Decimal.magnitude]
    simp only [toDouble] at h
    split at h
    · rw [hmag]
      exact Double.isNear_ofRatio Nat.one_pos (Except.ok.inj h)
    · cases h
  | dec d =>
    cases d with
    | infinite | nan => cases hx
    | finite s' c k =>
      simp only [toDouble, Decimal.toDouble?, Except.ok.injEq] at h
      exact Double.isNear_ofScientific h

/-- Where the quotient has more than 200 digits the quotient of the doubles is an integer if it is finite. -/
theorem isInteger_roughQuotient (hx : x.isJson = true) (hd : d.isJson = true)
    (hle : 10 ^ 200 * d.magnitude ≤ x.magnitude) {q : Double} (hq : x.roughQuotient d = .ok q) :
    q.isInteger = q.isFinite := by
  obtain ⟨y, hy, hq⟩ := bind_eq_ok.1 hq
  obtain ⟨z, hz, hq⟩ := bind_eq_ok.1 hq
  have hdiv : y.div? z = some q := by
    split at hq
    · rename_i q' hq'
      rw [hq', Except.ok.inj hq]
    · cases hq
  refine Double.isInteger_div (fun hfinite hfinite' => ?_) hdiv
  cases y with
  | infinite | nan => cases hfinite
  | finite s m e =>
    cases z with
    | infinite | nan => cases hfinite'
    | finite s' m' e' =>
      have hm' : 0 < m' := Nat.pos_of_ne_zero fun hzero => by
        subst hzero
        simp [Double.div?, Double.isZero] at hdiv
      exact (isNear_of_toDouble hx hy).le_of_le (isNear_of_toDouble hd hz) hm' hle

end Number

end Conform
