import Conform.Proofs.Number.Exact
import Conform.Proofs.Number.Rounding
import Mathlib.Order.Compare

/-!
# Numbers by value

A finite decimal number denotes a rational (`Decimal.value`), and what is asked of numbers asks for the rational alone:
two of them compare as their values do (`Decimal.exists_compare?`), and one is an integer exactly if its value is one
(`Decimal.isInteger_iff`).  So numbers of a JSON text that have one value, whatever their numerals, are equal to the same
numbers, stand in the same order to them and are integers within the same bounds.
-/

namespace Conform

private theorem compares_compare {α : Type} [LinearOrder α] (a b : α) : (compare a b).Compares a b := by
  rw [← cmp_eq_compare]
  exact cmp_compares a b

private theorem compares_neg {o : Ordering} {x y : ℚ} (h : o.Compares x y) : o.Compares (-y) (-x) := by
  cases o with
  | lt => exact neg_lt_neg h
  | eq => exact congrArg Neg.neg h.symm
  | gt => exact neg_lt_neg h

namespace Decimal

/-- The value of a finite number. -/
def value : Decimal → ℚ
  | .finite s c e => if s then -(c * 10 ^ e) else c * 10 ^ e
  | _ => 0

theorem value_ofInt (n : Int) : (ofInt n).value = n := by
  have hcast : (n.natAbs : ℚ) = |(n : ℚ)| := by rw [← Int.cast_abs, Int.abs_eq_natAbs, Int.cast_natCast]
  by_cases h : n < 0
  · have hneg : (n : ℚ) < 0 := Int.cast_lt_zero.2 h
    simp [ofInt, value, h, hcast, abs_of_neg hneg]
  · have hnonneg : (0 : ℚ) ≤ n := Int.cast_nonneg (not_lt.1 h)
    simp [ofInt, value, h, hcast, abs_of_nonneg hnonneg]

/-! ### Order -/

/-- Magnitudes are compared by value. -/
theorem compares_compareMagnitude (c : Nat) (e : Int) (c' : Nat) (e' : Int) :
    (compareMagnitude c e c' e').Compares ((c : ℚ) * 10 ^ e) (c' * 10 ^ e') := by
  have hscaled (a b : Nat) {s : ℚ} (hs : 0 < s) : (compare a b).Compares ((a : ℚ) * s) (b * s) := by
    have h := compares_compare a b
    generalize compare a b = o at h
    cases o with
    | lt => exact mul_lt_mul_of_pos_right (Nat.cast_lt.2 h) hs
    | eq => exact congrArg (fun n : Nat => (n : ℚ) * s) h
    | gt => exact mul_lt_mul_of_pos_right (Nat.cast_lt.2 h) hs
  have hpos : (0 : ℚ) < 10 ^ e := by positivity
  have hpos' : (0 : ℚ) < 10 ^ e' := by positivity
  unfold compareMagnitude
  by_cases hzero : c = 0 ∨ c' = 0
  · rw [if_pos (by simpa using hzero)]
    rcases hzero with rfl | rfl
    · simpa using hscaled 0 c' hpos'
    · simpa using hscaled c 0 hpos
  · obtain ⟨hc, hc'⟩ := not_or.1 hzero
    rw [if_neg (by simpa using hzero)]
    have hlead := compares_compare (leading c e) (leading c' e')
    generalize compare (leading c e) (leading c' e') = o at hlead
    cases o with
    | lt => exact lt_of_leading_lt hlead (by omega)
    | gt => exact lt_of_leading_lt hlead (by omega)
    | eq =>
      -- with leading digits at one place the coefficients decide, once they count the same units
      by_cases h : e ≤ e'
      · simp only [Ordering.then, if_pos h]
        rw [scale_eq (c := c') h]
        exact hscaled _ _ hpos
      · simp only [Ordering.then, if_neg h]
        rw [scale_eq (c := c) (show e' ≤ e by omega)]
        exact hscaled _ _ hpos'

/-- Finite numbers are compared by value. -/
theorem exists_compare? {x y : Decimal} (hx : x.isFinite = true) (hy : y.isFinite = true) :
    ∃ o : Ordering, x.compare? y = some o ∧ o.Compares x.value y.value := by
  cases x with
  | finite s c e =>
    cases y with
    | finite s' c' e' =>
      have hpos : (0 : ℚ) < 10 ^ e := by positivity
      have hpos' : (0 : ℚ) < 10 ^ e' := by positivity
      refine ⟨_, rfl, ?_⟩
      by_cases hc : c = 0
      · by_cases hc' : c' = 0
        · simp [hc, hc', value]
        · have hmag : (0 : ℚ) < c' * 10 ^ e' := by positivity
          cases s' <;> simp [hc, hc', value, hmag]
      · have hmag : (0 : ℚ) < c * 10 ^ e := by positivity
        by_cases hc' : c' = 0
        · cases s <;> simp [hc, hc', value, hmag]
        · have hmag' : (0 : ℚ) < c' * 10 ^ e' := by positivity
          cases s <;> cases s'
          · simpa [hc, hc', value] using compares_compareMagnitude c e c' e'
          · have hlt : -((c' : ℚ) * 10 ^ e') < c * 10 ^ e := by linarith
            simpa [hc, hc', value] using hlt
          · have hlt : -((c : ℚ) * 10 ^ e) < c' * 10 ^ e' := by linarith
            simpa [hc, hc', value] using hlt
          · simpa [hc, hc', value] using compares_neg (compares_compareMagnitude c' e' c e)
    | infinite | nan => cases hy
  | infinite | nan => cases hx

section Congruence

variable {x x' y : Decimal}

private theorem compare?_infinite (hx : x.isFinite = true) (s : Bool) :
    x.compare? (.infinite s) = some (if s then .gt else .lt) ∧ compare? (.infinite s) x = some (if s then .lt else .gt) := by
  cases x with
  | finite => exact ⟨rfl, rfl⟩
  | infinite | nan => cases hx

/-- What a finite number is compared with does not tell its numeral. -/
theorem compare?_congr (hx : x.isFinite = true) (hx' : x'.isFinite = true) (h : x.value = x'.value) :
    x.compare? y = x'.compare? y := by
  cases hy : y.isFinite with
  | true =>
    obtain ⟨o, ho, hcompares⟩ := exists_compare? hx hy
    obtain ⟨o', ho', hcompares'⟩ := exists_compare? hx' hy
    rw [← h] at hcompares'
    rw [ho, ho', hcompares.inj hcompares']
  | false =>
    cases y with
    | finite => cases hy
    | infinite s => rw [(compare?_infinite hx s).1, (compare?_infinite hx' s).1]
    | nan =>
      cases x <;> cases x' <;> rfl

theorem compare?_congr_right (hx : x.isFinite = true) (hx' : x'.isFinite = true) (h : x.value = x'.value) :
    y.compare? x = y.compare? x' := by
  cases hy : y.isFinite with
  | true =>
    obtain ⟨o, ho, hcompares⟩ := exists_compare? hy hx
    obtain ⟨o', ho', hcompares'⟩ := exists_compare? hy hx'
    rw [← h] at hcompares'
    rw [ho, ho', hcompares.inj hcompares']
  | false =>
    cases y with
    | finite => cases hy
    | infinite s => rw [(compare?_infinite hx s).2, (compare?_infinite hx' s).2]
    | nan => rfl

theorem compare?_eq_some_eq (hx : x.isFinite = true) (hy : y.isFinite = true) :
    x.compare? y = some .eq ↔ x.value = y.value := by
  obtain ⟨o, ho, hcompares⟩ := exists_compare? hx hy
  rw [ho, Option.some_inj]
  exact hcompares.eq_eq

end Congruence

/-! ### Integers -/

/-- A finite number is an integer exactly if its value is one. -/
theorem isInteger_iff {x : Decimal} (hx : x.isFinite = true) : x.isInteger = true ↔ ∃ n : Int, x.value = n := by
  cases x with
  | infinite | nan => cases hx
  | finite s c e =>
    have hnonneg : (0 : ℚ) ≤ c * 10 ^ e := by positivity
    have hsign : (∃ n : Int, (finite s c e).value = n) ↔ ∃ n : Nat, (c : ℚ) * 10 ^ e = n := by
      constructor
      · rintro ⟨n, hn⟩
        have habs : |(finite s c e).value| = c * 10 ^ e := by cases s <;> simp [value, abs_of_nonneg hnonneg]
        refine ⟨n.natAbs, ?_⟩
        rw [← habs, hn, ← Int.cast_abs, Int.abs_eq_natAbs, Int.cast_natCast]
      · rintro ⟨n, hn⟩
        exact ⟨if s then -n else n, by cases s <;> simp [value, hn]⟩
    rw [hsign]
    rcases le_or_gt 0 e with he | he
    · obtain ⟨k, rfl⟩ := Int.eq_ofNat_of_zero_le he
      refine iff_of_true (by simp [isInteger]) ⟨c * 10 ^ k, ?_⟩
      push_cast
      rfl
    · obtain ⟨k, rfl⟩ : ∃ k : Nat, e = -k := ⟨(-e).toNat, by omega⟩
      rcases Nat.eq_zero_or_pos c with rfl | hc
      · exact iff_of_true (by simp [isInteger]) ⟨0, by simp⟩
      have hcast (n : Nat) : (c : ℚ) * 10 ^ (-k : Int) = n ↔ c = n * 10 ^ k := by
        rw [zpow_neg, zpow_natCast, ← div_eq_mul_inv, div_eq_iff (by positivity)]
        exact_mod_cast Iff.rfl
      have hk : ¬0 ≤ -(k : Int) := by omega
      simp only [hcast, isInteger, hk, Nat.pow_eq, neg_neg, Int.toNat_natCast, decide_false, Bool.false_or,
        beq_iff_eq, Bool.and_eq_true, decide_eq_true_eq, beq_eq_false_iff_ne.2 hc.ne']
      constructor
      · rintro ⟨-, hmod⟩
        exact ⟨c / 10 ^ k, (Nat.div_mul_cancel (Nat.dvd_of_mod_eq_zero hmod)).symm⟩
      · rintro ⟨n, rfl⟩
        -- the places to drop are fewer than the digits, as the number is not zero
        have hle : 10 ^ k ≤ n * 10 ^ k := Nat.le_mul_of_pos_left _ (Nat.pos_of_mul_pos_right hc)
        have hlt := lt_of_le_of_lt hle (lt_pow_digitCount _)
        exact ⟨(Nat.pow_lt_pow_iff_right (by norm_num)).1 hlt, Nat.mul_mod_left n _⟩

end Decimal

/-! ### Numbers of a JSON text -/

namespace Number

/-- The value of a number. -/
def value (n : Number) : ℚ := n.toDecimal.value

variable {m m' n : Number}

theorem value_int (k : Int) : (int k).value = k := Decimal.value_ofInt k

theorem isFinite_toDecimal (hm : m.isJson = true) : m.toDecimal.isFinite = true := by
  obtain ⟨s, c, e, h⟩ := exists_finite_of_isJson hm
  rw [h]
  rfl

/-- A number of a JSON text is an integer, in whatever form, exactly if its value is one. -/
theorem isInteger_iff (hm : m.isJson = true) : m.isInteger = true ↔ ∃ i : Int, m.value = i := by
  cases m with
  | int i => exact iff_of_true rfl ⟨i, value_int i⟩
  | dec d => exact Decimal.isInteger_iff hm
  | dbl => cases hm

theorem isPositive_iff (hm : m.isJson = true) : m.isPositive = true ↔ 0 < m.value := by
  obtain ⟨o, ho, hcompares⟩ := Decimal.exists_compare? (isFinite_toDecimal hm) (y := .ofInt 0) rfl
  rw [Decimal.value_ofInt, Int.cast_zero] at hcompares
  rw [isPositive, ho, beq_iff_eq, Option.some_inj]
  exact hcompares.eq_gt

theorem exact_of_isJson (hm : m.isJson = true) : m.exact = m := by
  cases m with
  | int | dec => rfl
  | dbl => cases hm

private theorem equal?_eq_compare? (hm : m.isJson = true) :
    m.equal? n = if n.exact.toDecimal.isSignalling then none
      else some (m.toDecimal.compare? n.exact.toDecimal == some .eq) := by
  have hsignal : m.toDecimal.isSignalling = false := by
    obtain ⟨s, c, e, h⟩ := exists_finite_of_isJson hm
    rw [h]
    rfl
  unfold equal?
  rw [exact_of_isJson hm]
  split
  · rename_i i j hj
    have hsome : (Decimal.ofInt i).compare? (Decimal.ofInt j) = some .eq ↔ i = j := by
      rw [Decimal.compare?_eq_some_eq rfl rfl, Decimal.value_ofInt, Decimal.value_ofInt, Int.cast_inj]
    have hiff : ((Decimal.ofInt i).compare? (Decimal.ofInt j) == some .eq) = (i == j) := by
      rw [Bool.eq_iff_iff, beq_iff_eq, beq_iff_eq, hsome]
    rw [hj]
    exact (congrArg some hiff).symm
  · rw [hsignal, Bool.false_or]

/-- Numbers of JSON texts are equal exactly if they have one value. -/
theorem equal?_eq_true_iff (hm : m.isJson = true) (hn : n.isJson = true) :
    m.equal? n = some true ↔ m.value = n.value := by
  have hsignal : n.toDecimal.isSignalling = false := by
    obtain ⟨s, c, e, h⟩ := exists_finite_of_isJson hn
    rw [h]
    rfl
  rw [equal?_eq_compare? hm, exact_of_isJson hn, hsignal]
  simp only [Bool.false_eq_true, if_false, Option.some_inj, beq_iff_eq]
  exact Decimal.compare?_eq_some_eq (isFinite_toDecimal hm) (isFinite_toDecimal hn)

section Congruence

variable (hm : m.isJson = true) (hm' : m'.isJson = true) (h : m.value = m'.value)

include hm hm' h

/-- Numbers of one value are equal to the same numbers. -/
theorem equal?_congr : m.equal? n = m'.equal? n := by
  rw [equal?_eq_compare? hm, equal?_eq_compare? hm',
    Decimal.compare?_congr (isFinite_toDecimal hm) (isFinite_toDecimal hm') h]

theorem isInteger_congr : m.isInteger = m'.isInteger := by
  rw [Bool.eq_iff_iff, isInteger_iff hm, isInteger_iff hm', h]

theorem isIntegerWithin_congr (low high : Int) : m.isIntegerWithin low high = m'.isIntegerWithin low high := by
  have hm := isFinite_toDecimal hm
  have hm' := isFinite_toDecimal hm'
  unfold isIntegerWithin
  rw [isInteger_congr ‹_› ‹_› h, Decimal.compare?_congr hm hm' h, Decimal.compare?_congr_right hm hm' h]

/-- Numbers of one value stand in the same order to another, where that is answered for both. -/
theorem order_congr {o o' : Option Ordering} (ho : m.order n = .ok o) (ho' : m'.order n = .ok o') : o = o' := by
  have horder {k : Number} (hk : k.isJson = true) {r : Option Ordering} (hr : k.order n = .ok r) :
      r = k.toDecimal.compare? n.toDecimal := by
    cases k with
    | dbl => cases hk
    | dec d =>
      simp only [order] at hr
      split at hr
      · rename_i o ho
        rw [ho, Except.ok.inj hr]
      · cases hr
    | int i =>
      cases n with
      | dec d =>
        simp only [order] at hr
        split at hr
        · rename_i o ho
          rw [ho, Except.ok.inj hr]
        · cases hr
      | dbl x => exact (Except.ok.inj hr).symm
      | int j =>
        obtain ⟨o, ho, hcompares⟩ := Decimal.exists_compare? (x := .ofInt i) (y := .ofInt j) rfl rfl
        have hcast : (compare i j).Compares (i : ℚ) j := by
          have h := compares_compare i j
          generalize compare i j = o at h
          cases o with
          | lt => exact Int.cast_lt.2 h
          | eq => exact congrArg Int.cast h
          | gt => exact Int.cast_lt.2 h
        rw [Decimal.value_ofInt, Decimal.value_ofInt] at hcompares
        rw [← Except.ok.inj hr, toDecimal, toDecimal, ho, hcast.inj hcompares]
  rw [horder hm ho, horder hm' ho', Decimal.compare?_congr (isFinite_toDecimal hm) (isFinite_toDecimal hm') h]

end Congruence

end Number

end Conform
