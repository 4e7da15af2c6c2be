import Conform.Compile.Schema
import Conform.Proofs.Number.Divisible
import Conform.Proofs.Schema.Tractable

/-!
# Limits on multiples

Where nothing of the rest gets lost a limit on multiples accepts the multiples of its bound, which is a question about the
two values and not about their numerals.  A rest is lost if it is too small, and it is not asked for where the quotient has
more than 200 digits (`Node.accepts_multipleOf_iff`).
-/

namespace Conform

open Number (IsMultiple MeasuredBy)

namespace Node

/-- A limit on multiples accepts the numbers that the calculation takes for multiples, and refuses the others; where a
numeral is too long the refusal is not told. -/
theorem accepts_multipleOf_eq {site : Site} {keyword : String} {d x : Number} (hx : x.isJson = true) :
    (leaf site (.limit keyword .multipleOf d)).accepts (.num x) =
      match x.isMultipleOf d with
      | .ok true => .ok true
      | .ok false => if (Message.limit keyword d x).isWritable then .ok false else .error .tooLong
      | .error fault => .error (.arithmetic fault) := by
  have hfinite : x.isFinite = true := by
    cases x with
    | int => rfl
    | dec => exact hx
    | dbl => cases hx
  rw [accepts, Constraint.failure?, Constraint.refusal?]
  simp only [hfinite, if_true, Number.exact_of_isJson hx, Relation.holds]
  cases x.isMultipleOf d with
  | error => rfl
  | ok b =>
    cases b with
    | true => rfl
    | false =>
      simp only [Except.bind, Constraint.failing, Bool.false_eq_true, ↓reduceIte, Message.written]
      split <;> rfl

/-- A limit on multiples, as schemas are compiled to, tells which numbers of JSON texts are integers times the bound exactly
where nothing of the rest gets lost, or where the quotient is longer and it should be that the number is a multiple and the
quotient of the doubles finite, or neither. -/
theorem accepts_multipleOf_iff {keyword : String} {d x : Number} (hd : (Constraint.limit keyword .multipleOf d).Regular)
    (hx : x.isJson = true) (site : Site) :
    (((leaf site (.limit keyword .multipleOf d)).accepts (.num x) = .ok true ∧ ∃ k : ℤ, x.value = k * d.value) ∨
      (((leaf site (.limit keyword .multipleOf d)).accepts (.num x) = .ok false ∨
        (leaf site (.limit keyword .multipleOf d)).accepts (.num x) = .error .tooLong) ∧
        ¬∃ k : ℤ, x.value = k * d.value)) ↔
    x.MeasuredBy d ∨ (10 ^ 200 * d.magnitude ≤ x.magnitude ∧
      ∃ q, x.roughQuotient d = .ok q ∧ (q.isFinite = true ↔ ∃ k : ℤ, x.value = k * d.value)) := by
  have hyes : (leaf site (.limit keyword .multipleOf d)).accepts (.num x) = .ok true ↔ x.isMultipleOf d = .ok true := by
    rw [accepts_multipleOf_eq hx]
    rcases x.isMultipleOf d with _ | _ | _ <;> simp
    split <;> simp
  have hno : ((leaf site (.limit keyword .multipleOf d)).accepts (.num x) = .ok false ∨
      (leaf site (.limit keyword .multipleOf d)).accepts (.num x) = .error .tooLong) ↔ x.isMultipleOf d = .ok false := by
    rw [accepts_multipleOf_eq hx]
    rcases x.isMultipleOf d with _ | _ | _ <;> simp
  rw [hyes, hno]
  refine Iff.trans ?_ (Number.isMultipleOf_iff_isMultiple hx hd.1 (hd.2 rfl))
  rw [Bool.exists_bool, or_comm]
  simp [Number.IsMultiple]

/-- A price that is not in tenths. -/
theorem accepts_multipleOf_iff_tenths :
    let d : Number := .dec (.finite false 1 (-1))
    let x : Number := .dec (.finite false 35 (-2))
    (Constraint.limit "multipleOf" .multipleOf d).Regular ∧ x.MeasuredBy d ∧
      (leaf ⟨none, .root⟩ (.limit "multipleOf" .multipleOf d)).accepts (.num x) = .ok false ∧
      ¬∃ k : ℤ, x.value = k * d.value := by
  intro d x
  have hregular : (Constraint.limit "multipleOf" .multipleOf d).Regular := ⟨rfl, fun _ => by decide⟩
  have hmeasured : x.MeasuredBy d :=
    Number.measuredBy_of_leading rfl rfl (by decide) (by decide) (by decide) (by decide) (by decide)
  have hrefuses : (leaf ⟨none, .root⟩ (.limit "multipleOf" .multipleOf d)).accepts (.num x) = .ok false :=
    toOption_eq_some.1 (by decide +kernel)
  refine ⟨hregular, hmeasured, hrefuses, ?_⟩
  rcases (accepts_multipleOf_iff hregular rfl ⟨none, .root⟩).2 (.inl hmeasured) with ⟨haccepts, -⟩ | ⟨-, hnone⟩
  · rw [hrefuses] at haccepts
    cases haccepts
  · exact hnone

/-- One number written in two ways: as a decimal of too many digits for the remainder it passes for a multiple of three, and
as an integer it does not. -/
theorem accepts_multipleOf_far : ∃ schema : Schema,
    ((Schema.compileText { world := .ofTable [] } r#"{"multipleOf": 3}"# none).run.run {}).1 = .ok schema ∧
    decodeText "1E300" = .ok (.num (.dec (.finite false 1 300))) ∧
    schema.root.accepts (.num (.dec (.finite false 1 300))) = .ok true ∧
    schema.root.accepts (.num (.int (10 ^ 300))) = .ok false ∧
    (Number.dec (.finite false 1 300)).value = (Number.int (10 ^ 300)).value ∧
    ¬∃ k : ℤ, (Number.dec (.finite false 1 300)).value = k * (Number.int 3).value := by
  obtain ⟨schema, hcompile, h⟩ := exists_eq_ok_of_any
    (x := ((Schema.compileText { world := .ofTable [] } r#"{"multipleOf": 3}"# none).run.run {}).1)
    (p := fun schema => (schema.root.accepts (.num (.dec (.finite false 1 300)))).toOption == some true &&
      (schema.root.accepts (.num (.int (10 ^ 300)))).toOption == some false)
    (by decide +kernel)
  simp only [Bool.and_eq_true, beq_iff_eq, toOption_eq_some] at h
  have hvalue : (Number.dec (.finite false 1 300)).value = (Number.int (10 ^ 300)).value := by
    rw [Number.value_int, Int.cast_pow]
    exact one_mul _
  refine ⟨schema, hcompile, ?_, h.1, h.2, hvalue, fun hmultiple => ?_⟩
  · rfl
  · rw [hvalue] at hmultiple
    exact absurd (Number.isMultiple_int_iff.1 hmultiple) (by decide +kernel)

end Node

end Conform
