import Conform.Proofs.Schema.Invariance

/-!
# Equality by canonical form

Equality of JSON values is answered for any two of them, and the answer is that of their canonical forms; so it is an
equivalence, and a test for repeated items tells whether the canonical forms of the items are pairwise distinct
(`Value.equal_iff_canonical`).
-/

namespace Conform

namespace Value

/-- The values that a JSON text can denote. -/
abbrev OfJson : Type := {v : Value // v.isJson = true}

variable {a b : Value}

theorem exists_equal? (ha : a.isJson = true) (hb : b.isJson = true) :
    ∃ answer, a.equal? b = some answer ∧ (answer = true ↔ a.canonical = b.canonical) := by
  obtain ⟨answer, h⟩ := Option.isSome_iff_exists.1 (isSome_equal? ha hb)
  refine ⟨answer, h, ?_⟩
  rw [← equal?_eq_true_iff ha hb, h, Option.some_inj]

/-- Equality of JSON values is that of canonical forms, pulled back to the values. -/
theorem equivalence_equal? : Equivalence fun a b : OfJson => a.1.equal? b.1 = some true := by
  have hform (a b : OfJson) : a.1.equal? b.1 = some true ↔ a.1.canonical = b.1.canonical := equal?_eq_true_iff a.2 b.2
  constructor
  · intro a
    rw [hform]
  · intro a b h
    rw [hform] at h ⊢
    exact h.symm
  · intro a b c hab hbc
    rw [hform] at hab hbc ⊢
    exact hab.trans hbc

theorem exists_hasRepeat? {vs : List Value} (h : (arr vs).isJson = true) :
    ∃ answer, hasRepeat? [] vs = some answer ∧ (answer = true ↔ ¬(vs.map (·.canonical)).Nodup) := by
  have hvs : ∀ v ∈ vs, v.isJson = true := itemsJson_iff.1 h
  have hnone : ∀ v ∈ ([] : List Value), v.isJson = true := by simp
  obtain ⟨answer, hanswer⟩ := Option.isSome_iff_exists.1 (isSome_hasRepeat? hnone hvs)
  refine ⟨answer, hanswer, ?_⟩
  have hiff := hasRepeat?_eq_true_iff hnone hvs List.nodup_nil
  rwa [hanswer, Option.some_inj, List.nil_append] at hiff

/-- What JSON resources are decoded to is equal exactly if the canonical forms are, where a number is its value and an object
what is found under each name; this is an equivalence, and `uniqueItems` accepts an array exactly if the canonical forms of
its items are pairwise distinct. -/
theorem equal_iff_canonical :
    (∀ yaml r uri v, isYaml uri r.contentType = .ok false → Resource.decode yaml r uri = .ok v → v.isJson = true) ∧
    (∀ a b : Value, a.isJson = true → b.isJson = true →
      ∃ answer, a.equal? b = some answer ∧ (answer = true ↔ a.canonical = b.canonical)) ∧
    Equivalence (fun a b : OfJson => a.1.equal? b.1 = some true) ∧
    ∀ site vs, (arr vs).isJson = true →
      ∃ answer, (Node.leaf site .uniqueItems).accepts (arr vs) = .ok answer ∧
        (answer = true ↔ (vs.map (·.canonical)).Pairwise (· ≠ ·)) := by
  refine ⟨fun _ _ _ _ => isJson_of_decode, fun _ _ => exists_equal?, equivalence_equal?, fun site vs h => ?_⟩
  obtain ⟨repeated, hrepeated, hiff⟩ := exists_hasRepeat? h
  refine ⟨!repeated, ?_, ?_⟩
  · simp only [Node.accepts, Constraint.failure?, Constraint.refusal?, hrepeated, answered, Except.map, Constraint.failing]
    cases repeated <;> rfl
  · rw [Bool.not_eq_true', ← Bool.not_eq_true, hiff, not_not, List.Nodup]

/-- Two texts of one value, with the members in another order and the numbers with other exponents: of an array with both,
one is a repetition of the other, while one and true are distinct. -/
theorem equal_iff_canonical_reordered :
    let a := ofPairs [("x", .num (.dec (.finite false 150 (-2)))), ("y", .arr [.null, .int 1])]
    let b := ofPairs [("y", .arr [.null, .num (.dec (.finite false 10 (-1)))]), ("x", .num (.dec (.finite false 15 (-1))))]
    decodeText r#"{"x": 1.50, "y": [null, 1]}"# = .ok a ∧ decodeText r#"{"y": [null, 10e-1], "x": 15E-1}"# = .ok b ∧
      a.equal? b = some true ∧ a.canonical = b.canonical ∧
      (Node.leaf {} .uniqueItems).accepts (arr [a, .int 1, .bool true]) = .ok true ∧
      ([a, .int 1, .bool true].map (·.canonical)).Pairwise (· ≠ ·) ∧
      (Node.leaf {} .uniqueItems).accepts (arr [a, .int 1, b]) = .ok false ∧
      ¬([a, .int 1, b].map (·.canonical)).Pairwise (· ≠ ·) := by
  intro a b
  have hatext : decodeText r#"{"x": 1.50, "y": [null, 1]}"# = .ok a := toOption_eq_some.1 (by decide +kernel)
  have hbtext : decodeText r#"{"y": [null, 10e-1], "x": 15E-1}"# = .ok b := toOption_eq_some.1 (by decide +kernel)
  have ha : a.isJson = true := equal_iff_canonical.1 _ _ "" a rfl ((decode_text Yaml.read _).trans hatext)
  have hb : b.isJson = true := equal_iff_canonical.1 _ _ "" b rfl ((decode_text Yaml.read _).trans hbtext)
  have hequal : a.equal? b = some true := rfl
  have hunique : (Node.leaf {} .uniqueItems).accepts (arr [a, .int 1, .bool true]) = .ok true := rfl
  have hrepeated : (Node.leaf {} .uniqueItems).accepts (arr [a, .int 1, b]) = .ok false := rfl
  obtain ⟨answer, hanswer, hform⟩ := equal_iff_canonical.2.1 a b ha hb
  obtain ⟨unique, hunique', hdistinct⟩ := equal_iff_canonical.2.2.2 {} [a, .int 1, .bool true] (by decide)
  obtain ⟨unique', hrepeated', hdistinct'⟩ := equal_iff_canonical.2.2.2 {} [a, .int 1, b] (by decide)
  cases hequal.symm.trans hanswer
  cases hunique.symm.trans hunique'
  cases hrepeated.symm.trans hrepeated'
  exact ⟨hatext, hbtext, hequal, hform.1 rfl, hunique, hdistinct.1 rfl, hrepeated, fun h => Bool.noConfusion (hdistinct'.2 h)⟩

end Value

end Conform
