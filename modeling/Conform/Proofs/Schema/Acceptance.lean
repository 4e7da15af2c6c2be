import Conform.Proofs.Lists
import Conform.Proofs.Result
import Conform.Schema.Acceptance

/-!
# What acceptance comes to

The parts of a tree are asked in order and no further than needed.  Where that has an answer, it is the answer of
asking all of them: `all_of_allOk` and its neighbours say so for parts that are related one by one to the things that
they answer for.
-/

namespace Conform

variable {α β : Type}

/-- The answer, if there is one, is `r`. -/
def Answers (answer : Except EvalError Bool) (r : Bool) : Prop := ∀ b, answer = .ok b → r = b

theorem all_of_allOk {test : β → Except EvalError Bool} {r : α → Bool} {as : List α} {bs : List β}
    (h : List.Forall₂ (fun a b => Answers (test b) (r a)) as bs) : Answers (allOk test bs) (as.all r) := by
  intro b hb
  induction h with
  | nil =>
    cases hb
    rfl
  | cons hab _ ih =>
    obtain ⟨here, hhere, hb⟩ := bind_eq_ok.1 hb
    rw [List.all_cons, hab here hhere]
    cases here with
    | true => exact ih hb
    | false =>
      cases hb
      rfl

/-- The same things are asked and answered for. -/
theorem all_of_allOk_self {test : α → Except EvalError Bool} {r : α → Bool} {as : List α}
    (h : ∀ a ∈ as, Answers (test a) (r a)) : Answers (allOk test as) (as.all r) :=
  all_of_allOk (List.forall₂_same.2 h)

theorem answers_map {answer : Except EvalError Bool} {r : Bool} (f : Bool → Bool) (h : Answers answer r) :
    Answers (answer.map f) (f r) := by
  intro b hb
  obtain ⟨a, ha, rfl⟩ := map_eq_ok.1 hb
  rw [h a ha]

theorem answers_ok (b : Bool) : Answers (.ok b) b := fun _ h => by cases h; rfl

theorem answers_all_true {l : List α} : Answers (.ok true) (l.all fun _ => true) := by
  intro b hb
  cases hb
  exact List.all_eq_true.2 fun _ _ => rfl

/-- A question that is only asked if another is answered with yes. -/
theorem answers_when {first second : Except EvalError Bool} {r s : Bool} (hr : Answers first r)
    (hs : Answers second s) : Answers (first >>= fun b => if b then second else pure true) (!r || s) := by
  intro b hb
  obtain ⟨a, ha, hb⟩ := bind_eq_ok.1 hb
  rw [hr a ha]
  cases a with
  | true => exact hs b hb
  | false =>
    cases hb
    rfl

/-! ### Lists of trees -/

namespace Node

theorem acceptsAll_eq (ns : List Node) (v : Value) : acceptsAll ns v = allOk (·.accepts v) ns := by
  induction ns with
  | nil => rfl
  | cons n ns ih => rw [acceptsAll, allOk, ih]

theorem answers_acceptsAll_single {n : Node} {v : Value} {r : Bool} (h : Answers (n.accepts v) r) :
    Answers (acceptsAll [n] v) r := by
  intro b hb
  obtain ⟨here, hhere, hb⟩ := bind_eq_ok.1 hb
  rw [h here hhere]
  cases here <;> exact Except.ok.inj hb

theorem acceptsEntries_eq (es : List (Scalar × Node)) (ms : List (Scalar × Value)) :
    acceptsEntries es ms = allOk (fun e =>
      match lookupKey e.1 ms with
      | none => .ok true
      | some v => e.2.accepts v) es := by
  induction es with
  | nil => rfl
  | cons e es ih =>
    rw [acceptsEntries, allOk, ih]
    cases lookupKey e.1 ms <;> rfl

theorem acceptsMatches_eq (es : List (Regex × Node)) (ms : List (Scalar × Value)) :
    acceptsMatches es ms = allOk (fun e => allOk (fun m => do
      if ← matchesKey e.1 m.1 then e.2.accepts m.2
      else return true) ms) es := by
  induction es with
  | nil => rfl
  | cons e es ih => rw [acceptsMatches, allOk, ih]

theorem acceptsTuple_eq (ns : List Node) (vs : List Value) :
    acceptsTuple ns vs = allOk (fun p => p.1.accepts p.2) (ns.zip vs) := by
  induction ns generalizing vs with
  | nil => cases vs <;> rfl
  | cons n ns ih =>
    cases vs with
    | nil => rfl
    | cons v vs => rw [acceptsTuple, List.zip_cons_cons, allOk, ih]

theorem answers_acceptsAny {r : α → Bool} {as : List α} {ns : List Node} {v : Value}
    (h : List.Forall₂ (fun a n => Answers (accepts n v) (r a)) as ns) : Answers (acceptsAny ns v) (as.any r) := by
  intro b hb
  induction h with
  | nil =>
    cases hb
    rfl
  | cons hab _ ih =>
    obtain ⟨here, hhere, hb⟩ := bind_eq_ok.1 hb
    rw [List.any_cons, hab here hhere]
    cases here with
    | true =>
      cases hb
      rfl
    | false => exact ih hb

/-- Once one tree has accepted, no other may. -/
theorem answers_acceptsOne {r : α → Bool} {as : List α} {ns : List Node} {v : Value}
    (h : List.Forall₂ (fun a n => Answers (accepts n v) (r a)) as ns) (found : Bool) :
    Answers (acceptsOne found ns v) (as.countP r + found.toNat == 1) := by
  intro b hb
  induction h generalizing found with
  | nil =>
    cases hb
    cases b <;> rfl
  | cons hab _ ih =>
    obtain ⟨here, hhere, hb⟩ := bind_eq_ok.1 hb
    rw [List.countP_cons, hab here hhere]
    cases here with
    | true =>
      cases found with
      | true =>
        cases hb
        simp
      | false => simpa using ih true hb
    | false => simpa using ih found hb

end Node

end Conform
