import Conform.Schema.Outcome

/-!
# Reports of children

The functions that gather what the children of a node report go through lists of different make.  Each of them is a
`collect`: of the findings or of the failing outcomes of the children, one by one.
-/

namespace Conform

namespace Node

variable {ms : List (Scalar × Value)} {v : Value} {r l : Pointer}

/-- The faults that a node finds. -/
def faultsOf (n : Node) (v : Value) (r l : Pointer) : Except EvalError (List Entry) := do
  return (← n.findings v r l).faults

/-- The outcome of a node, if it is a failure. -/
def failureOf (n : Node) (v : Value) (r l : Pointer) : Except EvalError (List Outcome) := do
  return failing (← n.outcome v r l)

theorem findingsPlaced_eq (start : Nat) (ns : List Node) :
    findingsPlaced ns v r l = collect (fun _ n => n.faultsOf v (n.place r) l) start ns := by
  induction ns generalizing start with
  | nil => rfl
  | cons n ns ih =>
    rw [findingsPlaced, collect, ih (start + 1)]
    simp [faultsOf]

theorem failuresPlaced_eq (start : Nat) (ns : List Node) :
    failuresPlaced ns v r l = collect (fun _ n => n.failureOf v (n.place r) l) start ns := by
  induction ns generalizing start with
  | nil => rfl
  | cons n ns ih =>
    rw [failuresPlaced, collect, ih (start + 1)]
    simp [failureOf]

theorem findingsIndexed_eq (start : Nat) (ns : List Node) :
    findingsIndexed start ns v r l = collect (fun i n => (n.findings v (r.item i) l).map ([·])) start ns := by
  induction ns generalizing start with
  | nil => rfl
  | cons n ns ih =>
    rw [findingsIndexed, collect, ih (start + 1)]
    cases n.findings v (r.item start) l <;> rfl

theorem outcomesIndexed_eq (start : Nat) (ns : List Node) :
    outcomesIndexed start ns v r l = collect (fun i n => (n.outcome v (r.item i) l).map ([·])) start ns := by
  induction ns generalizing start with
  | nil => rfl
  | cons n ns ih =>
    rw [outcomesIndexed, collect, ih (start + 1)]
    cases n.outcome v (r.item start) l <;> rfl

theorem findingsEntries_eq (start : Nat) (es : List (Scalar × Node)) :
    findingsEntries es ms r l = collect (fun _ e =>
      match lookupKey e.1 ms with
      | none => .ok []
      | some w => e.2.faultsOf w (r.key e.1) (l.key e.1)) start es := by
  induction es generalizing start with
  | nil => rfl
  | cons e es ih =>
    rw [findingsEntries, collect, ih (start + 1)]
    cases lookupKey e.1 ms with
    | none =>
      generalize collect _ _ es = others
      cases others <;> rfl
    | some w => simp [faultsOf]

theorem failuresEntries_eq (start : Nat) (es : List (Scalar × Node)) :
    failuresEntries es ms r l = collect (fun _ e =>
      match lookupKey e.1 ms with
      | none => .ok []
      | some w => e.2.failureOf w (r.key e.1) (l.key e.1)) start es := by
  induction es generalizing start with
  | nil => rfl
  | cons e es ih =>
    rw [failuresEntries, collect, ih (start + 1)]
    cases lookupKey e.1 ms with
    | none =>
      generalize collect _ _ es = others
      cases others <;> rfl
    | some w => simp [failureOf]

theorem findingsMatches_eq (start : Nat) (es : List (Regex × Node)) :
    findingsMatches es ms r l = collect (fun _ e => collect (fun _ m => do
      if ← matchesKey e.1 m.1 then e.2.faultsOf m.2 (r.child e.1.text) (l.key m.1)
      else return []) 0 ms) start es := by
  induction es generalizing start with
  | nil => rfl
  | cons e es ih =>
    rw [findingsMatches, collect, ih (start + 1)]
    rfl

theorem failuresMatches_eq (start : Nat) (es : List (Regex × Node)) :
    failuresMatches es ms r l = collect (fun _ e => collect (fun _ m => do
      if ← matchesKey e.1 m.1 then e.2.failureOf m.2 (r.child e.1.text) (l.key m.1)
      else return []) 0 ms) start es := by
  induction es generalizing start with
  | nil => rfl
  | cons e es ih =>
    rw [failuresMatches, collect, ih (start + 1)]
    rfl

theorem findingsTuple_eq (start : Nat) (ns : List Node) (vs : List Value) :
    findingsTuple start ns vs r l =
      collect (fun i p => p.1.faultsOf p.2 (r.item i) (l.item i)) start (ns.zip vs) := by
  induction ns generalizing start vs with
  | nil => cases vs <;> rfl
  | cons n ns ih =>
    cases vs with
    | nil => rfl
    | cons v vs =>
      rw [findingsTuple, List.zip_cons_cons, collect, ih (start + 1)]
      simp [faultsOf]

theorem failuresTuple_eq (start : Nat) (ns : List Node) (vs : List Value) :
    failuresTuple start ns vs r l =
      collect (fun i p => p.1.failureOf p.2 (r.item i) (l.item i)) start (ns.zip vs) := by
  induction ns generalizing start vs with
  | nil => cases vs <;> rfl
  | cons n ns ih =>
    cases vs with
    | nil => rfl
    | cons v vs =>
      rw [failuresTuple, List.zip_cons_cons, collect, ih (start + 1)]
      simp [failureOf]

end Node

end Conform
