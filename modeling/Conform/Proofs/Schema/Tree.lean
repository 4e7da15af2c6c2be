import Conform.Schema.Outcome
import Mathlib.Data.List.Basic

/-!
# Trees and their parts

The nodes right below a node (`Node.subnodes`), induction over a tree by way of them (`Node.induction`), and
properties of all nodes of a tree (`Node.All`).  Keywords about members or items pass over all other values
(`Node.passesOver`); what they do with the others is told apart by `Node.cases_applied`.
-/

namespace Conform

namespace Node

/-- The nodes right below a node. -/
def subnodes : Node → List Node
  | .not _ child => [child]
  | .combine _ _ _ children | .group _ children _ _ _ => children
  | .conditional _ condition thenBranch elseBranch => condition :: (thenBranch.toList ++ elseBranch.toList)
  | .reference _ target _ => [target]
  | .properties _ entries => entries.map (·.2)
  | .patternProperties _ entries => entries.map (·.2)
  | .additionalProperties _ schema _ _ | .propertyNames _ schema | .items _ schema
  | .additionalItems _ schema _ _ | .contains _ schema _ _ => [schema]
  | .itemsTuple _ schemas => schemas
  | .delegatedFormat _ _ _ constraints => constraints
  | .delegating _ _ inner => [inner]
  | .constant .. | .required .. | .leaf .. | .bare .. => []

private theorem sizeOf_snd_lt {α : Type} [SizeOf α] {entries : List (α × Node)} {c : Node}
    (h : c ∈ entries.map (·.2)) : sizeOf c < sizeOf entries := by
  obtain ⟨⟨k, n⟩, hm, rfl⟩ := List.mem_map.1 h
  have := List.sizeOf_lt_of_mem hm
  simp only [Prod.mk.sizeOf_spec] at this ⊢
  omega

theorem sizeOf_lt_of_mem_subnodes {n c : Node} (h : c ∈ n.subnodes) : sizeOf c < sizeOf n := by
  cases n with
  | constant | required | leaf | bare => simp [subnodes] at h
  | not | reference | additionalProperties | propertyNames | items | additionalItems | contains | delegating =>
    simp only [subnodes, List.mem_singleton] at h
    subst h
    simp +arith
  | combine | group | itemsTuple | delegatedFormat =>
    simp only [subnodes] at h
    have := List.sizeOf_lt_of_mem h
    simp +arith
    omega
  | conditional s condition thenBranch elseBranch =>
    simp only [subnodes, List.mem_cons, List.mem_append, Option.mem_toList] at h
    rcases h with rfl | rfl | rfl
    · simp +arith
    · simp +arith
    · simp +arith
  | properties | patternProperties =>
    simp only [subnodes] at h
    have := sizeOf_snd_lt h
    simp +arith
    omega

/-- What holds of a node as soon as it holds of the nodes right below it holds of all nodes. -/
theorem induction {P : Node → Prop} (step : ∀ n, (∀ c ∈ n.subnodes, P c) → P n) (n : Node) : P n :=
  step n fun c _ => induction step c
termination_by sizeOf n
decreasing_by exact sizeOf_lt_of_mem_subnodes ‹_›

/-- All nodes of the tree have a property. -/
inductive All (P : Node → Prop) : Node → Prop where
  | intro {n : Node} (hn : P n) (hs : ∀ c ∈ n.subnodes, All P c) : All P n

theorem All.self {P : Node → Prop} {n : Node} (h : n.All P) : P n := by
  cases h with
  | intro hn hs => exact hn

theorem All.sub {P : Node → Prop} {n c : Node} (h : n.All P) (hc : c ∈ n.subnodes) : c.All P := by
  cases h with
  | intro hn hs => exact hs c hc

theorem All.mono {P Q : Node → Prop} {n : Node} (h : n.All P) (hPQ : ∀ m, P m → Q m) : n.All Q := by
  induction h with
  | intro hn hs ih => exact .intro (hPQ _ hn) ih

/-! ### Values that a keyword passes over -/

/-- The node is about members, or about items, and the value is of a kind that has none. -/
def passesOver : Node → Value → Bool
  | .properties .., v | .patternProperties .., v | .additionalProperties .., v | .propertyNames .., v
  | .required .., v => !v.isObject
  | .items .., v | .itemsTuple .., v | .additionalItems .., v | .contains .., v => !v.isArray
  | _, _ => false

/-- Cases on a node and a value it is applied to: keywords about members are applied to objects, those about items to
arrays, and all that is passed over is one case. -/
@[elab_as_elim]
theorem cases_applied {motive : Node → Value → Prop}
    (passing : ∀ n v, n.passesOver v = true → motive n v)
    (constant : ∀ s allows v, motive (.constant s allows) v)
    (not : ∀ s child v, motive (.not s child) v)
    (combine : ∀ s keyword counting children v, motive (.combine s keyword counting children) v)
    (group : ∀ s children title description dialect v, motive (.group s children title description dialect) v)
    (conditional : ∀ s condition thenBranch elseBranch v,
      motive (.conditional s condition thenBranch elseBranch) v)
    (reference : ∀ s target fragment v, motive (.reference s target fragment) v)
    (properties : ∀ s entries ms, motive (.properties s entries) (.obj ms))
    (patternProperties : ∀ s entries ms, motive (.patternProperties s entries) (.obj ms))
    (additionalProperties : ∀ s schema names patterns ms,
      motive (.additionalProperties s schema names patterns) (.obj ms))
    (propertyNames : ∀ s schema ms, motive (.propertyNames s schema) (.obj ms))
    (required : ∀ s names ms, motive (.required s names) (.obj ms))
    (items : ∀ s schema vs, motive (.items s schema) (.arr vs))
    (itemsTuple : ∀ s schemas vs, motive (.itemsTuple s schemas) (.arr vs))
    (additionalItems : ∀ s schema size applies vs, motive (.additionalItems s schema size applies) (.arr vs))
    (contains : ∀ s schema minimum maximum vs, motive (.contains s schema minimum maximum) (.arr vs))
    (leaf : ∀ s c v, motive (.leaf s c) v)
    (delegatedFormat : ∀ s name checker constraints v, motive (.delegatedFormat s name checker constraints) v)
    (delegating : ∀ s key inner v, motive (.delegating s key inner) v)
    (bare : ∀ s v, motive (.bare s) v) (n : Node) (v : Value) : motive n v := by
  cases n with
  | constant => exact constant ..
  | not => exact not ..
  | combine => exact combine ..
  | group => exact group ..
  | conditional => exact conditional ..
  | reference => exact reference ..
  | leaf => exact leaf ..
  | delegatedFormat => exact delegatedFormat ..
  | delegating => exact delegating ..
  | bare => exact bare ..
  | properties =>
    cases v with
    | obj => exact properties ..
    | scalar | arr | set => exact passing _ _ rfl
  | patternProperties =>
    cases v with
    | obj => exact patternProperties ..
    | scalar | arr | set => exact passing _ _ rfl
  | additionalProperties =>
    cases v with
    | obj => exact additionalProperties ..
    | scalar | arr | set => exact passing _ _ rfl
  | propertyNames =>
    cases v with
    | obj => exact propertyNames ..
    | scalar | arr | set => exact passing _ _ rfl
  | required =>
    cases v with
    | obj => exact required ..
    | scalar | arr | set => exact passing _ _ rfl
  | items =>
    cases v with
    | arr => exact items ..
    | scalar | obj | set => exact passing _ _ rfl
  | itemsTuple =>
    cases v with
    | arr => exact itemsTuple ..
    | scalar | obj | set => exact passing _ _ rfl
  | additionalItems =>
    cases v with
    | arr => exact additionalItems ..
    | scalar | obj | set => exact passing _ _ rfl
  | contains =>
    cases v with
    | arr => exact contains ..
    | scalar | obj | set => exact passing _ _ rfl

variable {n : Node} {v : Value}

theorem accepts_of_passesOver (h : n.passesOver v = true) : n.accepts v = .ok true := by
  cases n <;> cases v <;> first | rfl | cases h

theorem findings_of_passesOver (h : n.passesOver v = true) (r l : Pointer) : n.findings v r l = .ok .accepted := by
  cases n <;> cases v <;> first | rfl | cases h

/-- The outcome says that the value is of the wrong kind, wherever it lies. -/
theorem outcome_of_passesOver (h : n.passesOver v = true) :
    ∃ m, ∀ r l, n.outcome v r l = .ok (n.told true r l m [] []) := by
  cases n <;> cases v <;> first | exact ⟨_, fun _ _ => rfl⟩ | cases h

end Node

end Conform
