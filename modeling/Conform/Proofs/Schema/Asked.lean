import Conform.Compile.Schema
import Conform.Proofs.Json.Decoded
import Conform.Proofs.Schema.Tree

/-!
# What evaluation asks

To evaluate a value a node may ask the nodes right below it about the value or about parts of it (`Node.asked`).  Which
of them it asks, and in which form, depends on the form and on the answers (`Node.consults`); these ask the ones below
them, and so on (`Node.Visits`).  What is asked about a JSON value are JSON values.
-/

namespace Conform

/-- The values right inside a value: items, and keys and values of members. -/
def Value.parts : Value → List Value
  | .arr vs => vs
  | .obj ms => ms.map (fun m => .scalar m.1) ++ ms.map (·.2)
  | _ => []

theorem Value.isJson_of_mem_parts {v w : Value} (hv : v.isJson = true) (h : w ∈ v.parts) : w.isJson = true := by
  cases v with
  | scalar | set => cases h
  | arr vs => exact itemsJson_iff.1 hv w h
  | obj ms =>
    rcases List.mem_append.1 h with h | h
    · obtain ⟨m, hm, rfl⟩ := List.mem_map.1 h
      obtain ⟨name, hname⟩ := (isJson_of_mem hv hm).1
      rw [hname]
      rfl
    · obtain ⟨m, hm, rfl⟩ := List.mem_map.1 h
      exact (isJson_of_mem hv hm).2

namespace Node

/-- The key is matched by the pattern. -/
def matchedBy (regex : Regex) (key : Scalar) : Bool :=
  match matchesKey regex key with
  | .ok b => b
  | .error _ => false

/-- The member has the schema for additional members. -/
def isBeyond (names : List Scalar) (patterns : List Regex) (key : Scalar) : Bool :=
  match isAdditional names patterns key with
  | .ok b => b
  | .error _ => false

/-- The nodes right below a node that it may ask, with what it asks them about. -/
def asked : Node → Value → List (Node × Value)
  | .not _ child, v | .reference _ child _, v | .delegating _ _ child, v => [(child, v)]
  | .combine _ _ _ children, v | .group _ children _ _ _, v | .delegatedFormat _ _ _ children, v =>
    children.map fun c => (c, v)
  | .conditional _ condition thenBranch elseBranch, v =>
    (condition :: (thenBranch.toList ++ elseBranch.toList)).map fun c => (c, v)
  | .properties _ entries, .obj ms => entries.filterMap fun e => (lookupKey e.1 ms).map fun w => (e.2, w)
  | .patternProperties _ entries, .obj ms =>
    entries.flatMap fun e => (ms.filter fun m => matchedBy e.1 m.1).map fun m => (e.2, m.2)
  | .additionalProperties _ schema names patterns, .obj ms =>
    (ms.filter fun m => isBeyond names patterns m.1).map fun m => (schema, m.2)
  | .propertyNames _ schema, .obj ms => ms.map fun m => (schema, .scalar m.1)
  | .items _ schema, .arr vs | .contains _ schema _ _, .arr vs => vs.map fun w => (schema, w)
  | .itemsTuple _ schemas, .arr vs => schemas.zip vs
  | .additionalItems _ schema tupleSize applies, .arr vs =>
    (itemsBeyond tupleSize applies vs).map fun w => (schema, w)
  | _, _ => []

variable {n c : Node} {v w : Value}

theorem asked_of_passesOver (h : n.passesOver v = true) : n.asked v = [] := by
  cases n <;> cases v <;> first | rfl | cases h

/-- What is asked is a node right below, about the value itself or a part of it. -/
theorem of_asked (h : (c, w) ∈ n.asked v) : c ∈ n.subnodes ∧ (w = v ∨ w ∈ v.parts) := by
  cases n, v using cases_applied with
  | passing n v hpass => simp [asked_of_passesOver hpass] at h
  | constant | required | leaf | bare => simp [asked] at h
  | not | reference | delegating => simp_all [asked, subnodes]
  | combine | group | delegatedFormat | conditional =>
    obtain ⟨d, hd, heq⟩ := List.mem_map.1 h
    cases heq
    exact ⟨hd, .inl rfl⟩
  | properties s entries ms =>
    obtain ⟨e, he, hw⟩ := List.mem_filterMap.1 h
    obtain ⟨u, hu, heq⟩ := Option.map_eq_some_iff.1 hw
    cases heq
    obtain ⟨k, hk⟩ := exists_mem_of_lookupKey hu
    exact ⟨List.mem_map_of_mem he, .inr (List.mem_append_right _ (List.mem_map_of_mem hk))⟩
  | patternProperties s entries ms =>
    obtain ⟨e, he, hw⟩ := List.mem_flatMap.1 h
    obtain ⟨m, hm, heq⟩ := List.mem_map.1 hw
    cases heq
    have hm := (List.mem_filter.1 hm).1
    exact ⟨List.mem_map_of_mem he, .inr (List.mem_append_right _ (List.mem_map_of_mem hm))⟩
  | additionalProperties =>
    obtain ⟨m, hm, heq⟩ := List.mem_map.1 h
    cases heq
    have hm := (List.mem_filter.1 hm).1
    exact ⟨by simp [subnodes], .inr (List.mem_append_right _ (List.mem_map_of_mem hm))⟩
  | propertyNames =>
    obtain ⟨m, hm, heq⟩ := List.mem_map.1 h
    cases heq
    exact ⟨by simp [subnodes], .inr (List.mem_append_left _ (List.mem_map_of_mem (f := fun m => Value.scalar m.1) hm))⟩
  | items | contains =>
    obtain ⟨u, hu, heq⟩ := List.mem_map.1 h
    cases heq
    exact ⟨by simp [subnodes], .inr hu⟩
  | additionalItems s schema tupleSize applies vs =>
    obtain ⟨u, hu, heq⟩ := List.mem_map.1 h
    cases heq
    refine ⟨by simp [subnodes], .inr ?_⟩
    unfold itemsBeyond at hu
    split at hu
    · exact List.mem_of_mem_drop hu
    · cases hu
  | itemsTuple s schemas vs => exact ⟨(List.of_mem_zip h).1, .inr (List.of_mem_zip h).2⟩

theorem isJson_of_asked (h : (c, w) ∈ n.asked v) (hv : v.isJson = true) : w.isJson = true := by
  rcases (of_asked h).2 with rfl | hw
  · exact hv
  · exact Value.isJson_of_mem_parts hv hw

/-! ### Whom a form of evaluation asks -/

/-- The search goes on after an answer. -/
def goesOn : Counting → Bool → Bool → Bool
  | .all, _, answer => answer
  | .any, _, answer => !answer
  | .one, found, answer => !(found && answer)

/-- How far a list is gone through, where `found` says that the test held of one before. -/
def reached {α : Type} (counting : Counting) (test : α → Except EvalError Bool) (found : Bool) : List α → List α
  | [] => []
  | a :: rest =>
    a :: match test a with
      | .ok answer => if goesOn counting found answer then reached counting test (found || answer) rest else []
      | .error _ => []

theorem mem_of_mem_reached {α : Type} {counting : Counting} {test : α → Except EvalError Bool} {found : Bool} {a : α}
    {as : List α} (h : a ∈ reached counting test found as) : a ∈ as := by
  induction as generalizing found with
  | nil => cases h
  | cons b as ih =>
    rcases List.mem_cons.1 h with rfl | h
    · exact List.mem_cons_self
    · cases hb : test b with
      | error e => simp [hb] at h
      | ok answer =>
        simp only [hb] at h
        split at h
        · exact List.mem_cons_of_mem _ (ih h)
        · cases h

/-- How a node goes through the nodes that it may ask. -/
def counting : Node → Counting
  | .combine _ _ counting _ => counting
  | _ => .all

/-- What a node may ask, as far as it gets when it only wants to know whether it accepts. -/
def askedFirst (n : Node) (v : Value) : List (Node × Value) :=
  reached n.counting (fun p => p.1.accepts p.2) false (n.asked v)

theorem mem_asked_of_first {p : Node × Value} (h : p ∈ n.askedFirst v) : p ∈ n.asked v := mem_of_mem_reached h

/-- The branch of a conditional that the answer to the condition leads to. -/
def branchTaken (condition : Node) (thenBranch elseBranch : Option Node) (v : Value) : Option Node :=
  match condition.accepts v with
  | .ok true => thenBranch
  | .ok false => elseBranch
  | .error _ => none

/-- What a node asks in a form of evaluation: other nodes, in a form of their own.  Of a condition the list of findings
wants only the answer, and so does every form of the items that are counted. -/
def consults (form : Schema.Form) (n : Node) (v : Value) : List (Schema.Form × Node × Value) :=
  match n with
  | .conditional _ condition thenBranch elseBranch =>
    (if form = .basic then .flag else form, condition, v) ::
      (branchTaken condition thenBranch elseBranch v).toList.map fun c => (form, c, v)
  | .contains .. => (n.asked v).map (.flag, ·)
  | .delegatedFormat .. => (n.askedFirst v).map (.flag, ·)
  | n =>
    match form with
    | .flag => (n.askedFirst v).map (.flag, ·)
    | form => (n.asked v).map (form, ·)

theorem asked_of_consults {form form' : Schema.Form} (h : (form', c, w) ∈ n.consults form v) : (c, w) ∈ n.asked v := by
  have hmap {f : Schema.Form} {ps : List (Node × Value)} (hps : ∀ p ∈ ps, p ∈ n.asked v)
      (h : (form', c, w) ∈ ps.map (f, ·)) : (c, w) ∈ n.asked v := by
    obtain ⟨q, hq, heq⟩ := List.mem_map.1 h
    cases heq
    exact hps _ hq
  cases n with
  | conditional s condition thenBranch elseBranch =>
    rcases List.mem_cons.1 h with heq | h
    · cases heq
      simp [asked]
    · obtain ⟨d, hd, heq⟩ := List.mem_map.1 h
      cases heq
      refine List.mem_map_of_mem (List.mem_cons_of_mem _ ?_)
      unfold branchTaken at hd
      split at hd
      · exact List.mem_append_left _ hd
      · exact List.mem_append_right _ hd
      · cases hd
  | contains => exact hmap (fun _ hp => hp) h
  | delegatedFormat => exact hmap (fun _ => mem_asked_of_first) h
  | constant | not | combine | group | reference | properties | patternProperties | additionalProperties
  | propertyNames | required | items | itemsTuple | additionalItems | leaf | delegating | bare =>
    cases form with
    | flag =>
      change (form', c, w) ∈ (askedFirst _ v).map (Schema.Form.flag, ·) at h
      exact hmap (fun _ => mem_asked_of_first) h
    | basic =>
      change (form', c, w) ∈ (asked _ v).map (Schema.Form.basic, ·) at h
      exact hmap (fun _ hp => hp) h
    | detailed =>
      change (form', c, w) ∈ (asked _ v).map (Schema.Form.detailed, ·) at h
      exact hmap (fun _ hp => hp) h

/-- The evaluation of a value in a form comes to another node and a part of the value. -/
inductive Visits : Schema.Form → Node → Value → Node → Value → Prop where
  | self {form : Schema.Form} {n : Node} {v : Value} : Visits form n v n v
  | consulted {form form' : Schema.Form} {n c m : Node} {v w u : Value} (hc : (form', c, w) ∈ n.consults form v)
      (hm : Visits form' c w m u) : Visits form n v m u

end Node

end Conform
