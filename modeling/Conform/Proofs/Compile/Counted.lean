import Conform.Proofs.Compile.Determined
import Conform.Proofs.Compile.Kept
import Conform.Proofs.Compile.Walks
import Conform.Proofs.Number.Order
import Conform.Proofs.Schema.Agreement
import Conform.Proofs.Schema.Totality

/-!
# Counting items

A schema object with `contains` has one child that counts: it asks the node that is filed for the schema under the keyword,
and bounds the count by the sizes beside it (`contains_of_built`).  In each form of evaluation it accepts an array if the
count is within the bounds and is not zero (`Schema.contains_counts`): where no item need match, one must all the same.
-/

namespace Conform

/-! ### Counts and verdicts -/

theorem eq_countP_of_countOk {α : Type} {test : α → Except EvalError Bool} {as : List α} {k : Nat}
    (h : countOk test as = .ok k) : k = as.countP fun a => (test a).toOption == some true := by
  induction as generalizing k with
  | nil =>
    cases h
    rfl
  | cons a as ih =>
    obtain ⟨here, hhere, h⟩ := bind_eq_ok.1 h
    obtain ⟨others, hothers, h⟩ := bind_eq_ok.1 h
    cases h
    rw [List.countP_cons, hhere, ← ih hothers]
    cases here <;> simp [Except.toOption, add_comm]

/-- Nothing is wrong with a count within the bounds, unless it is zero. -/
theorem isNone_containsProblem?_iff {minimum maximum : Option Int} {k : Nat} :
    (containsProblem? minimum maximum k).isNone = true ↔
      0 < k ∧ minimum.getD 1 ≤ k ∧ ∀ bound, maximum = some bound → k ≤ bound := by
  have hfilter (bound : Option Int) (p : Int → Bool) : bound.filter p = none ↔ ∀ b, bound = some b → p b = false := by
    cases bound <;> simp
  unfold containsProblem?
  -- The test for zero comes before the bounds.
  rcases Nat.eq_zero_or_pos k with rfl | hk
  · simp
  have hminimum : minimum.getD 1 ≤ k ↔ minimum.filter (fun bound => decide ((k : Int) < bound)) = none := by
    rw [hfilter]
    cases minimum with
    | none => simpa using Nat.succ_le_of_lt hk
    | some bound => simp
  have hmaximum : (∀ bound, maximum = some bound → (k : Int) ≤ bound) ↔
      maximum.filter (fun bound => decide (bound < (k : Int))) = none := by
    rw [hfilter]
    simp
  rw [if_neg (by simpa using hk.ne'), hminimum, hmaximum]
  cases minimum.filter (fun bound => decide ((k : Int) < bound)) with
  | some bound => simp
  | none =>
    cases maximum.filter (fun bound => decide (bound < (k : Int))) with
    | some bound => simp
    | none => simpa using hk

namespace Node

/-- The number of values that the tree accepts. -/
def acceptedAmong (n : Node) (vs : List Value) : Nat := vs.countP fun v => (n.accepts v).toOption == some true

end Node

namespace Schema

section Evaluate

variable {site : Site} {m : Node} {minimum maximum : Option Int} {form : Form} {vs : List Value} {r l : Pointer}

private theorem evaluate_contains (site : Site) (m : Node) (minimum maximum : Option Int) (form : Form) (vs : List Value)
    (r l : Pointer) : ∃ report : Option (Option String × Message) → Report,
      evaluate (.contains site m minimum maximum) form (.arr vs) r l =
        ((countOk (fun v => m.accepts v) vs >>= toldProblem? minimum maximum).map report).mapError .ofEval ∧
      ∀ problem, (report problem).valid = problem.isNone := by
  have hmap {α : Type} (x : Except EvalError Nat) (g : Option (Option String × Message) → α) :
      (do let count ← x; return g (← toldProblem? minimum maximum count)) =
        (x >>= toldProblem? minimum maximum).map g := by
    cases x with
    | error e => rfl
    | ok count =>
      change ((toldProblem? minimum maximum count) >>= fun problem => pure (g problem)) =
        (toldProblem? minimum maximum count).map g
      cases toldProblem? minimum maximum count <;> rfl
  cases form with
  | flag =>
    refine ⟨fun problem => .flag problem.isNone, ?_, fun _ => rfl⟩
    rw [evaluate, Node.accepts, hmap]
    cases countOk (fun v => m.accepts v) vs >>= toldProblem? minimum maximum <;> rfl
  | basic =>
    refine ⟨fun problem => .basic (Node.findingsOf (problem.map
      ((Node.contains site m minimum maximum).containsEntry r l))), ?_, fun problem => by simp [Report.valid]⟩
    rw [evaluate, Node.findings, hmap]
    cases countOk (fun v => m.accepts v) vs >>= toldProblem? minimum maximum <;> rfl
  | detailed =>
    refine ⟨fun problem => .detailed ((Node.contains site m minimum maximum).judged r l (problem.map (·.2))), ?_,
      fun problem => by simp [Report.valid]⟩
    rw [evaluate, Node.outcome, hmap]
    cases countOk (fun v => m.accepts v) vs >>= toldProblem? minimum maximum <;> rfl

theorem returns_evaluate_contains_iff : Returns (evaluate (.contains site m minimum maximum) form (.arr vs) r l) ↔
    (∀ v ∈ vs, Returns (m.accepts v)) ∧
      ∀ problem ∈ containsProblem? minimum maximum (m.acceptedAmong vs), problem.2.isWritable = true := by
  obtain ⟨report, heq, -⟩ := evaluate_contains site m minimum maximum form vs r l
  rw [heq, returns_mapError, returns_map, ← returns_countOk_iff]
  refine returns_bind_and_iff fun k hk => ?_
  rw [eq_countP_of_countOk hk]
  simp only [Returns, toldProblem?_eq_ok, exists_eq_left']
  rfl

theorem valid_of_evaluate_contains {report : Report}
    (h : evaluate (.contains site m minimum maximum) form (.arr vs) r l = .ok report) :
    report.valid = true ↔ 0 < m.acceptedAmong vs ∧ minimum.getD 1 ≤ m.acceptedAmong vs ∧
      ∀ bound, maximum = some bound → m.acceptedAmong vs ≤ bound := by
  obtain ⟨reports, heq, hvalid⟩ := evaluate_contains site m minimum maximum form vs r l
  rw [heq, mapError_eq_ok] at h
  obtain ⟨problem, hproblem, rfl⟩ := map_eq_ok.1 h
  obtain ⟨k, hk, htold⟩ := bind_eq_ok.1 hproblem
  rw [hvalid, ← (toldProblem?_eq_ok.1 htold).1, isNone_containsProblem?_iff, eq_countP_of_countOk hk]
  rfl

end Evaluate

end Schema

/-! ### The child that counts -/

section Child

variable {setup : Setup} {means : Location → Node → Prop} {leads : Location → String → Location → Option String → Prop}
  {l : Location} {members : List (Scalar × Value)} {n : Node}

/-- An object with `contains` has a child for it. -/
theorem ChildrenOf.exists_contains {children : List Node} {S : Value} (h : ChildrenOf setup means leads l members children)
    (hmem : (.str "contains", S) ∈ members) : ∃ m minimum maximum,
      .contains (l.site (l.pointer.child "contains")) m minimum maximum ∈ children ∧
      MemberOf setup means leads l members "contains" S (.contains (l.site (l.pointer.child "contains")) m minimum maximum) := by
  obtain ⟨firsts, results, hfirsts, hresults, rfl⟩ := h
  obtain ⟨child, hchild, name, hname, hearly⟩ := exists_right_of_forall₂ hfirsts hmem
  cases hname
  rw [if_neg (by decide)] at hearly
  obtain ⟨result, hkeyword, rfl⟩ := hearly
  obtain ⟨late, hlate, hresult⟩ := exists_right_of_forall₂ hresults hchild
  obtain ⟨m, minimum, maximum, -, -, -, rfl⟩ := id hkeyword
  cases hresult
  exact ⟨m, minimum, maximum, List.mem_filterMap.2 ⟨_, hlate, rfl⟩, .inl hkeyword⟩

theorem MemberOf.exists_contains {value : Value} {c : Node} (h : MemberOf setup means leads l members "contains" value c) :
    ∃ m minimum maximum, c = .contains (l.site (l.pointer.child "contains")) m minimum maximum ∧
      means (l.part (l.pointer.child "contains") value) m ∧ SizeUnder members "minContains" minimum ∧
      SizeUnder members "maxContains" maximum := by
  rcases h with ⟨m, minimum, maximum, hm, hmin, hmax, heq⟩ | ⟨hlate, -⟩
  · exact ⟨m, minimum, maximum, Option.some.inj heq, hm, hmin, hmax⟩
  · cases hlate

/-- The node of an object with `contains`, built from nodes of the registry, has one child for it.  The child asks the node
that is filed under the place of the keyword, and has the sizes beside it for bounds. -/
theorem contains_of_built {r : Registry} (h : Built setup r.Holds leads l n) (hvalue : l.value = .obj members)
    (hkept : l.isReplaced members = false) {S : Value} (hmem : (.str "contains", S) ∈ members) :
    ∃ (site : Site) (m : Node) (minimum maximum : Option Int),
      r.node? ⟨l.document.key, l.pointer.child "contains"⟩ = some m ∧
      SizeUnder members "minContains" minimum ∧ SizeUnder members "maxContains" maximum ∧
      ∀ c, c ∈ n.subnodes ∧ c.keyword? = some "contains" ↔ c = .contains site m minimum maximum := by
  rw [Built, hvalue] at h
  obtain ⟨-, inner, hinner, h⟩ := h
  rw [if_neg (by simp [hkept])] at h
  obtain ⟨_, _, children, -, -, hchildren, rfl⟩ := h
  have hplace (value : Value) : (inner.part (inner.pointer.child "contains") value).place =
      ⟨l.document.key, l.pointer.child "contains"⟩ := by
    rw [← hinner.document, ← hinner.pointer]
    rfl
  -- The member is compiled, so there is a child for the keyword.
  obtain ⟨m, minimum, maximum, hchild, hmember⟩ := hchildren.exists_contains hmem
  obtain ⟨_, _, _, heq, hm, hmin, hmax⟩ := hmember.exists_contains
  cases heq
  rw [Registry.Holds, hplace] at hm
  refine ⟨inner.site (inner.pointer.child "contains"), m, minimum, maximum, hm, hmin, hmax, fun c => ⟨?_, ?_⟩⟩
  · -- Keys need not differ: another child for the keyword asks the same place, and so the same node.
    rintro ⟨hc, hkeyword⟩
    obtain ⟨name, value, -, hmember'⟩ := member_of_children hchildren hc
    rcases hmember'.stands with ⟨hname, -⟩ | ⟨-, hname, -⟩
    · rw [hkeyword] at hname
      cases hname
      obtain ⟨m', minimum', maximum', rfl, hm', hmin', hmax'⟩ := hmember'.exists_contains
      rw [Registry.Holds, hplace, hm] at hm'
      cases hm'
      rw [hmin.unique hmin', hmax.unique hmax']
    · rw [hkeyword] at hname
      cases hname
  · rintro rfl
    exact ⟨hchild, rfl⟩

end Child

namespace Schema

/-- When a schema object outside draft 07 is compiled that has `contains` and has not been compiled before, its node has one
child for it.  In each form of evaluation the child accepts an array, all of whose items can be evaluated, exactly if the
number of items that the schema under `contains` accepts lies between the sizes beside it, of which the lower one is one if
it is not written, and is not zero.  Only where the number is beyond a size with too many digits to be written is there no
report. -/
theorem contains_counts {setup : Setup} {fuel : Nat} {l : Location} {members : List (Scalar × Value)} {S : Value}
    {s t : Session} {n : Node} (hvalue : l.value = .obj members) (hdialect : l.dialect ≠ some .draft07)
    (hmem : (.str "contains", S) ∈ members) (hnew : s.registry.find? l.place = none)
    (hcompile : (compile setup fuel l).run.run s = (.ok n, t)) :
    ∃ (site : Site) (m : Node) (minimum maximum : Option Int),
      t.registry.node? ⟨l.document.key, l.pointer.child "contains"⟩ = some m ∧
      SizeUnder members "minContains" minimum ∧ SizeUnder members "maxContains" maximum ∧
      (∀ c, c ∈ n.subnodes ∧ c.keyword? = some "contains" ↔ c = .contains site m minimum maximum) ∧
      ∀ (form : Form) (vs : List Value) (r loc : Pointer),
        (Returns (evaluate (.contains site m minimum maximum) form (.arr vs) r loc) ↔ (∀ v ∈ vs, Returns (m.accepts v)) ∧
          ∀ problem ∈ containsProblem? minimum maximum (m.acceptedAmong vs), problem.2.isWritable = true) ∧
        ∀ report, evaluate (.contains site m minimum maximum) form (.arr vs) r loc = .ok report →
          (report.valid = true ↔ 0 < m.acceptedAmong vs ∧ minimum.getD 1 ≤ m.acceptedAmong vs ∧
            ∀ bound, maximum = some bound → m.acceptedAmong vs ≤ bound) := by
  have hkept : l.isReplaced members = false := Location.isReplaced_eq_false fun _ h => (hdialect h).elim
  obtain ⟨site, m, minimum, maximum, hm, hmin, hmax, hchild⟩ :=
    contains_of_built (Registry.built_of_compile hnew hcompile) hvalue hkept hmem
  exact ⟨site, m, minimum, maximum, hm, hmin, hmax, hchild, fun form vs r loc =>
    ⟨returns_evaluate_contains_iff, fun _ => valid_of_evaluate_contains⟩⟩

/-- A schema for arrays with two or three texts. -/
def twoOrThreeTexts : Value :=
  .ofPairs [("contains", .ofPairs [("type", .str "string")]), ("minContains", .int 2),
    ("maxContains", .num (.dec (.finite false 30 (-1))))]

theorem contains_counts_twoOrThree : ∃ (n : Node) (t : Session) (site : Site) (m : Node),
    (compile { world := .ofTable [] } 2 ⟨⟨"http://x/a", none, twoOrThreeTexts⟩, twoOrThreeTexts, .root, none,
      none⟩).run.run {} = (.ok n, t) ∧
    .contains site m (some 2) (some 3) ∈ n.subnodes ∧
    ∀ form report, evaluate (.contains site m (some 2) (some 3)) form (.arr [.str "a", .int 0, .str "b"]) .root .root =
      .ok report → (report.valid = true ↔ 2 ≤ m.acceptedAmong [.str "a", .int 0, .str "b"] ∧
        m.acceptedAmong [.str "a", .int 0, .str "b"] ≤ 3) := by
  obtain ⟨n, t, hcompile, -⟩ := exists_of_endsWith (p := fun _ _ => true)
    (x := (compile { world := .ofTable [] } 2 ⟨⟨"http://x/a", none, twoOrThreeTexts⟩, twoOrThreeTexts, .root,
      none, none⟩).run.run {}) (by decide +kernel)
  obtain ⟨site, m, minimum, maximum, -, hmin, hmax, hchild, hcounts⟩ :=
    contains_counts rfl (by simp) (List.mem_cons_self ..) rfl hcompile
  obtain rfl : minimum = some 2 := hmin.unique ⟨.int 2, rfl, by decide⟩
  obtain rfl : maximum = some 3 := hmax.unique ⟨.num (.dec (.finite false 30 (-1))), rfl, by decide⟩
  refine ⟨n, t, site, m, hcompile, ((hchild _).2 rfl).1, fun form report hreport => ?_⟩
  rw [(hcounts form _ .root .root).2 report hreport]
  simp only [Option.getD_some, Option.some.injEq, forall_eq']
  omega

/-- The children are one that counts without bounds, and refuses an array with a number that its schema does not accept. -/
private def refusesUncounted : List Node → Bool
  | [.contains site m (some 0) none] => m.acceptedAmong [.int 1] == 0 &&
    [Form.flag, .basic, .detailed].all fun form =>
      (evaluate (.contains site m (some 0) none) form (.arr [.int 1]) .root .root).toOption.any (!·.valid)
  | _ => false

/-- Where no item need match, an array without a match is refused all the same. -/
theorem contains_of_none_wanted : ∃ (schema : Schema) (site : Site) (m : Node),
    ((compileText { world := .ofTable [] }
      r#"{"contains": {"type": "string"}, "minContains": 0}"# none).run.run {}).1 = .ok schema ∧
    schema.root.subnodes = [.contains site m (some 0) none] ∧ m.acceptedAmong [.int 1] = 0 ∧
    ∀ form, ∃ report, evaluate (.contains site m (some 0) none) form (.arr [.int 1]) .root .root = .ok report ∧
      report.valid = false := by
  obtain ⟨schema, hcompile, h⟩ := exists_eq_ok_of_any
    (x := ((compileText { world := .ofTable [] }
      r#"{"contains": {"type": "string"}, "minContains": 0}"# none).run.run {}).1)
    (p := fun schema => refusesUncounted schema.root.subnodes) (by decide +kernel)
  unfold refusesUncounted at h
  split at h
  · rename_i site m hsubnodes
    simp only [Bool.and_eq_true, beq_iff_eq, List.all_eq_true] at h
    refine ⟨schema, site, m, hcompile, hsubnodes, h.1, fun form => ?_⟩
    obtain ⟨report, hreport, hvalid⟩ := exists_eq_ok_of_any (h.2 form (by cases form <;> decide))
    exact ⟨report, hreport, by simpa using hvalid⟩
  · cases h

end Schema

end Conform
