import Conform.Proofs.Lists
import Conform.Proofs.Result
import Conform.Proofs.Schema.Tree
import Conform.Schema.Outcome

/-!
# Agreement of the forms of evaluation

`Node.accepts` stops as soon as its answer is decided, `Node.findings` puts the complaints of all children into one
list, and `Node.outcome` keeps them apart in a tree.  Where they have results, they give one verdict
(`Node.forms_agree`).  The invariant behind it is that findings say that a value is not valid just if they list
something (`Findings.Honest`): a failing child whose list were empty would be lost on the way up.
-/

namespace Conform

/-- The verdict of the findings is that of their list. -/
def Findings.Honest (f : Findings) : Prop := f.valid = f.entries.isEmpty

namespace Findings

theorem honest_accepted : accepted.Honest := rfl

theorem honest_ofEntries (entries : List Entry) : (ofEntries entries).Honest := by
  unfold ofEntries
  split
  · exact honest_accepted
  · simp_all [Honest, rejected]

@[simp] theorem valid_ofEntries (entries : List Entry) : (ofEntries entries).valid = entries.isEmpty := by
  unfold ofEntries
  split <;> simp_all [accepted, rejected]

theorem Honest.isEmpty_faults {f : Findings} (h : f.Honest) : f.faults.isEmpty = f.valid := by
  unfold faults
  cases hv : f.valid with
  | true => rfl
  | false =>
    unfold Honest at h
    rw [if_neg (by simp), ← h, hv]

end Findings

namespace Node

theorem honest_findingsOf (e : Option Entry) : (findingsOf e).Honest := by
  cases e <;> rfl

@[simp] theorem valid_findingsOf (e : Option Entry) : (findingsOf e).valid = e.isNone := by
  cases e <;> rfl

theorem honest_headed (n : Node) (r l : Pointer) (m : Message) (entries : List Entry) :
    (n.headed r l m entries).Honest := by
  unfold headed
  split <;> rfl

@[simp] theorem valid_headed (n : Node) (r l : Pointer) (m : Message) (entries : List Entry) :
    (n.headed r l m entries).valid = entries.isEmpty := by
  unfold headed
  split <;> simp_all [Findings.accepted, Findings.rejected]

@[simp] theorem isEmpty_additional (n : Node) (r l : Pointer) (m : Message) (f : Findings) :
    (n.additional r l m f).isEmpty = f.valid := by
  unfold additional
  split <;> simp_all

@[simp] theorem isEmpty_failing (o : Outcome) : (failing o).isEmpty = o.valid := by
  unfold failing
  split <;> simp_all

@[simp] theorem isEmpty_wrapped (n : Node) (r l : Pointer) (m : Message) (o : Outcome) :
    (n.wrapped r l m o).isEmpty = o.valid := by
  unfold wrapped
  split <;> simp_all

/-- All outcomes are failures. -/
def Failures (errors : List Outcome) : Prop := ∀ o ∈ errors, o.valid = false

theorem failures_nil : Failures [] := by simp [Failures]

theorem failures_append {a b : List Outcome} (ha : Failures a) (hb : Failures b) : Failures (a ++ b) := by
  intro o ho
  rcases List.mem_append.1 ho with h | h
  · exact ha o h
  · exact hb o h

theorem failures_failing (o : Outcome) : Failures (failing o) := by
  unfold failing
  split
  · exact failures_nil
  · simp_all [Failures]

theorem failures_wrapped (n : Node) (r l : Pointer) (m : Message) (o : Outcome) :
    Failures (n.wrapped r l m o) := by
  unfold wrapped
  split
  · exact failures_nil
  · simp [Failures, told]

/-- A single error stands for the collapse, and it is a failure. -/
theorem valid_collapse {n : Node} {r l : Pointer} {errors : List Outcome} {passed failed : Message}
    (h : Failures errors) : (n.collapse r l errors passed failed).valid = errors.isEmpty := by
  match errors with
  | [] => rfl
  | [o] => simpa [collapse] using h o
  | _ :: _ :: _ => rfl

@[simp] theorem valid_told (n : Node) (valid : Bool) (r l : Pointer) (m : Message) (es as : List Outcome) :
    (n.told valid r l m es as).valid = valid := rfl

@[simp] theorem valid_judged (n : Node) (r l : Pointer) (m : Option Message) :
    (n.judged r l m).valid = m.isNone := by
  cases m <;> rfl

/-! ### One node -/

/-- The forms of evaluation agree on a node, whatever the value and the locations. -/
structure Agrees (n : Node) : Prop where
  findings : ∀ {v r l f}, n.findings v r l = .ok f → f.Honest ∧ n.accepts v = .ok f.valid
  outcome : ∀ {v r l o}, n.outcome v r l = .ok o → n.accepts v = .ok o.valid

namespace Agrees

variable {n : Node} {v : Value} {r l : Pointer}

theorem of_faults (hn : n.Agrees) {es : List Entry} (h : (do return (← n.findings v r l).faults) = .ok es) :
    n.accepts v = .ok es.isEmpty := by
  simp only [bind_eq_ok, pure_eq_ok] at h
  obtain ⟨f, hf, rfl⟩ := h
  obtain ⟨hhonest, haccepts⟩ := hn.findings hf
  rw [hhonest.isEmpty_faults, haccepts]

theorem of_failing (hn : n.Agrees) {es : List Outcome} (h : (do return failing (← n.outcome v r l)) = .ok es) :
    n.accepts v = .ok es.isEmpty := by
  simp only [bind_eq_ok, pure_eq_ok] at h
  obtain ⟨o, ho, rfl⟩ := h
  rw [isEmpty_failing]
  exact hn.outcome ho

/-- A schema for additional parts puts an entry of its own before the complaints. -/
theorem of_additional (hn : n.Agrees) {own : Node} {m : Message} {es : List Entry}
    (h : (do return own.additional r l m (← n.findings v r l)) = .ok es) : n.accepts v = .ok es.isEmpty := by
  simp only [bind_eq_ok, pure_eq_ok] at h
  obtain ⟨f, hf, rfl⟩ := h
  rw [isEmpty_additional]
  exact (hn.findings hf).2

theorem of_wrapped (hn : n.Agrees) {own : Node} {m : Message} {es : List Outcome}
    (h : (do return own.wrapped r l m (← n.outcome v r l)) = .ok es) : n.accepts v = .ok es.isEmpty := by
  simp only [bind_eq_ok, pure_eq_ok] at h
  obtain ⟨o, ho, rfl⟩ := h
  rw [isEmpty_wrapped]
  exact hn.outcome ho

end Agrees

/-! ### Children in a list -/

section Lists

variable {β : Type} {ns : List Node} {v : Value}

/-- The nodes accept the value as the verdicts say, one by one. -/
def Verdicts (v : Value) (ns : List Node) (bs : List Bool) : Prop :=
  List.Forall₂ (fun n b => n.accepts v = .ok b) ns bs

theorem acceptsAll_of_verdicts {bs : List Bool} (h : Verdicts v ns bs) : acceptsAll ns v = .ok (bs.all id) := by
  induction h with
  | nil => rfl
  | @cons n b ns bs hb _ ih =>
    rw [acceptsAll, hb]
    cases b with
    | true => simpa [Bind.bind, Except.bind] using ih
    | false => rfl

theorem acceptsAny_of_verdicts {bs : List Bool} (h : Verdicts v ns bs) : acceptsAny ns v = .ok (bs.any id) := by
  induction h with
  | nil => rfl
  | @cons n b ns bs hb _ ih =>
    rw [acceptsAny, hb]
    cases b with
    | true => rfl
    | false => simpa [Bind.bind, Except.bind] using ih

/-- The first two acceptances decide, and otherwise all children are counted. -/
theorem acceptsOne_of_verdicts {bs : List Bool} (h : Verdicts v ns bs) (found : Bool) :
    acceptsOne found ns v = .ok ((if found then 1 else 0) + bs.countP id == 1) := by
  induction h generalizing found with
  | nil => cases found <;> rfl
  | @cons n b ns bs hb _ ih =>
    rw [acceptsOne, hb]
    cases b with
    | true =>
      cases found with
      | true => simp [Bind.bind, Except.bind, pure, Except.pure]
      | false => simp [Bind.bind, Except.bind, ih, Nat.add_comm]
    | false => simp [Bind.bind, Except.bind, ih]

/-- However a combination counts, it can be told from the number of children that accept. -/
theorem accepts_combine {bs : List Bool} (h : Verdicts v ns bs) (s : Site) (k : String) (c : Counting) :
    (combine s k c ns).accepts v = .ok (c.satisfied (bs.countP id) ns.length) := by
  have hlength : ns.length = bs.length := List.Forall₂.length_eq h
  cases c with
  | all =>
    rw [accepts, acceptsAll_of_verdicts h, hlength]
    congr 1
    rw [Counting.satisfied, Bool.eq_iff_iff]
    simp [List.countP_eq_length]
  | any =>
    rw [accepts, acceptsAny_of_verdicts h]
    congr 1
    rw [Counting.satisfied, Bool.eq_iff_iff]
    simp [List.countP_pos_iff]
  | one =>
    rw [accepts, acceptsOne_of_verdicts h]
    simp [Counting.satisfied]

theorem verdicts_findings (hns : ∀ n ∈ ns, Agrees n) {i : Nat} {r l : Pointer} {fs : List Findings}
    (h : findingsIndexed i ns v r l = .ok fs) : Verdicts v ns (fs.map (·.valid)) := by
  induction ns generalizing i fs with
  | nil =>
    cases h
    exact .nil
  | cons n ns ih =>
    simp only [findingsIndexed, bind_eq_ok, pure_eq_ok] at h
    obtain ⟨f, hf, rest, hrest, rfl⟩ := h
    exact .cons ((hns n (by simp)).findings hf).2 (ih (fun m hm => hns m (by simp [hm])) hrest)

theorem verdicts_outcomes (hns : ∀ n ∈ ns, Agrees n) {i : Nat} {r l : Pointer} {os : List Outcome}
    (h : outcomesIndexed i ns v r l = .ok os) : Verdicts v ns (os.map (·.valid)) := by
  induction ns generalizing i os with
  | nil =>
    cases h
    exact .nil
  | cons n ns ih =>
    simp only [outcomesIndexed, bind_eq_ok, pure_eq_ok] at h
    obtain ⟨o, ho, rest, hrest, rfl⟩ := h
    exact .cons ((hns n (by simp)).outcome ho) (ih (fun m hm => hns m (by simp [hm])) hrest)

/-- A group lists the complaints of its children, so it lists nothing just if all accept. -/
theorem acceptsAll_of_findings (hns : ∀ n ∈ ns, Agrees n) {r l : Pointer} {entries : List Entry}
    (h : findingsPlaced ns v r l = .ok entries) : acceptsAll ns v = .ok entries.isEmpty := by
  induction ns generalizing entries with
  | nil =>
    cases h
    rfl
  | cons n ns ih =>
    simp only [findingsPlaced, bind_eq_ok, pure_eq_ok] at h
    obtain ⟨f, hf, rest, hrest, rfl⟩ := h
    obtain ⟨hhonest, haccepts⟩ := (hns n (by simp)).findings hf
    have hall := ih (fun m hm => hns m (by simp [hm])) hrest
    rw [acceptsAll, haccepts, hall, isEmpty_append, hhonest.isEmpty_faults]
    cases f.valid <;> rfl

theorem acceptsAll_of_outcomes (hns : ∀ n ∈ ns, Agrees n) {r l : Pointer} {errors : List Outcome}
    (h : failuresPlaced ns v r l = .ok errors) :
    acceptsAll ns v = .ok errors.isEmpty ∧ Failures errors := by
  induction ns generalizing errors with
  | nil =>
    cases h
    exact ⟨rfl, failures_nil⟩
  | cons n ns ih =>
    simp only [failuresPlaced, bind_eq_ok, pure_eq_ok] at h
    obtain ⟨o, ho, rest, hrest, rfl⟩ := h
    obtain ⟨hall, hfail⟩ := ih (fun m hm => hns m (by simp [hm])) hrest
    refine ⟨?_, failures_append (failures_failing o) hfail⟩
    rw [acceptsAll, (hns n (by simp)).outcome ho, hall, isEmpty_append, isEmpty_failing]
    cases o.valid <;> rfl

theorem acceptsTuple_of_findings (hns : ∀ n ∈ ns, Agrees n) {vs : List Value} {i : Nat} {r l : Pointer}
    {entries : List Entry} (h : findingsTuple i ns vs r l = .ok entries) :
    acceptsTuple ns vs = .ok entries.isEmpty := by
  induction ns generalizing vs i entries with
  | nil =>
    cases h
    rfl
  | cons n ns ih =>
    cases vs with
    | nil =>
      cases h
      rfl
    | cons w vs =>
      simp only [findingsTuple, bind_eq_ok, pure_eq_ok] at h
      obtain ⟨f, hf, rest, hrest, rfl⟩ := h
      obtain ⟨hhonest, haccepts⟩ := (hns n (by simp)).findings hf
      have hall := ih (fun m hm => hns m (by simp [hm])) hrest
      rw [acceptsTuple, haccepts, hall, isEmpty_append, hhonest.isEmpty_faults]
      cases f.valid <;> rfl

theorem acceptsTuple_of_outcomes (hns : ∀ n ∈ ns, Agrees n) {vs : List Value} {i : Nat} {r l : Pointer}
    {errors : List Outcome} (h : failuresTuple i ns vs r l = .ok errors) :
    acceptsTuple ns vs = .ok errors.isEmpty ∧ Failures errors := by
  induction ns generalizing vs i errors with
  | nil =>
    cases h
    exact ⟨rfl, failures_nil⟩
  | cons n ns ih =>
    cases vs with
    | nil =>
      cases h
      exact ⟨rfl, failures_nil⟩
    | cons w vs =>
      simp only [failuresTuple, bind_eq_ok, pure_eq_ok] at h
      obtain ⟨o, ho, rest, hrest, rfl⟩ := h
      obtain ⟨hall, hfail⟩ := ih (fun m hm => hns m (by simp [hm])) hrest
      refine ⟨?_, failures_append (failures_failing o) hfail⟩
      rw [acceptsTuple, (hns n (by simp)).outcome ho, hall, isEmpty_append, isEmpty_failing]
      cases o.valid <;> rfl

end Lists

/-! ### Members and items -/

section Parts

variable {α β : Type} {test : α → Except EvalError Bool}

/-- A test holds of all elements just if nothing is collected about them. -/
theorem allOk_of_collect {f : Nat → α → Except EvalError (List β)} {as : List α} {i : Nat} {bs : List β}
    (hf : ∀ a ∈ as, ∀ i es, f i a = .ok es → test a = .ok es.isEmpty) (h : collect f i as = .ok bs) :
    allOk test as = .ok bs.isEmpty := by
  induction as generalizing i bs with
  | nil =>
    cases h
    rfl
  | cons a as ih =>
    simp only [collect, bind_eq_ok, pure_eq_ok] at h
    obtain ⟨es, hes, rest, hrest, rfl⟩ := h
    have hall := ih (fun b hb => hf b (by simp [hb])) hrest
    rw [allOk, hf a (by simp) i es hes, hall, isEmpty_append]
    cases es.isEmpty <;> rfl

theorem failures_collect {f : Nat → α → Except EvalError (List Outcome)} {as : List α} {i : Nat}
    {errors : List Outcome} (hf : ∀ a i es, f i a = .ok es → Failures es) (h : collect f i as = .ok errors) :
    Failures errors := by
  induction as generalizing i errors with
  | nil =>
    cases h
    exact failures_nil
  | cons a as ih =>
    simp only [collect, bind_eq_ok, pure_eq_ok] at h
    obtain ⟨es, hes, rest, hrest, rfl⟩ := h
    exact failures_append (hf a i es hes) (ih hrest)

variable {ms : List (Scalar × Value)}

theorem acceptsEntries_of_findings {entries : List (Scalar × Node)} (hns : ∀ e ∈ entries, Agrees e.2)
    {r l : Pointer} {found : List Entry} (h : findingsEntries entries ms r l = .ok found) :
    acceptsEntries entries ms = .ok found.isEmpty := by
  induction entries generalizing found with
  | nil =>
    cases h
    rfl
  | cons e entries ih =>
    obtain ⟨key, n⟩ := e
    have hrest := fun m hm => hns m (List.mem_cons_of_mem _ hm)
    cases hk : lookupKey key ms with
    | none =>
      simp only [acceptsEntries, findingsEntries, hk] at h ⊢
      exact ih hrest h
    | some v =>
      simp only [findingsEntries, hk, bind_eq_ok, pure_eq_ok] at h
      obtain ⟨f, hf, others, hothers, rfl⟩ := h
      obtain ⟨hhonest, haccepts⟩ := (hns (key, n) (by simp)).findings hf
      simp only [acceptsEntries, hk]
      rw [haccepts, ih hrest hothers, isEmpty_append, hhonest.isEmpty_faults]
      cases f.valid <;> rfl

theorem acceptsEntries_of_outcomes {entries : List (Scalar × Node)} (hns : ∀ e ∈ entries, Agrees e.2)
    {r l : Pointer} {errors : List Outcome} (h : failuresEntries entries ms r l = .ok errors) :
    acceptsEntries entries ms = .ok errors.isEmpty ∧ Failures errors := by
  induction entries generalizing errors with
  | nil =>
    cases h
    exact ⟨rfl, failures_nil⟩
  | cons e entries ih =>
    obtain ⟨key, n⟩ := e
    have hrest := fun m hm => hns m (List.mem_cons_of_mem _ hm)
    cases hk : lookupKey key ms with
    | none =>
      simp only [acceptsEntries, failuresEntries, hk] at h ⊢
      exact ih hrest h
    | some v =>
      simp only [failuresEntries, hk, bind_eq_ok, pure_eq_ok] at h
      obtain ⟨o, ho, others, hothers, rfl⟩ := h
      obtain ⟨hall, hfail⟩ := ih hrest hothers
      refine ⟨?_, failures_append (failures_failing o) hfail⟩
      simp only [acceptsEntries, hk]
      rw [(hns (key, n) (by simp)).outcome ho, hall, isEmpty_append, isEmpty_failing]
      cases o.valid <;> rfl

/-- A part that is passed over is passed over in all forms. -/
theorem accepts_if {c : Except EvalError Bool} {x : Except EvalError (List β)} {y : Except EvalError Bool}
    (hx : ∀ es, x = .ok es → y = .ok es.isEmpty) {es : List β} (h : (do if ← c then x else return []) = .ok es) :
    (do if ← c then y else return true) = .ok es.isEmpty := by
  simp only [bind_eq_ok] at h
  obtain ⟨b, rfl, h⟩ := h
  cases b with
  | true => exact hx es h
  | false =>
    cases h
    rfl

theorem failures_if {c : Except EvalError Bool} {x : Except EvalError (List Outcome)}
    (hx : ∀ es, x = .ok es → Failures es) {es : List Outcome} (h : (do if ← c then x else return []) = .ok es) :
    Failures es := by
  simp only [bind_eq_ok] at h
  obtain ⟨b, rfl, h⟩ := h
  cases b with
  | true => exact hx es h
  | false =>
    cases h
    exact failures_nil

theorem failures_of_failing {x : Except EvalError Outcome} {es : List Outcome}
    (h : (do return failing (← x)) = .ok es) : Failures es := by
  simp only [bind_eq_ok, pure_eq_ok] at h
  obtain ⟨o, -, rfl⟩ := h
  exact failures_failing o

theorem failures_of_wrapped {n : Node} {r l : Pointer} {m : Message} {x : Except EvalError Outcome}
    {es : List Outcome} (h : (do return n.wrapped r l m (← x)) = .ok es) : Failures es := by
  simp only [bind_eq_ok, pure_eq_ok] at h
  obtain ⟨o, -, rfl⟩ := h
  exact failures_wrapped n r l m o

theorem acceptsMatches_of_findings {entries : List (Regex × Node)} (hns : ∀ e ∈ entries, Agrees e.2)
    {r l : Pointer} {found : List Entry} (h : findingsMatches entries ms r l = .ok found) :
    acceptsMatches entries ms = .ok found.isEmpty := by
  induction entries generalizing found with
  | nil =>
    cases h
    rfl
  | cons e entries ih =>
    obtain ⟨regex, n⟩ := e
    have hn : Agrees n := hns (regex, n) (by simp)
    simp only [findingsMatches, bind_eq_ok (f := fun _ => _), pure_eq_ok] at h
    obtain ⟨here, hhere, others, hothers, rfl⟩ := h
    have hall := allOk_of_collect (fun _ _ _ _ hm => accepts_if (fun _ => hn.of_faults) hm) hhere
    rw [acceptsMatches, hall, ih (fun m hm => hns m (List.mem_cons_of_mem _ hm)) hothers, isEmpty_append]
    cases here.isEmpty <;> rfl

theorem acceptsMatches_of_outcomes {entries : List (Regex × Node)} (hns : ∀ e ∈ entries, Agrees e.2)
    {r l : Pointer} {errors : List Outcome} (h : failuresMatches entries ms r l = .ok errors) :
    acceptsMatches entries ms = .ok errors.isEmpty ∧ Failures errors := by
  induction entries generalizing errors with
  | nil =>
    cases h
    exact ⟨rfl, failures_nil⟩
  | cons e entries ih =>
    obtain ⟨regex, n⟩ := e
    have hn : Agrees n := hns (regex, n) (by simp)
    simp only [failuresMatches, bind_eq_ok (f := fun _ => _), pure_eq_ok] at h
    obtain ⟨here, hhere, others, hothers, rfl⟩ := h
    have hhead := allOk_of_collect (fun _ _ _ _ hm => accepts_if (fun _ => hn.of_failing) hm) hhere
    have hfailures := failures_collect (fun _ _ _ hm => failures_if (fun _ => failures_of_failing) hm) hhere
    obtain ⟨hall, hfail⟩ := ih (fun m hm => hns m (List.mem_cons_of_mem _ hm)) hothers
    refine ⟨?_, failures_append hfailures hfail⟩
    rw [acceptsMatches, hhead, hall, isEmpty_append]
    cases here.isEmpty <;> rfl

/-- The names that a required keyword misses are those that the object does not have. -/
theorem all_of_collect {f : Nat → α → List β} {p : α → Bool} (hf : ∀ i a, (f i a).isEmpty = p a) {as : List α}
    {i : Nat} {bs : List β} (h : collect (fun i a => .ok (f i a)) i as = .ok bs) : as.all p = bs.isEmpty := by
  induction as generalizing i bs with
  | nil =>
    cases h
    rfl
  | cons a as ih =>
    simp only [collect, bind_eq_ok, pure_eq_ok] at h
    obtain ⟨es, hes, rest, hrest, rfl⟩ := h
    cases hes
    rw [List.all_cons, ih hrest, isEmpty_append, hf]

end Parts

/-! ### A whole tree -/

/-- Findings that only list what is said of the parts are honest, and as good as the test of the parts. -/
theorem findings_ofEntries {x : Except EvalError (List Entry)} {y : Except EvalError Bool} {f : Findings}
    (hx : ∀ es, x = .ok es → y = .ok es.isEmpty) (hf : x.map Findings.ofEntries = .ok f) :
    f.Honest ∧ y = .ok f.valid := by
  obtain ⟨es, hes, rfl⟩ := map_eq_ok.1 hf
  exact ⟨Findings.honest_ofEntries es, by rw [Findings.valid_ofEntries, hx es hes]⟩

theorem findings_agree {n : Node} (h : ∀ c ∈ n.subnodes, c.Agrees) {v : Value} {r l : Pointer} {f : Findings}
    (hf : n.findings v r l = .ok f) : f.Honest ∧ n.accepts v = .ok f.valid := by
  cases n, v using cases_applied with
  | passing n v hpass =>
    rw [findings_of_passesOver hpass] at hf
    cases hf
    exact ⟨Findings.honest_accepted, accepts_of_passesOver hpass⟩
  | constant s allows =>
    cases hf
    exact ⟨honest_findingsOf _, by cases allows <;> rfl⟩
  | not s child =>
    simp only [findings, bind_eq_ok, pure_eq_ok] at hf
    obtain ⟨g, hg, rfl⟩ := hf
    refine ⟨honest_findingsOf _, ?_⟩
    rw [accepts, ((h child (by simp [subnodes])).findings hg).2]
    cases hv : g.valid <;> simp [Except.map]
  | combine s k c ns =>
    simp only [findings, bind_eq_ok] at hf
    obtain ⟨fs, hfs, hf⟩ := hf
    have hns : ∀ m ∈ ns, m.Agrees := h
    have hcount := accepts_combine (verdicts_findings hns hfs) s k c
    rw [List.countP_map, Function.id_comp] at hcount
    rw [hcount]
    split at hf
    · cases hf
      exact ⟨Findings.honest_accepted, by simp_all [Findings.accepted]⟩
    · cases hf
      exact ⟨rfl, by simp_all [Findings.rejected]⟩
  | group s ns title description dialect =>
    simp only [findings, bind_eq_ok, pure_eq_ok] at hf
    obtain ⟨es, hes, rfl⟩ := hf
    have hns : ∀ m ∈ ns, m.Agrees := h
    exact ⟨honest_headed .., by rw [accepts, valid_headed, acceptsAll_of_findings hns hes]⟩
  | conditional s condition thenBranch elseBranch =>
    simp only [findings, bind_eq_ok] at hf
    obtain ⟨b, hb, hf⟩ := hf
    rw [accepts, hb]
    cases b with
    | true =>
      cases thenBranch with
      | none =>
        cases hf
        exact ⟨Findings.honest_accepted, rfl⟩
      | some m => exact (h m (by simp [subnodes])).findings hf
    | false =>
      cases elseBranch with
      | none =>
        cases hf
        exact ⟨Findings.honest_accepted, rfl⟩
      | some m => exact (h m (by simp [subnodes])).findings hf
  | reference s target fragment => exact (h target (by simp [subnodes])).findings hf
  | delegating s key inner => exact (h inner (by simp [subnodes])).findings hf
  | bare s => cases hf
  | leaf s c =>
    simp only [findings, bind_eq_ok, pure_eq_ok] at hf
    obtain ⟨m, hm, rfl⟩ := hf
    refine ⟨honest_findingsOf _, ?_⟩
    rw [accepts, hm]
    cases m <;> rfl
  | delegatedFormat s name checker ns =>
    simp only [findings, bind_eq_ok, pure_eq_ok] at hf
    obtain ⟨b, hb, m, hm, rfl⟩ := hf
    refine ⟨honest_findingsOf _, ?_⟩
    simp only [accepts, hb, valid_findingsOf, Option.isNone_map]
    exact bind_eq_ok.2 ⟨b, rfl, bind_eq_ok.2 ⟨m, hm, rfl⟩⟩
  | properties s entries ms =>
    have hns : ∀ e ∈ entries, e.2.Agrees := fun e he => h e.2 (List.mem_map_of_mem he)
    exact findings_ofEntries (fun _ => acceptsEntries_of_findings hns) hf
  | patternProperties s entries ms =>
    have hns : ∀ e ∈ entries, e.2.Agrees := fun e he => h e.2 (List.mem_map_of_mem he)
    exact findings_ofEntries (fun _ => acceptsMatches_of_findings hns) hf
  | additionalProperties s schema names patterns ms =>
    have hn : schema.Agrees := h schema (by simp [subnodes])
    exact findings_ofEntries (fun _ => allOk_of_collect fun _ _ _ _ =>
      accepts_if fun _ => hn.of_additional) hf
  | propertyNames s schema ms =>
    have hn : schema.Agrees := h schema (by simp [subnodes])
    exact findings_ofEntries (fun _ => allOk_of_collect fun _ _ _ _ => hn.of_faults) hf
  | required s names ms =>
    refine findings_ofEntries (fun es hes => ?_) hf
    rw [accepts, all_of_collect (fun i name => ?_) hes]
    split <;> simp_all
  | items s schema vs =>
    have hn : schema.Agrees := h schema (by simp [subnodes])
    exact findings_ofEntries (fun _ => allOk_of_collect fun _ _ _ _ => hn.of_faults) hf
  | itemsTuple s schemas vs =>
    have hns : ∀ m ∈ schemas, m.Agrees := h
    exact findings_ofEntries (fun _ => acceptsTuple_of_findings hns) hf
  | additionalItems s schema size applies vs =>
    have hn : schema.Agrees := h schema (by simp [subnodes])
    exact findings_ofEntries (fun _ => allOk_of_collect fun _ _ _ _ => hn.of_additional) hf
  | contains s schema minimum maximum vs =>
    simp only [findings, bind_eq_ok, pure_eq_ok] at hf
    obtain ⟨count, hcount, problem, hproblem, rfl⟩ := hf
    refine ⟨honest_findingsOf _, ?_⟩
    simp only [accepts, hcount, valid_findingsOf, Option.isNone_map]
    exact bind_eq_ok.2 ⟨count, rfl, bind_eq_ok.2 ⟨problem, hproblem, rfl⟩⟩

/-- The collapse of the failures of the parts has the verdict of the test of the parts. -/
theorem outcome_collapse {n : Node} {x : Except EvalError (List Outcome)} {y : Except EvalError Bool}
    {r l : Pointer} {passed failed : Message} {o : Outcome}
    (hx : ∀ es, x = .ok es → y = .ok es.isEmpty ∧ Failures es)
    (ho : (do return n.collapse r l (← x) passed failed) = .ok o) : y = .ok o.valid := by
  simp only [bind_eq_ok, pure_eq_ok] at ho
  obtain ⟨es, hes, rfl⟩ := ho
  obtain ⟨hy, hfail⟩ := hx es hes
  rw [valid_collapse hfail, hy]

theorem outcome_agree {n : Node} (h : ∀ c ∈ n.subnodes, c.Agrees) {v : Value} {r l : Pointer} {o : Outcome}
    (ho : n.outcome v r l = .ok o) : n.accepts v = .ok o.valid := by
  cases n, v using cases_applied with
  | passing n v hpass =>
    obtain ⟨m, hm⟩ := outcome_of_passesOver hpass
    rw [hm] at ho
    cases ho
    exact accepts_of_passesOver hpass
  | constant s allows =>
    cases ho
    rfl
  | not s child =>
    simp only [outcome, bind_eq_ok, pure_eq_ok] at ho
    obtain ⟨p, hp, rfl⟩ := ho
    rw [accepts, (h child (by simp [subnodes])).outcome hp]
    cases hv : p.valid <;> simp [Except.map]
  | combine s k c ns =>
    simp only [outcome, bind_eq_ok, pure_eq_ok] at ho
    obtain ⟨os, hos, rfl⟩ := ho
    have hns : ∀ m ∈ ns, m.Agrees := h
    have hcount := accepts_combine (verdicts_outcomes hns hos) s k c
    rw [List.countP_map, Function.id_comp, List.countP_eq_length_filter] at hcount
    rw [hcount, valid_told, List.partition_eq_filter_filter]
  | group s ns title description dialect =>
    have hns : ∀ m ∈ ns, m.Agrees := h
    exact outcome_collapse (fun _ => acceptsAll_of_outcomes hns) ho
  | conditional s condition thenBranch elseBranch =>
    simp only [outcome, bind_eq_ok] at ho
    obtain ⟨tested, htested, ho⟩ := ho
    rw [accepts, (h condition (by simp [subnodes])).outcome htested]
    cases hv : tested.valid with
    | true =>
      simp only [hv, ↓reduceIte, bind_eq_ok, pure_eq_ok] at ho
      obtain ⟨branch, hbranch, rfl⟩ := ho
      cases thenBranch with
      | none =>
        cases hbranch
        rfl
      | some m =>
        obtain ⟨p, hp, rfl⟩ := map_eq_ok.1 hbranch
        have hm := (h m (by simp [subnodes])).outcome hp
        cases hpv : p.valid <;> simpa [hpv, Bind.bind, Except.bind, acceptsBranch] using hm
    | false =>
      simp only [hv, ↓reduceIte, Bool.false_eq_true, bind_eq_ok, pure_eq_ok] at ho
      obtain ⟨branch, hbranch, rfl⟩ := ho
      cases elseBranch with
      | none =>
        cases hbranch
        rfl
      | some m =>
        obtain ⟨p, hp, rfl⟩ := map_eq_ok.1 hbranch
        have hm := (h m (by simp [subnodes])).outcome hp
        cases hpv : p.valid <;> simpa [hpv, Bind.bind, Except.bind, acceptsBranch] using hm
  | reference s target fragment =>
    simp only [outcome, bind_eq_ok, pure_eq_ok] at ho
    obtain ⟨p, hp, rfl⟩ := ho
    rw [accepts, valid_told, (h target (by simp [subnodes])).outcome hp]
  | delegating s key inner => exact (h inner (by simp [subnodes])).outcome ho
  | bare s => cases ho
  | leaf s c =>
    simp only [outcome, bind_eq_ok, pure_eq_ok] at ho
    obtain ⟨m, hm, rfl⟩ := ho
    rw [accepts, hm, valid_judged]
    rfl
  | delegatedFormat s name checker ns =>
    simp only [outcome, bind_eq_ok, pure_eq_ok] at ho
    obtain ⟨b, hb, m, hm, rfl⟩ := ho
    simp only [accepts, hb, valid_judged]
    exact bind_eq_ok.2 ⟨b, rfl, bind_eq_ok.2 ⟨m, hm, rfl⟩⟩
  | properties s entries ms =>
    have hns : ∀ e ∈ entries, e.2.Agrees := fun e he => h e.2 (List.mem_map_of_mem he)
    exact outcome_collapse (fun _ => acceptsEntries_of_outcomes hns) ho
  | patternProperties s entries ms =>
    have hns : ∀ e ∈ entries, e.2.Agrees := fun e he => h e.2 (List.mem_map_of_mem he)
    exact outcome_collapse (fun _ => acceptsMatches_of_outcomes hns) ho
  | additionalProperties s schema names patterns ms =>
    have hn : schema.Agrees := h schema (by simp [subnodes])
    exact outcome_collapse (fun _ hes =>
      ⟨allOk_of_collect (fun _ _ _ _ => accepts_if fun _ => hn.of_wrapped) hes,
        failures_collect (fun _ _ _ => failures_if fun _ => failures_of_wrapped) hes⟩) ho
  | propertyNames s schema ms =>
    have hn : schema.Agrees := h schema (by simp [subnodes])
    exact outcome_collapse (fun _ hes =>
      ⟨allOk_of_collect (fun _ _ _ _ => hn.of_failing) hes,
        failures_collect (fun _ _ _ => failures_of_failing) hes⟩) ho
  | required s names ms =>
    refine outcome_collapse (fun es hes => ⟨?_, failures_collect (fun i name es hes => ?_) hes⟩) ho
    · rw [accepts, all_of_collect (fun i name => ?_) hes]
      split <;> simp_all
    · cases hes
      split
      · exact failures_nil
      · simp [Failures]
  | items s schema vs =>
    have hn : schema.Agrees := h schema (by simp [subnodes])
    exact outcome_collapse (fun _ hes =>
      ⟨allOk_of_collect (fun _ _ _ _ => hn.of_failing) hes,
        failures_collect (fun _ _ _ => failures_of_failing) hes⟩) ho
  | itemsTuple s schemas vs =>
    have hns : ∀ m ∈ schemas, m.Agrees := h
    exact outcome_collapse (fun _ => acceptsTuple_of_outcomes hns) ho
  | additionalItems s schema size applies vs =>
    have hn : schema.Agrees := h schema (by simp [subnodes])
    exact outcome_collapse (fun _ hes =>
      ⟨allOk_of_collect (fun _ _ _ _ => hn.of_wrapped) hes,
        failures_collect (fun _ _ _ => failures_of_wrapped) hes⟩) ho
  | contains s schema minimum maximum vs =>
    simp only [outcome, bind_eq_ok, pure_eq_ok] at ho
    obtain ⟨count, hcount, problem, hproblem, rfl⟩ := ho
    simp only [accepts, hcount, valid_judged, Option.isNone_map]
    exact bind_eq_ok.2 ⟨count, rfl, bind_eq_ok.2 ⟨problem, hproblem, rfl⟩⟩

theorem agrees (n : Node) : n.Agrees :=
  n.induction fun _ h => ⟨findings_agree h, outcome_agree h⟩

/-- Whatever the tree, the value and the locations, the three forms of evaluation give one verdict where they have
results. -/
theorem forms_agree (n : Node) (v : Value) {r l r' l' : Pointer} {b : Bool} {f : Findings} {o : Outcome}
    (hb : n.accepts v = .ok b) (hf : n.findings v r l = .ok f) (ho : n.outcome v r' l' = .ok o) :
    b = f.valid ∧ f.valid = o.valid := by
  have hfindings := ((agrees n).findings hf).2
  have houtcome := (agrees n).outcome ho
  rw [hb, Except.ok.injEq] at hfindings houtcome
  exact ⟨hfindings, hfindings.symm.trans houtcome⟩

/-- Of two failing keywords the first decides `accepts`, both are listed, and the outcome puts them together. -/
theorem forms_agree_two_failures :
    let n : Node := .group {} [.leaf {} (.type ["string"]), .not {} (.constant {} true)] none none none
    ∃ f o, n.findings .null .root .root = .ok f ∧ n.outcome .null .root .root = .ok o ∧
      f.entries.length = 3 ∧ o.errors.length = 2 ∧ false = f.valid ∧ f.valid = o.valid := by
  intro n
  exact ⟨_, _, rfl, rfl, rfl, rfl, forms_agree n .null (r := .root) (l := .root) rfl rfl rfl⟩

end Node

end Conform
