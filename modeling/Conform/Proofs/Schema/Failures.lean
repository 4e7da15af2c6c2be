import Conform.Proofs.Schema.Agreement
import Conform.Proofs.Schema.Collect
import Conform.Proofs.Schema.Words

/-!
# The failures that two forms of evaluation report

`Node.findings` puts all that is wrong into one list, where an entry that only heads the entries of a schema object
(`Message.heads`) stands before them.  `Node.outcome` keeps a tree, where a node with several failing children, and
some nodes with one, only wrap them (`Message.wraps`).  Without the headings and without the wrappers both report the
same failures in the same order, wherever both have a result (`Node.failures_agree`).

The two are compared list by list: what the findings of some parts add to the list, and the failing outcomes of the
same parts (`Told`).  Every node puts such lists together, wraps them or adds a failure of its own in front.
-/

namespace Conform

namespace Message

/-- The message says no more than that the entries after it are wrong. -/
def heads (m : Message) : Bool := m.text == "A subschema had errors"

/-- The texts that say no more than that something below is wrong. -/
def wrapperTexts : List String :=
  ["A subschema had errors", "$ref schema invalid", "Errors in properties", "Errors in patternProperties",
    "Errors in property names", "Errors in array items", "Errors in items", "Required property error"]

/-- The message says no more than that something below is wrong. -/
def wraps (m : Message) : Bool := wrapperTexts.contains m.text

/-- The message is about a number of items that is bounded by a keyword beside `contains`. -/
def isAboutCount : Message → Bool
  | containsFew .. | containsMany .. => true
  | _ => false

theorem heads_of_wraps_eq_false {m : Message} (h : m.wraps = false) : m.heads = false := by
  unfold wraps wrapperTexts at h
  rw [List.contains_cons, Bool.or_eq_false_iff] at h
  exact h.1

/-- The text goes on after the words. -/
def Opens (start text : String) : Prop := start.toList <+: text.toList

theorem opens_self (start : String) : Opens start start := List.prefix_rfl

theorem Opens.append {start text : String} (h : Opens start text) (rest : String) : Opens start (text ++ rest) := by
  rw [Opens, String.toList_append]
  exact h.trans (List.prefix_append _ _)

/-- A text that starts with words that no wrapper starts with is no wrapper's. -/
theorem wraps_eq_false {m : Message} {start : String} (htext : Opens start m.text)
    (hstart : ∀ w ∈ wrapperTexts, ¬ start.toList <+: w.toList) : m.wraps = false := by
  rw [wraps, List.contains_eq_mem, decide_eq_false_iff_not]
  exact fun hmem => hstart m.text hmem htext

/-- The message tells of a failure of the node that says it, not of failures of its parts. -/
def tellsOwn : Message → Bool
  | constantSchema _ | notSchema _ | combination .. | additionalProperty _ | additionalItem _ | missingProperty _
  | containsNone | containsFew .. | containsMany .. | wrongType _ | notInEnum _ | notConstant _ | limit ..
  | size .. | pattern .. | format .. | notUnique => true
  | success | subschemaErrors | condition _ | reference _ | notObject | notArray | properties _
  | patternProperties _ | additionalProperties _ | propertyNames _ | required _ | items _
  | additionalItems _ => false

/-- No name, value or pattern that is put into a message turns its text into that of a wrapper. -/
theorem wraps_of_tellsOwn {m : Message} (h : m.tellsOwn = true) : m.wraps = false := by
  cases m with
  | constantSchema allows => cases allows <;> decide
  | notSchema valid => cases valid <;> decide
  | containsNone | notUnique => decide
  | combination keyword valid accepted total =>
    have hverdict := (((opens_self "Combination schema \"").append keyword).append "\" ").append (verdict valid)
    have hcount := ((hverdict.append " - ").append (toString accepted)).append " of "
    exact wraps_eq_false ((hcount.append (toString total)).append " valid") (by decide +kernel)
  | additionalProperty =>
    exact wraps_eq_false (((opens_self "Additional property '").append _).append _) (by decide +kernel)
  | additionalItem => exact wraps_eq_false (((opens_self "Additional item ").append _).append _) (by decide +kernel)
  | missingProperty => exact wraps_eq_false (((opens_self "Required property \"").append _).append _) (by decide +kernel)
  | containsFew =>
    exact wraps_eq_false ((((opens_self "Matching entry minimum ").append _).append _).append _) (by decide +kernel)
  | containsMany =>
    exact wraps_eq_false ((((opens_self "Matching entry maximum ").append _).append _).append _) (by decide +kernel)
  | wrongType => exact wraps_eq_false ((opens_self "Incorrect type, expected ").append _) (by decide +kernel)
  | notInEnum => exact wraps_eq_false ((opens_self "Not in enumerated values: ").append _) (by decide +kernel)
  | notConstant => exact wraps_eq_false ((opens_self "Does not match constant: ").append _) (by decide +kernel)
  | limit keyword bound value =>
    have hbound := (((opens_self "Number fails check: ").append keyword).append " ").append bound.text
    exact wraps_eq_false ((hbound.append ", was ").append value.text) (by decide +kernel)
  | size sized keyword bound count =>
    have hbound := (((opens_self (sizeCheck sized)).append keyword).append " ").append (toString bound)
    refine wraps_eq_false ((hbound.append ", was ").append (toString count)) ?_
    cases sized <;> decide +kernel
  | pattern =>
    exact wraps_eq_false ((((opens_self "String doesn't match pattern ").append _).append _).append _)
      (by decide +kernel)
  | format =>
    exact wraps_eq_false ((((opens_self "Value fails format check \"").append _).append _).append _)
      (by decide +kernel)
  | success | subschemaErrors | condition | reference | notObject | notArray | properties | patternProperties
  | additionalProperties | propertyNames | required | items | additionalItems => cases h

theorem heads_of_tellsOwn {m : Message} (h : m.tellsOwn = true) : m.heads = false :=
  heads_of_wraps_eq_false (wraps_of_tellsOwn h)

/-- A constraint has these messages only. -/
def isOfConstraint : Message → Bool
  | wrongType _ | notInEnum _ | notConstant _ | limit .. | size .. | pattern .. | format .. | notUnique => true
  | _ => false

theorem tellsOwn_of_isOfConstraint {m : Message} (h : m.isOfConstraint = true) : m.tellsOwn = true := by
  cases m <;> first | rfl | cases h

theorem isOfConstraint_of_refusal? {c : Constraint} {v : Value} {m : Message} (h : c.refusal? v = .ok (some m)) :
    m.isOfConstraint = true := by
  have hfailing : ∀ {ok : Bool} {t : Message}, Constraint.failing ok t = some m → t.isOfConstraint = true →
      m.isOfConstraint = true := by
    intro ok t ht hown
    cases ok with
    | true => cases ht
    | false =>
      cases ht
      exact hown
  cases c with
  | type names =>
    obtain ⟨ok, -, ht⟩ := map_eq_ok.1 h
    exact hfailing ht rfl
  | enum values =>
    obtain ⟨ok, -, ht⟩ := map_eq_ok.1 h
    exact hfailing ht rfl
  | const value =>
    obtain ⟨ok, -, ht⟩ := map_eq_ok.1 h
    exact hfailing ht rfl
  | limit keyword relation bound =>
    unfold Constraint.refusal? at h
    dsimp only at h
    split at h
    · split at h
      · split at h
        · exact hfailing (Except.ok.inj h) rfl
        · cases h
      · cases h
        rfl
    · cases h
  | size sized keyword lower bound =>
    unfold Constraint.refusal? at h
    dsimp only at h
    split at h
    · exact hfailing (Except.ok.inj h) rfl
    · cases h
  | pattern regex =>
    unfold Constraint.refusal? at h
    dsimp only at h
    split at h
    · exact hfailing (Except.ok.inj h) rfl
    · cases h
  | format name standard =>
    unfold Constraint.refusal? at h
    dsimp only at h
    split at h
    · exact hfailing (Except.ok.inj h) rfl
    · cases h
  | checked name checker check =>
    obtain ⟨ok, -, ht⟩ := map_eq_ok.1 h
    exact hfailing ht rfl
  | uniqueItems =>
    unfold Constraint.refusal? at h
    dsimp only at h
    split at h
    · obtain ⟨repeated, -, ht⟩ := map_eq_ok.1 h
      exact hfailing ht rfl
    · cases h
  | default | extension => cases h

theorem isOfConstraint_of_failure? {c : Constraint} {v : Value} {m : Message} (h : c.failure? v = .ok (some m)) :
    m.isOfConstraint = true :=
  isOfConstraint_of_refusal? (Constraint.failure?_eq_ok.1 h).1

end Message

/-! ### What is compared -/

/-- The entries that are no mere headings. -/
def Findings.failures (f : Findings) : List Entry := f.entries.filter (!·.message.heads)

mutual

/-- The outcome and, after it, all outcomes among its errors. -/
def Outcome.preorder : Outcome → List Outcome
  | ⟨valid, keyword, absolute, location, message, errors, annotations⟩ =>
    ⟨valid, keyword, absolute, location, message, errors, annotations⟩ :: preorders errors

/-- The outcomes, each with all outcomes among its errors. -/
def Outcome.preorders : List Outcome → List Outcome
  | [] => []
  | o :: rest => o.preorder ++ preorders rest

end

/-- The outcomes that say what is wrong with the value, if it is not valid. -/
def Outcome.failures (o : Outcome) : List Outcome :=
  if o.valid then [] else o.preorder.filter (!·.message.wraps)

/-- An entry and an outcome report the same failure.  A failure of `minContains` or of `maxContains` is reported by
an entry at that keyword, and by an outcome at `contains`. -/
structure SameFailure (e : Entry) (o : Outcome) : Prop where
  message : e.message = o.message
  location : e.location = o.location
  keyword : e.message.isAboutCount = false → e.keyword = o.keyword
  absolute : e.message.isAboutCount = false → e.absolute = o.absolute

namespace Outcome

theorem preorders_eq (os : List Outcome) : preorders os = os.flatMap preorder := by
  induction os with
  | nil => rfl
  | cons o os ih => rw [preorders, ih, List.flatMap_cons]

theorem preorder_eq (o : Outcome) : o.preorder = o :: o.errors.flatMap preorder := by
  cases o
  rw [preorder, preorders_eq]

theorem failures_of_valid {o : Outcome} (h : o.valid = true) : o.failures = [] := by
  simp [failures, h]

theorem filter_preorders {os : List Outcome} (h : Node.Failures os) :
    (os.flatMap preorder).filter (!·.message.wraps) = os.flatMap failures := by
  induction os with
  | nil => rfl
  | cons o os ih =>
    have ho : o.valid = false := h o (by simp)
    have hos : Node.Failures os := fun p hp => h p (by simp [hp])
    rw [List.flatMap_cons, List.filter_append, ih hos, List.flatMap_cons, failures, ho]
    rfl

/-- A wrapper adds nothing to the failures that it wraps. -/
theorem failures_of_wraps {o : Outcome} (hvalid : o.valid = false) (hwraps : o.message.wraps = true)
    (h : Node.Failures o.errors) : o.failures = o.errors.flatMap failures := by
  rw [failures, hvalid, preorder_eq, List.filter_cons]
  simp [hwraps, filter_preorders h]

/-- An outcome that says something itself says it before its errors. -/
theorem failures_of_tellsOwn {o : Outcome} (hvalid : o.valid = false) (hown : o.message.tellsOwn = true)
    (h : Node.Failures o.errors) : o.failures = o :: o.errors.flatMap failures := by
  rw [failures, hvalid, preorder_eq, List.filter_cons]
  simp [Message.wraps_of_tellsOwn hown, filter_preorders h]

end Outcome

/-- Entries and failing outcomes report the same failures. -/
structure Told (es : List Entry) (os : List Outcome) : Prop where
  failing : Node.Failures os
  same : List.Forall₂ SameFailure (es.filter (!·.message.heads)) (os.flatMap Outcome.failures)

namespace Told

variable {es es' : List Entry} {os os' : List Outcome}

theorem nil : Told [] [] := ⟨Node.failures_nil, .nil⟩

theorem append (h : Told es os) (h' : Told es' os') : Told (es ++ es') (os ++ os') := by
  refine ⟨Node.failures_append h.failing h'.failing, ?_⟩
  rw [List.filter_append, List.flatMap_append]
  exact List.rel_append h.same h'.same

/-- A failure that a node tells itself comes before those of its parts. -/
theorem cons {e : Entry} {o : Outcome} (hsame : SameFailure e o) (hown : e.message.tellsOwn = true)
    (hvalid : o.valid = false) (h : Told es o.errors) : Told (e :: es) [o] := by
  have hheads := Message.heads_of_tellsOwn hown
  have hfailures := Outcome.failures_of_tellsOwn hvalid (hsame.message ▸ hown) h.failing
  refine ⟨by simp [Node.Failures, hvalid], ?_⟩
  rw [List.filter_cons, hheads, List.flatMap_singleton, hfailures]
  exact .cons hsame h.same

end Told

namespace Node

/-! ### One node -/

/-- The findings and the outcome of a node report the same failures, whatever the value and the locations. -/
def SameFailures (n : Node) : Prop :=
  ∀ v r l f o, n.findings v r l = .ok f → n.outcome v r l = .ok o →
    List.Forall₂ SameFailure f.failures o.failures

theorem flatMap_failing (o : Outcome) : (failing o).flatMap Outcome.failures = o.failures := by
  unfold failing
  split
  · rw [Outcome.failures_of_valid ‹_›, List.flatMap_nil]
  · rw [List.flatMap_singleton]

/-- The findings and the outcome have one verdict. -/
theorem valid_eq {n : Node} {v : Value} {r l r' l' : Pointer} {f : Findings} {o : Outcome}
    (hf : n.findings v r l = .ok f) (ho : n.outcome v r' l' = .ok o) : f.valid = o.valid := by
  have hfindings := ((agrees n).findings hf).2
  rw [(agrees n).outcome ho, Except.ok.injEq] at hfindings
  exact hfindings.symm

/-- Faults and the failing outcome of one node. -/
theorem SameFailures.told {n : Node} (h : n.SameFailures) {v : Value} {r l : Pointer} {es : List Entry}
    {os : List Outcome} (hes : n.faultsOf v r l = .ok es) (hos : n.failureOf v r l = .ok os) : Told es os := by
  simp only [faultsOf, failureOf, bind_eq_ok, pure_eq_ok] at hes hos
  obtain ⟨f, hf, rfl⟩ := hes
  obtain ⟨o, ho, rfl⟩ := hos
  have hfaults : f.faults = f.entries := by
    have hhonest := ((agrees n).findings hf).1
    unfold Findings.faults
    split
    · exact (List.isEmpty_iff.1 (hhonest ▸ ‹f.valid = true›)).symm
    · rfl
  refine ⟨failures_failing o, ?_⟩
  rw [hfaults, flatMap_failing]
  exact h v r l f o hf ho

/-- A failure of the node's own before those of its parts. -/
theorem told_own (n : Node) (r l : Pointer) {m : Message} (hown : m.tellsOwn = true) {es : List Entry}
    {os : List Outcome} (h : Told es os) (as : List Outcome) :
    Told (n.entry r l m :: es) [n.told false r l m os as] :=
  .cons ⟨rfl, rfl, fun _ => rfl, fun _ => rfl⟩ hown rfl h

theorem sameFailures_own (n : Node) (r l : Pointer) {m : Message} (hown : m.tellsOwn = true) {es : List Entry}
    {os : List Outcome} (h : Told es os) (as : List Outcome) :
    List.Forall₂ SameFailure (Findings.rejected (n.entry r l m :: es)).failures
      (n.told false r l m os as).failures := by
  have hsame := (told_own n r l hown h as).same
  rwa [List.flatMap_singleton] at hsame

/-- A schema for additional parts says first which part it is about. -/
theorem SameFailures.told_additional {n own : Node} (h : n.SameFailures) {v : Value} {r l : Pointer} {m : Message}
    (hown : m.tellsOwn = true) {es : List Entry} {os : List Outcome}
    (hes : (do return own.additional r l m (← n.findings v r l)) = .ok es)
    (hos : (do return own.wrapped r l m (← n.outcome v r l)) = .ok os) : Told es os := by
  simp only [bind_eq_ok, pure_eq_ok] at hes hos
  obtain ⟨f, hf, rfl⟩ := hes
  obtain ⟨o, ho, rfl⟩ := hos
  unfold additional wrapped
  rw [valid_eq hf ho]
  split
  · exact .nil
  · have hfailing : Failures [o] := by simp_all [Failures]
    have hparts : Told f.entries [o] := ⟨hfailing, by rw [List.flatMap_singleton]; exact h v r _ f o hf ho⟩
    exact told_own own r l hown hparts []

/-- What is collected of the elements one by one is told alike if it is for each element. -/
theorem told_collect {α : Type} {f : Nat → α → Except EvalError (List Entry)}
    {g : Nat → α → Except EvalError (List Outcome)} {as : List α} {i : Nat} {es : List Entry} {os : List Outcome}
    (h : ∀ a ∈ as, ∀ i e o, f i a = .ok e → g i a = .ok o → Told e o) (he : collect f i as = .ok es)
    (ho : collect g i as = .ok os) : Told es os := by
  induction as generalizing i es os with
  | nil =>
    cases he
    cases ho
    exact .nil
  | cons a as ih =>
    simp only [collect, bind_eq_ok, pure_eq_ok] at he ho
    obtain ⟨e, he, es, hes, rfl⟩ := he
    obtain ⟨o, ho, os, hos, rfl⟩ := ho
    have hhere : Told e o := h a (by simp) i e o he ho
    exact hhere.append (ih (fun b hb => h b (by simp [hb])) hes hos)

/-- A part that is passed over is passed over in both. -/
theorem told_if {c : Except EvalError Bool} {x : Except EvalError (List Entry)} {y : Except EvalError (List Outcome)}
    (h : ∀ es os, x = .ok es → y = .ok os → Told es os) {es : List Entry} {os : List Outcome}
    (hes : (do if ← c then x else return []) = .ok es) (hos : (do if ← c then y else return []) = .ok os) :
    Told es os := by
  simp only [bind_eq_ok] at hes hos
  obtain ⟨b, rfl, hes⟩ := hes
  obtain ⟨b', hb, hos⟩ := hos
  cases hb
  cases b with
  | true => exact h es os hes hos
  | false =>
    cases hes
    cases hos
    exact .nil

/-- What is put together of the parts, in a list on one side and in a collapse on the other. -/
theorem sameFailures_of_told {n : Node} {r l : Pointer} {passed failed : Message} (hfailed : failed.wraps = true)
    {es : List Entry} {os : List Outcome} (h : Told es os) :
    List.Forall₂ SameFailure (es.filter (!·.message.heads)) (n.collapse r l os passed failed).failures := by
  have hcollapse : (n.collapse r l os passed failed).failures = os.flatMap Outcome.failures := by
    match os with
    | [] => rfl
    | [o] => rw [collapse, List.flatMap_singleton]
    | _ :: _ :: _ => exact Outcome.failures_of_wraps rfl hfailed h.failing
  rw [hcollapse]
  exact h.same

theorem failures_ofEntries (es : List Entry) : (Findings.ofEntries es).failures = es.filter (!·.message.heads) := by
  cases es with
  | nil => rfl
  | cons e es => rfl

theorem failures_headed (n : Node) (r l : Pointer) (es : List Entry) :
    (n.headed r l .subschemaErrors es).failures = es.filter (!·.message.heads) := by
  cases es with
  | nil => rfl
  | cons e es =>
    have hheading : Message.heads .subschemaErrors = true := by decide
    simp only [headed, Findings.failures, Findings.rejected, entry, List.isEmpty_cons, Bool.false_eq_true, ↓reduceIte,
      List.filter_cons, hheading, Bool.not_true]

theorem sameFailures_parts {n : Node} {r l : Pointer} {passed failed : Message} (hfailed : failed.wraps = true)
    {x : Except EvalError (List Entry)} {y : Except EvalError (List Outcome)}
    (h : ∀ es os, x = .ok es → y = .ok os → Told es os) {f : Findings} {o : Outcome}
    (hf : x.map .ofEntries = .ok f) (ho : (do return n.collapse r l (← y) passed failed) = .ok o) :
    List.Forall₂ SameFailure f.failures o.failures := by
  obtain ⟨es, hes, rfl⟩ := map_eq_ok.1 hf
  simp only [bind_eq_ok, pure_eq_ok] at ho
  obtain ⟨os, hos, rfl⟩ := ho
  rw [failures_ofEntries]
  exact sameFailures_of_told hfailed (h es os hes hos)

/-- The node's own word, if it has one. -/
theorem sameFailures_judged {n : Node} {r l : Pointer} {m : Option Message} (hm : ∀ t ∈ m, t.tellsOwn = true) :
    List.Forall₂ SameFailure (findingsOf (m.map (n.entry r l))).failures (n.judged r l m).failures := by
  cases m with
  | none => exact .nil
  | some t => exact sameFailures_own n r l (hm t rfl) .nil []

/-- Beside `contains` the entry stands at the keyword that is violated, and the outcome does not. -/
theorem sameFailures_contains {n : Node} {r l : Pointer} {minimum maximum : Option Int} {count : Nat}
    {problem : Option (Option String × Message)} (hproblem : containsProblem? minimum maximum count = problem) :
    List.Forall₂ SameFailure (findingsOf (problem.map (n.containsEntry r l))).failures
      (n.judged r l (problem.map (·.2))).failures := by
  cases problem with
  | none => exact .nil
  | some problem =>
    obtain ⟨keyword, m⟩ := problem
    have hsame : SameFailure (n.containsEntry r l (keyword, m)) (n.judged r l (some m)) ∧ m.tellsOwn = true := by
      unfold containsProblem? at hproblem
      split at hproblem
      · cases hproblem
        exact ⟨⟨rfl, rfl, fun _ => rfl, fun _ => rfl⟩, rfl⟩
      · split at hproblem
        · cases hproblem
          exact ⟨⟨rfl, rfl, nofun, nofun⟩, rfl⟩
        · cases hproblem
          exact ⟨⟨rfl, rfl, nofun, nofun⟩, rfl⟩
        · cases hproblem
    have hmessage : (n.containsEntry r l (keyword, m)).message.tellsOwn = true := hsame.1.message ▸ hsame.2
    have htold : Told [n.containsEntry r l (keyword, m)] [n.judged r l (some m)] :=
      .cons hsame.1 hmessage rfl .nil
    have hall := htold.same
    rwa [List.flatMap_singleton] at hall

/-- The findings and the outcomes of children under their indexes. -/
theorem told_indexed {ns : List Node} (hns : ∀ n ∈ ns, n.SameFailures) {v : Value} {i : Nat} {r l : Pointer}
    {fs : List Findings} {os : List Outcome} (hfs : findingsIndexed i ns v r l = .ok fs)
    (hos : outcomesIndexed i ns v r l = .ok os) : Told (fs.flatMap (·.faults)) (os.flatMap failing) := by
  induction ns generalizing i fs os with
  | nil =>
    cases hfs
    cases hos
    exact .nil
  | cons n ns ih =>
    simp only [findingsIndexed, outcomesIndexed, bind_eq_ok, pure_eq_ok] at hfs hos
    obtain ⟨f, hf, fs, hfs, rfl⟩ := hfs
    obtain ⟨o, ho, os, hos, rfl⟩ := hos
    have hhere : Told f.faults (failing o) :=
      (hns n (by simp)).told (bind_eq_ok.2 ⟨f, hf, rfl⟩) (bind_eq_ok.2 ⟨o, ho, rfl⟩)
    exact hhere.append (ih (fun m hm => hns m (by simp [hm])) hfs hos)

/-- As many children accept by their findings as by their outcomes. -/
theorem accepted_eq {ns : List Node} {v : Value} {i j : Nat} {r l r' l' : Pointer} {fs : List Findings}
    {os : List Outcome} (hfs : findingsIndexed i ns v r l = .ok fs) (hos : outcomesIndexed j ns v r' l' = .ok os) :
    fs.countP (·.valid) = (os.filter (·.valid)).length := by
  have hverdicts : fs.map (·.valid) = os.map (·.valid) := by
    refine forall₂_unique (verdicts_findings (fun m _ => agrees m) hfs)
      (verdicts_outcomes (fun m _ => agrees m) hos) fun m _ b b' hb hb' => ?_
    rw [hb, Except.ok.injEq] at hb'
    exact hb'
  calc fs.countP (·.valid) = (fs.map (·.valid)).countP id := by rw [List.countP_map, Function.id_comp]
    _ = (os.map (·.valid)).countP id := by rw [hverdicts]
    _ = (os.filter (·.valid)).length := by
      rw [List.countP_map, Function.id_comp, List.countP_eq_length_filter]

theorem partition_valid (os : List Outcome) :
    os.partition (·.valid) = (os.filter (·.valid), os.flatMap failing) := by
  rw [List.partition_eq_filter_filter]
  congr 1
  induction os with
  | nil => rfl
  | cons o os ih => cases h : o.valid <;> simp [failing, h, ← ih]

/-- The outcome is valid as that of the part is. -/
theorem sameFailures_of_valid {f : Findings} {p o : Outcome} (h : List.Forall₂ SameFailure f.failures p.failures)
    (hp : p.valid = true) (ho : o.valid = true) : List.Forall₂ SameFailure f.failures o.failures := by
  rwa [Outcome.failures_of_valid hp, ← Outcome.failures_of_valid ho] at h

/-- The outcome wraps the failing one of a part. -/
theorem sameFailures_of_single {f : Findings} {p o : Outcome} (h : List.Forall₂ SameFailure f.failures p.failures)
    (hp : p.valid = false) (ho : o.valid = false) (hwraps : o.message.wraps = true) (herrors : o.errors = [p]) :
    List.Forall₂ SameFailure f.failures o.failures := by
  have hfailing : Failures o.errors := by simp [Failures, herrors, hp]
  rwa [Outcome.failures_of_wraps ho hwraps hfailing, herrors, List.flatMap_singleton]

/-- The branch of a conditional that was taken. -/
theorem sameFailures_branch {branch : Option Node} (hbranch : ∀ n ∈ branch, n.SameFailures) {n : Node} {b : Bool}
    {v : Value} {r r' l : Pointer} {f : Findings} {taken : Option Outcome} {tested : Outcome}
    (hf : findingsBranch branch v r' l = .ok f) (ho : outcomeBranch branch v r' l = .ok taken) :
    List.Forall₂ SameFailure f.failures
      (match taken with
        | none => n.told true r l (.condition b) [] [tested]
        | some o =>
          if o.valid then n.told true r l (.condition b) [] [tested, o]
          else n.told false r l .subschemaErrors [o] [tested]).failures := by
  cases branch with
  | none =>
    cases hf
    cases ho
    exact .nil
  | some m =>
    obtain ⟨p, hp, rfl⟩ := map_eq_ok.1 ho
    have hsame := hbranch m rfl v r' l f p hf hp
    cases hvalid : p.valid with
    | true => exact sameFailures_of_valid hsame hvalid (by simp [hvalid])
    | false =>
      have hwraps : Message.wraps .subschemaErrors = true := by decide
      simp only [hvalid, Bool.false_eq_true, ↓reduceIte]
      exact sameFailures_of_single hsame hvalid rfl hwraps rfl

/-! ### A whole tree -/

theorem sameFailures_of_subnodes {n : Node} (h : ∀ c ∈ n.subnodes, c.SameFailures) : n.SameFailures := by
  intro v r l f o hf ho
  cases n, v using cases_applied with
  | passing n v hpass =>
    rw [findings_of_passesOver hpass] at hf
    obtain ⟨m, hm⟩ := outcome_of_passesOver hpass
    rw [hm] at ho
    cases hf
    cases ho
    exact .nil
  | constant s allows =>
    cases hf
    cases ho
    cases allows with
    | true => exact .nil
    | false => exact sameFailures_own (.constant s false) r l rfl .nil []
  | not s child =>
    simp only [findings, bind_eq_ok, pure_eq_ok] at hf
    obtain ⟨g, hg, rfl⟩ := hf
    simp only [outcome, bind_eq_ok, pure_eq_ok] at ho
    obtain ⟨p, hp, rfl⟩ := ho
    rw [valid_eq hg hp]
    cases hvalid : p.valid with
    | true => exact sameFailures_own (.not s child) r l rfl .nil [p]
    | false => exact .nil
  | combine s k c ns =>
    simp only [findings, bind_eq_ok] at hf
    obtain ⟨fs, hfs, hf⟩ := hf
    simp only [outcome, bind_eq_ok, pure_eq_ok] at ho
    obtain ⟨os, hos, rfl⟩ := ho
    have htold : Told (fs.flatMap (·.faults)) (os.flatMap failing) := told_indexed h hfs hos
    rw [accepted_eq hfs hos] at hf
    rw [partition_valid]
    cases hsatisfied : c.satisfied (os.filter (·.valid)).length ns.length with
    | true =>
      rw [hsatisfied] at hf
      cases hf
      exact .nil
    | false =>
      rw [hsatisfied] at hf
      cases hf
      exact sameFailures_own (.combine s k c ns) r l rfl htold _
  | group s ns title description dialect =>
    simp only [findings, findingsPlaced_eq 0, bind_eq_ok, pure_eq_ok] at hf
    obtain ⟨es, hes, rfl⟩ := hf
    simp only [outcome, failuresPlaced_eq 0, bind_eq_ok, pure_eq_ok] at ho
    obtain ⟨os, hos, rfl⟩ := ho
    rw [failures_headed]
    exact sameFailures_of_told (by decide) (told_collect (fun c hc _ _ _ => (h c hc).told) hes hos)
  | conditional s condition thenBranch elseBranch =>
    simp only [findings, bind_eq_ok] at hf
    obtain ⟨b, hb, hf⟩ := hf
    simp only [outcome, bind_eq_ok] at ho
    obtain ⟨tested, htested, ho⟩ := ho
    have hverdict : b = tested.valid := by
      have haccepts := (agrees condition).outcome htested
      rw [hb, Except.ok.injEq] at haccepts
      exact haccepts
    cases hvalid : tested.valid with
    | true =>
      rw [hverdict, hvalid] at hf
      simp only [hvalid, ↓reduceIte, bind_eq_ok, pure_eq_ok] at ho
      obtain ⟨taken, htaken, rfl⟩ := ho
      exact sameFailures_branch (fun c hc => h c (by simp_all [subnodes])) hf htaken
    | false =>
      rw [hverdict, hvalid] at hf
      simp only [hvalid, Bool.false_eq_true, ↓reduceIte, bind_eq_ok, pure_eq_ok] at ho
      obtain ⟨taken, htaken, rfl⟩ := ho
      exact sameFailures_branch (fun c hc => h c (by simp_all [subnodes])) hf htaken
  | reference s target fragment v =>
    simp only [outcome, bind_eq_ok, pure_eq_ok] at ho
    obtain ⟨p, hp, rfl⟩ := ho
    have hsame := h target (by simp [subnodes]) v r l f p hf hp
    cases hvalid : p.valid with
    | true => exact sameFailures_of_valid hsame hvalid rfl
    | false =>
      have hwraps : Message.wraps (.reference false) = true := by decide
      rw [failing, hvalid]
      exact sameFailures_of_single hsame hvalid rfl hwraps rfl
  | delegating s key inner v => exact h inner (by simp [subnodes]) v r l f o hf ho
  | bare s => cases hf
  | leaf s c =>
    simp only [findings, bind_eq_ok, pure_eq_ok] at hf
    obtain ⟨m, hm, rfl⟩ := hf
    simp only [outcome, hm, bind_eq_ok, pure_eq_ok] at ho
    obtain ⟨m', hm', rfl⟩ := ho
    cases hm'
    refine sameFailures_judged fun t ht => ?_
    cases ht
    exact Message.tellsOwn_of_isOfConstraint (Message.isOfConstraint_of_failure? hm)
  | delegatedFormat s name checker ns =>
    simp only [findings, bind_eq_ok, pure_eq_ok] at hf
    obtain ⟨b, hb, m, hm, rfl⟩ := hf
    simp only [outcome, hb, hm, bind_eq_ok, pure_eq_ok, Except.ok.injEq, exists_eq_left'] at ho
    subst ho
    refine sameFailures_judged fun t ht => ?_
    cases ht
    have htold := (Message.written_eq_ok.1 hm).1
    cases b with
    | true => cases htold
    | false =>
      cases htold
      rfl
  | properties s entries ms =>
    simp only [findings, findingsEntries_eq 0] at hf
    simp only [outcome, failuresEntries_eq 0] at ho
    refine sameFailures_parts (by decide) (fun es os => told_collect fun e he _ _ _ => ?_) hf ho
    cases hlookup : lookupKey e.1 ms with
    | none =>
      intro he ho
      cases he
      cases ho
      exact .nil
    | some w => exact (h e.2 (List.mem_map_of_mem he)).told
  | patternProperties s entries ms =>
    simp only [findings, findingsMatches_eq 0] at hf
    simp only [outcome, failuresMatches_eq 0] at ho
    exact sameFailures_parts (by decide) (fun es os => told_collect fun e he _ _ _ => told_collect fun m _ _ _ _ =>
      told_if fun _ _ => (h e.2 (List.mem_map_of_mem he)).told) hf ho
  | additionalProperties s schema names patterns ms =>
    have hschema : schema.SameFailures := h schema (by simp [subnodes])
    exact sameFailures_parts (by decide) (fun es os => told_collect fun m _ _ _ _ =>
      told_if fun _ _ => hschema.told_additional rfl) hf ho
  | propertyNames s schema ms =>
    have hschema : schema.SameFailures := h schema (by simp [subnodes])
    exact sameFailures_parts (by decide) (fun es os => told_collect fun m _ _ _ _ => hschema.told) hf ho
  | required s names ms =>
    refine sameFailures_parts (by decide) (fun es os => told_collect fun name _ i e o he ho => ?_) hf ho
    cases he
    cases ho
    split
    · exact .nil
    · exact told_own (.required s names) (r.item i) l rfl .nil []
  | items s schema vs =>
    have hschema : schema.SameFailures := h schema (by simp [subnodes])
    exact sameFailures_parts (by decide) (fun es os => told_collect fun w _ _ _ _ => hschema.told) hf ho
  | itemsTuple s schemas vs =>
    simp only [findings, findingsTuple_eq] at hf
    simp only [outcome, failuresTuple_eq] at ho
    exact sameFailures_parts (by decide) (fun es os => told_collect fun p hp _ _ _ =>
      (h p.1 (List.of_mem_zip hp).1).told) hf ho
  | additionalItems s schema size applies vs =>
    have hschema : schema.SameFailures := h schema (by simp [subnodes])
    exact sameFailures_parts (by decide) (fun es os => told_collect fun w _ _ _ _ =>
      hschema.told_additional rfl) hf ho
  | contains s schema minimum maximum vs =>
    simp only [findings, bind_eq_ok, pure_eq_ok] at hf
    obtain ⟨count, hcount, problem, hproblem, rfl⟩ := hf
    simp only [outcome, hcount, hproblem, bind_eq_ok, pure_eq_ok, Except.ok.injEq, exists_eq_left'] at ho
    subst ho
    exact sameFailures_contains (toldProblem?_eq_ok.1 hproblem).1

theorem sameFailures (n : Node) : n.SameFailures := n.induction fun _ => sameFailures_of_subnodes

/-- Whatever the tree and the value, where both the findings and the outcome have a result they report the same
failures, one by one and in order. -/
theorem failures_agree (n : Node) (v : Value) (r l : Pointer) {f : Findings} {o : Outcome}
    (hf : n.findings v r l = .ok f) (ho : n.outcome v r l = .ok o) :
    List.Forall₂ SameFailure f.failures o.failures :=
  sameFailures n v r l f o hf ho

/-- Two keywords of the schema behind a reference fail, and a `minContains` beside them: the two headings of the
findings and the three wrappers of the outcome are left out, and five failures remain in each. -/
theorem failures_agree_referring :
    let inner : Node := .group {} [.leaf {} (.type ["string"]), .not {} (.constant {} true)] none none none
    let any : Node := .combine {} "anyOf" .any [inner, .constant {} false]
    let n : Node := .group {} [.reference {} any none, .contains {} (.constant {} true) (some 2) none] none none none
    ∃ f o, n.findings (.arr [.null]) .root .root = .ok f ∧ n.outcome (.arr [.null]) .root .root = .ok o ∧
      f.entries.length = 7 ∧ f.failures.length = 5 ∧ List.Forall₂ SameFailure f.failures o.failures := by
  intro inner any n
  refine ⟨_, _, rfl, rfl, rfl, by decide +kernel, ?_⟩
  exact failures_agree n (.arr [.null]) .root .root rfl rfl

end Node

end Conform
