import Conform.Proofs.Schema.Failures
import Mathlib.Logic.Relation

/-!
# Who reports an entry

Every entry of the findings of a tree is said by one node of it, asked about one value.  An `Inquiry` is a node with the
value, the location of the value and the keyword location to report from.  A node passes on what the nodes below it find
(`Inquiry.PassesOn`), and adds entries of its own (`Inquiry.Says`); so an entry can be followed down to the node that
says it (`Inquiry.exists_reporter`).
-/

namespace Conform

/-- The message is about a part of the value or about a part of the keyword, or about a keyword beside it. -/
def Message.isElsewhere : Message → Bool
  | .additionalProperty _ | .additionalItem _ | .missingProperty _ | .containsFew .. | .containsMany .. => true
  | _ => false

/-- The node says nothing itself, but passes on what its target finds. -/
def Node.isReference : Node → Bool
  | .reference .. => true
  | _ => false

/-- A node that is asked what is wrong with a value. -/
structure Inquiry where
  node : Node
  value : Value
  /-- Where the node reports from. -/
  keyword : Pointer
  /-- Where the value lies. -/
  location : Pointer

namespace Inquiry

/-- The findings of the node. -/
def Finds (q : Inquiry) (f : Findings) : Prop := q.node.findings q.value q.keyword q.location = .ok f

/-- A node passes on what one below it finds. -/
inductive PassesOn : Inquiry → Inquiry → Prop where
  | combine {s keyword counting ns v r l n} {i : Nat} (hn : ns[i]? = some n) :
    PassesOn ⟨.combine s keyword counting ns, v, r, l⟩ ⟨n, v, r.item i, l⟩
  | group {s ns title description dialect v r l n} (hn : n ∈ ns) :
    PassesOn ⟨.group s ns title description dialect, v, r, l⟩ ⟨n, v, n.place r, l⟩
  | thenBranch {s condition n elseBranch v r l} :
    PassesOn ⟨.conditional s condition (some n) elseBranch, v, r, l⟩ ⟨n, v, r.child "then", l⟩
  | elseBranch {s condition thenBranch n v r l} :
    PassesOn ⟨.conditional s condition thenBranch (some n), v, r, l⟩ ⟨n, v, r.child "else", l⟩
  | reference {s n fragment v r l} : PassesOn ⟨.reference s n fragment, v, r, l⟩ ⟨n, v, r, l⟩
  | delegating {s key n v r l} : PassesOn ⟨.delegating s key n, v, r, l⟩ ⟨n, v, r, l⟩
  | properties {s entries ms r l key n w} (hn : (key, n) ∈ entries) (hw : lookupKey key ms = some w) :
    PassesOn ⟨.properties s entries, .obj ms, r, l⟩ ⟨n, w, r.key key, l.key key⟩
  | patternProperties {s entries ms r l regex n key w} (hn : (regex, n) ∈ entries) (hw : (key, w) ∈ ms) :
    PassesOn ⟨.patternProperties s entries, .obj ms, r, l⟩ ⟨n, w, r.child regex.text, l.key key⟩
  | additionalProperties {s n names patterns ms r l key w} (hw : (key, w) ∈ ms) :
    PassesOn ⟨.additionalProperties s n names patterns, .obj ms, r, l⟩ ⟨n, w, r, l.key key⟩
  | propertyNames {s n ms r l key w} (hw : (key, w) ∈ ms) :
    PassesOn ⟨.propertyNames s n, .obj ms, r, l⟩ ⟨n, .scalar key, r, l.key key⟩
  | items {s n vs r l w} {i : Nat} (hw : vs[i]? = some w) :
    PassesOn ⟨.items s n, .arr vs, r, l⟩ ⟨n, w, r, l.item i⟩
  | itemsTuple {s ns vs r l n w} {i : Nat} (hn : ns[i]? = some n) (hw : vs[i]? = some w) :
    PassesOn ⟨.itemsTuple s ns, .arr vs, r, l⟩ ⟨n, w, r.item i, l.item i⟩
  | additionalItems {s n size applies vs r l w} {i : Nat} (hw : vs[i]? = some w) :
    PassesOn ⟨.additionalItems s n size applies, .arr vs, r, l⟩ ⟨n, w, r, l.item i⟩

/-- A node says an entry itself. -/
inductive Says : Inquiry → Entry → Prop where
  | own {n v r l m} (hn : n.isReference = false) (hm : m.isElsewhere = false) : Says ⟨n, v, r, l⟩ (n.entry r l m)
  | missing {s names v r l name} {i : Nat} (hname : names[i]? = some name) :
    Says ⟨.required s names, v, r, l⟩ ((Node.required s names).entry (r.item i) l (.missingProperty name))
  | additionalProperty {s n names patterns ms r l key w} (hw : (key, w) ∈ ms) :
    Says ⟨.additionalProperties s n names patterns, .obj ms, r, l⟩
      ((Node.additionalProperties s n names patterns).entry r (l.key key) (.additionalProperty key))
  | additionalItem {s n size applies vs r l w} {i : Nat} (hw : vs[i]? = some w) :
    Says ⟨.additionalItems s n size applies, .arr vs, r, l⟩
      ((Node.additionalItems s n size applies).entry r (l.item i) (.additionalItem i))
  | few {s n k maximum v r l} {count : Nat} :
    Says ⟨.contains s n (some k) maximum, v, r, l⟩
      ((Node.contains s n (some k) maximum).containsEntry r l (some "minContains", .containsFew k count))
  | many {s n minimum k v r l} {count : Nat} :
    Says ⟨.contains s n minimum (some k), v, r, l⟩
      ((Node.contains s n minimum (some k)).containsEntry r l (some "maxContains", .containsMany k count))

/-- An entry that is found is said by the node, or passed on from one below it that finds it. -/
def Explains (q : Inquiry) (e : Entry) : Prop :=
  q.Says e ∨ ∃ q' f', q.PassesOn q' ∧ q'.Finds f' ∧ e ∈ f'.entries

variable {q q' : Inquiry} {f : Findings} {e : Entry}

theorem mem_subnodes_of_passesOn (h : q.PassesOn q') : q'.node ∈ q.node.subnodes := by
  cases h with
  | combine hn | itemsTuple hn hw => exact List.mem_of_getElem? hn
  | group hn => exact hn
  | thenBranch | elseBranch => simp [Node.subnodes]
  | reference | delegating | additionalProperties | propertyNames | items | additionalItems => simp [Node.subnodes]
  | properties hn hw => exact List.mem_map_of_mem hn
  | patternProperties hn hw => exact List.mem_map_of_mem hn

/-! ### Following an entry down -/

section Collected

variable {α β : Type} {v w : Value} {r l : Pointer} {n : Node}

/-- What has been collected stems from one of the elements. -/
theorem exists_of_mem_collect {g : Nat → α → Except EvalError (List β)} {as : List α} {start : Nat} {bs : List β} {b : β}
    (h : collect g start as = .ok bs) (hb : b ∈ bs) :
    ∃ i a part, as[i]? = some a ∧ g (start + i) a = .ok part ∧ b ∈ part := by
  induction as generalizing start bs with
  | nil =>
    cases h
    simp at hb
  | cons a as ih =>
    simp only [collect, bind_eq_ok, pure_eq_ok] at h
    obtain ⟨here, hhere, others, hothers, rfl⟩ := h
    rcases List.mem_append.1 hb with hb | hb
    · exact ⟨0, a, here, rfl, hhere, hb⟩
    · obtain ⟨i, a', part, ha, hpart, hb⟩ := ih hothers hb
      exact ⟨i + 1, a', part, ha, by rwa [← Nat.add_assoc, Nat.add_right_comm], hb⟩

theorem mem_entries_of_faults (h : e ∈ f.faults) : e ∈ f.entries := by
  unfold Findings.faults at h
  split at h
  · simp at h
  · exact h

theorem mem_of_ofEntries {es : List Entry} (h : e ∈ (Findings.ofEntries es).entries) : e ∈ es := by
  cases es with
  | nil => simp [Findings.ofEntries, Findings.accepted] at h
  | cons => exact h

/-- A fault of a node that one above it passes on. -/
theorem explains_of_faultsOf (hpasses : q.PassesOn ⟨n, v, r, l⟩) {es : List Entry}
    (hes : n.faultsOf v r l = .ok es) (he : e ∈ es) : q.Explains e := by
  simp only [Node.faultsOf, bind_eq_ok, pure_eq_ok] at hes
  obtain ⟨f, hf, rfl⟩ := hes
  exact .inr ⟨⟨n, v, r, l⟩, f, hpasses, hf, mem_entries_of_faults he⟩

/-- What a schema for additional parts says comes from the node that has it, or from the schema. -/
theorem explains_of_additional {own : Node} {m : Message} (hpasses : q.PassesOn ⟨n, v, r, l⟩)
    (hself : q.Says (own.entry r l m)) {es : List Entry}
    (hes : (do return own.additional r l m (← n.findings v r l)) = .ok es) (he : e ∈ es) : q.Explains e := by
  simp only [bind_eq_ok, pure_eq_ok] at hes
  obtain ⟨f, hf, rfl⟩ := hes
  unfold Node.additional at he
  split at he
  · simp at he
  · rcases List.mem_cons.1 he with rfl | he
    · exact .inl hself
    · exact .inr ⟨⟨n, v, r, l⟩, f, hpasses, hf, he⟩

theorem of_if {c : Except EvalError Bool} {x : Except EvalError (List Entry)} {es : List Entry}
    (h : (do if ← c then x else return []) = .ok es) (he : e ∈ es) : x = .ok es := by
  simp only [bind_eq_ok] at h
  obtain ⟨b, rfl, h⟩ := h
  cases b with
  | true => exact h
  | false =>
    cases h
    simp at he

end Collected

theorem says_of_containsProblem? {s : Site} {n : Node} {minimum maximum : Option Int} {count : Nat} {v : Value}
    {r l : Pointer} {problem : Option String × Message} (h : containsProblem? minimum maximum count = some problem) :
    Says ⟨.contains s n minimum maximum, v, r, l⟩
      ((Node.contains s n minimum maximum).containsEntry r l problem) := by
  unfold containsProblem? at h
  split at h
  · cases h
    exact .own rfl rfl
  · split at h
    · rename_i hminimum
      cases h
      cases (Option.filter_eq_some_iff.1 hminimum).1
      exact .few
    · rename_i hmaximum
      cases h
      cases (Option.filter_eq_some_iff.1 hmaximum).1
      exact .many
    · cases h

theorem isElsewhere_of_isOfConstraint {m : Message} (h : m.isOfConstraint = true) : m.isElsewhere = false := by
  cases m <;> first | rfl | cases h

theorem says_of_findingsOf {o : Option Entry} (h : e ∈ (Node.findingsOf o).entries) : o = some e := by
  cases o with
  | none => simp [Node.findingsOf, Findings.accepted] at h
  | some e' => rw [List.mem_singleton.1 h]

/-- Whatever a node finds is said by it or passed on. -/
theorem Finds.explains (h : q.Finds f) (he : e ∈ f.entries) : q.Explains e := by
  obtain ⟨n, v, r, l⟩ := q
  unfold Finds at h
  dsimp only at h
  cases n, v using Node.cases_applied with
  | passing n v hpass =>
    rw [Node.findings_of_passesOver hpass] at h
    cases h
    simp [Findings.accepted] at he
  | constant s allows =>
    cases h
    cases allows with
    | true => simp [Node.findingsOf, Findings.accepted] at he
    | false => exact .inl (List.mem_singleton.1 he ▸ .own rfl rfl)
  | not s child =>
    simp only [Node.findings, bind_eq_ok, pure_eq_ok] at h
    obtain ⟨g, hg, rfl⟩ := h
    have hsome := says_of_findingsOf he
    split at hsome
    · cases hsome
      exact .inl (.own rfl rfl)
    · cases hsome
  | combine s k c ns =>
    simp only [Node.findings, Node.findingsIndexed_eq, bind_eq_ok] at h
    obtain ⟨fs, hfs, h⟩ := h
    split at h
    · cases h
      simp [Findings.accepted] at he
    · cases h
      rcases List.mem_cons.1 he with rfl | he
      · exact .inl (.own rfl rfl)
      · obtain ⟨g, hg, he⟩ := List.mem_flatMap.1 he
        obtain ⟨i, n, part, hn, hpart, hg⟩ := exists_of_mem_collect hfs hg
        obtain ⟨g', hg', rfl⟩ := map_eq_ok.1 hpart
        cases List.mem_singleton.1 hg
        rw [Nat.zero_add] at hg'
        exact .inr ⟨_, g, .combine hn, hg', mem_entries_of_faults he⟩
  | group s ns title description dialect =>
    simp only [Node.findings, Node.findingsPlaced_eq 0, bind_eq_ok, pure_eq_ok] at h
    obtain ⟨es, hes, rfl⟩ := h
    unfold Node.headed at he
    split at he
    · simp [Findings.accepted] at he
    · rcases List.mem_cons.1 he with rfl | he
      · exact .inl (.own rfl rfl)
      · obtain ⟨i, n, part, hn, hpart, he⟩ := exists_of_mem_collect hes he
        exact explains_of_faultsOf (.group (List.mem_of_getElem? hn)) hpart he
  | conditional s condition thenBranch elseBranch =>
    simp only [Node.findings, bind_eq_ok] at h
    obtain ⟨b, -, h⟩ := h
    cases b with
    | true =>
      cases thenBranch with
      | none =>
        cases h
        simp [Findings.accepted] at he
      | some n => exact .inr ⟨_, f, .thenBranch, h, he⟩
    | false =>
      cases elseBranch with
      | none =>
        cases h
        simp [Findings.accepted] at he
      | some n => exact .inr ⟨_, f, .elseBranch, h, he⟩
  | reference s target fragment => exact .inr ⟨_, f, .reference, h, he⟩
  | delegating s key inner => exact .inr ⟨_, f, .delegating, h, he⟩
  | bare s => cases h
  | leaf s c =>
    simp only [Node.findings, bind_eq_ok, pure_eq_ok] at h
    obtain ⟨m, hm, rfl⟩ := h
    obtain ⟨t, rfl, rfl⟩ := Option.map_eq_some_iff.1 (says_of_findingsOf he)
    exact .inl (.own rfl (isElsewhere_of_isOfConstraint (Message.isOfConstraint_of_failure? hm)))
  | delegatedFormat s name checker ns =>
    simp only [Node.findings, bind_eq_ok, pure_eq_ok] at h
    obtain ⟨b, -, m, hm, rfl⟩ := h
    obtain ⟨t, rfl, rfl⟩ := Option.map_eq_some_iff.1 (says_of_findingsOf he)
    have htold := (Message.written_eq_ok.1 hm).1
    split at htold
    · cases htold
    · cases htold
      exact .inl (.own rfl rfl)
  | properties s entries ms =>
    simp only [Node.findings, Node.findingsEntries_eq 0] at h
    obtain ⟨es, hes, rfl⟩ := map_eq_ok.1 h
    obtain ⟨i, ⟨key, n⟩, part, hn, hpart, he⟩ := exists_of_mem_collect hes (mem_of_ofEntries he)
    dsimp only at hpart
    split at hpart
    · cases hpart
      simp at he
    · rename_i w hw
      exact explains_of_faultsOf (.properties (List.mem_of_getElem? hn) hw) hpart he
  | patternProperties s entries ms =>
    simp only [Node.findings, Node.findingsMatches_eq 0] at h
    obtain ⟨es, hes, rfl⟩ := map_eq_ok.1 h
    obtain ⟨i, ⟨regex, n⟩, part, hn, hpart, he⟩ := exists_of_mem_collect hes (mem_of_ofEntries he)
    obtain ⟨j, ⟨key, w⟩, part', hw, hpart', he⟩ := exists_of_mem_collect hpart he
    have hfaults := of_if hpart' he
    exact explains_of_faultsOf (.patternProperties (List.mem_of_getElem? hn) (List.mem_of_getElem? hw)) hfaults he
  | additionalProperties s schema names patterns ms =>
    obtain ⟨es, hes, rfl⟩ := map_eq_ok.1 h
    obtain ⟨i, ⟨key, w⟩, part, hw, hpart, he⟩ := exists_of_mem_collect hes (mem_of_ofEntries he)
    have hw := List.mem_of_getElem? hw
    have hadditional := of_if hpart he
    exact explains_of_additional (.additionalProperties hw) (.additionalProperty hw) hadditional he
  | propertyNames s schema ms =>
    obtain ⟨es, hes, rfl⟩ := map_eq_ok.1 h
    obtain ⟨i, ⟨key, w⟩, part, hw, hpart, he⟩ := exists_of_mem_collect hes (mem_of_ofEntries he)
    exact explains_of_faultsOf (.propertyNames (List.mem_of_getElem? hw)) hpart he
  | required s names ms =>
    obtain ⟨es, hes, rfl⟩ := map_eq_ok.1 h
    obtain ⟨i, name, part, hname, hpart, he⟩ := exists_of_mem_collect hes (mem_of_ofEntries he)
    cases hpart
    split at he
    · simp at he
    · rw [List.mem_singleton.1 he, Nat.zero_add]
      exact .inl (.missing hname)
  | items s schema vs =>
    obtain ⟨es, hes, rfl⟩ := map_eq_ok.1 h
    obtain ⟨i, w, part, hw, hpart, he⟩ := exists_of_mem_collect hes (mem_of_ofEntries he)
    rw [Nat.zero_add] at hpart
    exact explains_of_faultsOf (.items hw) hpart he
  | itemsTuple s schemas vs =>
    simp only [Node.findings, Node.findingsTuple_eq] at h
    obtain ⟨es, hes, rfl⟩ := map_eq_ok.1 h
    obtain ⟨i, ⟨n, w⟩, part, hw, hpart, he⟩ := exists_of_mem_collect hes (mem_of_ofEntries he)
    rw [Nat.zero_add] at hpart
    obtain ⟨hn, hw⟩ := List.getElem?_zip_eq_some.1 hw
    exact explains_of_faultsOf (.itemsTuple hn hw) hpart he
  | additionalItems s schema size applies vs =>
    obtain ⟨es, hes, rfl⟩ := map_eq_ok.1 h
    obtain ⟨i, w, part, hw, hpart, he⟩ := exists_of_mem_collect hes (mem_of_ofEntries he)
    have hw : vs[size + i]? = some w := by
      unfold itemsBeyond at hw
      split at hw
      · rwa [List.getElem?_drop] at hw
      · simp at hw
    exact explains_of_additional (.additionalItems hw) (.additionalItem hw) hpart he
  | contains s schema minimum maximum vs =>
    simp only [Node.findings, bind_eq_ok, pure_eq_ok] at h
    obtain ⟨count, -, told, htold, rfl⟩ := h
    obtain ⟨problem, rfl, rfl⟩ := Option.map_eq_some_iff.1 (says_of_findingsOf he)
    exact .inl (says_of_containsProblem? (toldProblem?_eq_ok.1 htold).1)

/-- An entry that is found is said by a node further down, which finds it. -/
theorem exists_reporter (h : q.Finds f) (he : e ∈ f.entries) :
    ∃ q' f', Relation.ReflTransGen PassesOn q q' ∧ q'.Says e ∧ q'.Finds f' ∧ e ∈ f'.entries := by
  obtain ⟨n, v, r, l⟩ := q
  induction n using Node.induction generalizing f v r l with
  | step n ih =>
    rcases h.explains he with hself | ⟨q', f', hpasses, hf', he'⟩
    · exact ⟨_, f, .refl, hself, h, he⟩
    · obtain ⟨q'', f'', hdown, hreports⟩ := ih q'.node (mem_subnodes_of_passesOn hpasses) he' _ _ _ hf'
      exact ⟨q'', f'', .head hpasses hdown, hreports⟩

end Inquiry

end Conform
