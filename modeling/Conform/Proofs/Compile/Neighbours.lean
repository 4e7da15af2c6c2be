import Conform.Proofs.Compile.Built
import Conform.Proofs.Json.Decoded

/-!
# Neighbours

What a keyword that depends on its neighbours is told of them: the names under `properties`, the patterns under
`patternProperties` and the number of schemas in an `items` (`knownNames_siblings`, `knownPatterns_siblings`,
`tupleSize?_siblings`).  The nodes that it looks through are told apart by the keywords that they report under
(`keyword?_of_keywordOf`).
-/

namespace Conform

variable {setup : Setup} {means : Location → Node → Prop} {leads : Location → String → Location → Option String → Prop}
  {l : Location} {ms : List (Scalar × Value)}

/-- The node of a keyword reports under its name, except that a conditional reports as its object does. -/
theorem keyword?_of_keywordOf {keyword : Keyword} {name : String} {item : Value} {n : Node}
    (hname : Keyword.ofName name = keyword) (h : KeywordOf setup means leads l ms keyword name item (some n)) :
    n.keyword? = some name ∨ keyword = .condition ∧ n.keyword? = none := by
  have hown := Keyword.eq_name_of_ofName hname
  cases h.node with
  | condition => exact .inr ⟨rfl, rfl⟩
  -- nodes that keep the name of their keyword
  | combination | limit | size | givenKeyword | extension => exact .inl rfl
  | _ => exact .inl (congrArg some (hown rfl).symm)

/-- What is found among the compiled neighbours is what the member of a name yields, if nothing else yields any. -/
private theorem findSome?_siblings {β : Type} {f : Node → Option β} {name : String} {R : Value → Option β → Prop}
    {ms : List (Scalar × Value)} {firsts : List Scope.Child} (hms : membersJson ms = true)
    (h : List.Forall₂ (fun m c => if m.1 = .str name then R m.2 (c.node?.bind f) else c.node?.bind f = none) ms firsts) :
    match lookupKey (.str name) ms with
    | some item => R item ((firsts.filterMap Scope.Child.node?).findSome? f)
    | none => (firsts.filterMap Scope.Child.node?).findSome? f = none := by
  induction h with
  | nil => rfl
  | @cons m c ms firsts hc h ih =>
    obtain ⟨key, item⟩ := m
    simp only [membersJson, Bool.and_eq_true] at hms
    have ih := ih hms.2
    have hfirst : ((c :: firsts).filterMap Scope.Child.node?).findSome? f =
        (c.node?.bind f).or ((firsts.filterMap Scope.Child.node?).findSome? f) := by
      rw [List.filterMap_cons]
      cases c.node? with
      | none => rfl
      | some n => cases hn : f n <;> simp [hn]
    rw [hfirst, lookupKey]
    by_cases hkey : key = .str name
    · subst hkey
      have hnew : lookupKey (.str name) ms = none := by simpa [isNewKey] using hms.1.1
      rw [hnew] at ih
      simp only [↓reduceIte] at hc
      rw [if_pos (by simp [Scalar.sameKey_str])]
      cases hfound : c.node?.bind f with
      | none => simpa [hfound, ih] using hc
      | some found => simpa [hfound] using hc
    · simp only [hkey, ↓reduceIte] at hc
      rw [if_neg (by simpa [Scalar.sameKey_str_iff] using hkey), hc]
      exact ih

private theorem node?_of_earlyOf {member : Scalar × Value} {c : Scope.Child} {n : Node}
    (h : EarlyOf setup means leads l ms member c) (hn : c.node? = some n) : ∃ name, member.1 = .str name ∧
      KeywordOf setup means leads l ms (.ofName name) name member.2 (some n) := by
  obtain ⟨name, hkey, h⟩ := h
  split at h
  · cases h
    cases hn
  · obtain ⟨result, hresult, rfl⟩ := h
    cases hn
    exact ⟨name, hkey, hresult⟩

/-- A member under another name yields none of the nodes of a name. -/
private theorem bind_node?_eq_none {β : Type} {f : Node → Option β} {name : String}
    (hf : ∀ n, (f n).isSome → n.keyword? = some name) {member : Scalar × Value} {c : Scope.Child}
    (h : EarlyOf setup means leads l ms member c) (hm : member.1 ≠ .str name) : c.node?.bind f = none := by
  cases hn : c.node? with
  | none => rfl
  | some n =>
    obtain ⟨other, hother, hkeyword⟩ := node?_of_earlyOf h hn
    cases hfn : f n with
    | none => exact hfn
    | some b =>
      have hk := hf n (by simp [hfn])
      rcases keyword?_of_keywordOf rfl hkeyword with h | ⟨-, h⟩
      · rw [hk] at h
        cases h
        exact absurd hother hm
      · rw [hk] at h
        cases h

/-! ### What the late keywords are told -/

variable {firsts : List Scope.Child}

/-- What is found among the compiled neighbours, from what the member of the name yields. -/
private theorem findSome?_of_earlyOf {β : Type} {f : Node → Option β} {R : Value → Option β → Prop} (name : String)
    (hms : membersJson ms = true) (h : List.Forall₂ (EarlyOf setup means leads l ms) ms firsts)
    (hf : ∀ n, (f n).isSome → n.keyword? = some name)
    (hR : ∀ item c, EarlyOf setup means leads l ms (.str name, item) c → R item (c.node?.bind f)) :
    match lookupKey (.str name) ms with
    | some item => R item ((firsts.filterMap Scope.Child.node?).findSome? f)
    | none => (firsts.filterMap Scope.Child.node?).findSome? f = none := by
  refine findSome?_siblings hms (h.imp fun m c hc => ?_)
  obtain ⟨key, item⟩ := m
  split
  · rename_i hkey
    cases hkey
    exact hR item c hc
  · rename_i hkey
    exact bind_node?_eq_none hf hc hkey

/-- The names that a node has schemas for. -/
private def names? : Node → Option (List Scalar)
  | .properties _ entries => some (entries.map (·.1))
  | _ => none

/-- The patterns that a node has schemas for. -/
private def patterns? : Node → Option (List Regex)
  | .patternProperties _ entries => some (entries.map (·.1))
  | _ => none

/-- The number of items that a node has schemas for. -/
private def count? : Node → Option Nat
  | .itemsTuple _ schemas => some schemas.length
  | _ => none

/-- The names that are known are those under `properties`. -/
theorem knownNames_siblings (hms : membersJson ms = true)
    (h : List.Forall₂ (EarlyOf setup means leads l ms) ms firsts) :
    Scope.knownNames (firsts.filterMap Scope.Child.node?) =
      match lookupKey (.str "properties") ms with
      | some item => (item.members?.getD []).map (·.1)
      | none => [] := by
  have hfound := findSome?_of_earlyOf "properties" (f := names?) (R := fun item o => o = item.members?.map fun ps => ps.map (·.1)) hms h
    (fun n hn => by cases n <;> first | rfl | cases hn)
    fun item c hc => by
      obtain ⟨name, hname, hc⟩ := hc
      cases hname
      obtain ⟨result, ⟨ps, es, rfl, hes, rfl⟩, rfl⟩ := hc
      have hkeys : es.map (·.1) = ps.map (·.1) := by
        induction hes with
        | nil => rfl
        | cons hr _ ih => simp [hr.1, ih]
      simp [Scope.Child.node?, names?, Value.members?, hkeys]
  split at hfound
  · rename_i item _
    refine (congrArg (Option.getD · []) hfound).trans ?_
    cases item.members? <;> rfl
  · exact congrArg (Option.getD · []) hfound

/-- The patterns that are known are those that the keys under `patternProperties` denote. -/
theorem knownPatterns_siblings (hms : membersJson ms = true)
    (h : List.Forall₂ (EarlyOf setup means leads l ms) ms firsts) :
    List.Forall₂ (fun p regex => ∃ pattern, p = Scalar.str pattern ∧ Regex.ofText setup.world.characters pattern = .ok regex)
      (match lookupKey (.str "patternProperties") ms with
        | some item => (item.members?.getD []).map (·.1)
        | none => [])
      (Scope.knownPatterns (firsts.filterMap Scope.Child.node?)) := by
  have hfound := findSome?_of_earlyOf "patternProperties" (f := patterns?) (R := fun item o =>
      List.Forall₂ (fun p regex => ∃ pattern, p = Scalar.str pattern ∧ Regex.ofText setup.world.characters pattern = .ok regex)
        ((item.members?.getD []).map (·.1)) (o.getD [])) hms h
    (fun n hn => by cases n <;> first | rfl | cases hn)
    fun item c hc => by
      obtain ⟨name, hname, hc⟩ := hc
      cases hname
      obtain ⟨result, ⟨ps, es, rfl, hes, rfl⟩, rfl⟩ := hc
      simp only [Scope.Child.node?, patterns?, Value.members?, Option.getD_some, Option.bind_some]
      rw [List.forall₂_map_left_iff, List.forall₂_map_right_iff]
      exact hes.imp fun m e h => h.1
  split at hfound
  · exact hfound
  · have hnone : Scope.knownPatterns (firsts.filterMap Scope.Child.node?) = [] := congrArg (Option.getD · []) hfound
    rw [hnone]
    exact .nil

/-- The size of the tuple is the number of schemas that `items` lists. -/
theorem tupleSize?_siblings (hms : membersJson ms = true)
    (h : List.Forall₂ (EarlyOf setup means leads l ms) ms firsts) :
    Scope.tupleSize? (firsts.filterMap Scope.Child.node?) =
      (lookupKey (.str "items") ms).bind fun item => item.items?.map List.length := by
  have hfound := findSome?_of_earlyOf "items" (f := count?) (R := fun item o => o = item.items?.map List.length) hms h
    (fun n hn => by cases n <;> first | rfl | cases hn)
    fun item c hc => by
      obtain ⟨name, hname, hc⟩ := hc
      cases hname
      obtain ⟨result, ⟨vs, ns, rfl, hns, rfl⟩ | ⟨harray, n, -, rfl⟩, rfl⟩ := hc
      · have hlength : ns.length = vs.length := by simpa using hns.length_eq.symm
        simp [Scope.Child.node?, count?, Value.items?, hlength]
      · cases item with
        | arr vs => cases harray
        | scalar | obj | set => rfl
  split at hfound
  · rename_i item hitem
    rw [hitem]
    exact hfound
  · rename_i hitem
    rw [hitem]
    exact hfound

end Conform
