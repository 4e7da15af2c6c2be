import Conform.Proofs.Compile.Locations
import Conform.Proofs.Json.Members
import Conform.Proofs.Schema.Tree

/-!
# The nodes below a built node

The nodes right below the node of a keyword are those that other locations mean, and nodes of a caller's own
(`mem_subnodes_of_keyword`).  So a property that all of these have in their trees, and that the nodes built for one
location have, holds throughout the tree of the location (`all_of_built`).
-/

namespace Conform

/-- A node of a caller's own: a constraint of a format, or what has been made of a keyword. -/
def Setup.Gives (setup : Setup) (n : Node) : Prop :=
  (∃ name checker constraints, setup.format name = some (.delegating checker constraints) ∧ n ∈ constraints) ∨
    ∃ name base path value, setup.keyword name base path value = some n

variable {setup : Setup} {means : Location → Node → Prop} {leads : Location → String → Location → Option String → Prop}
  {l : Location} {members : List (Scalar × Value)} {n c : Node}

private theorem means_of_parts {path : Pointer} {vs : List Value} {ns : List Node} (h : PartsOf means l path vs ns)
    (hc : c ∈ ns) : ∃ t, means t c := by
  obtain ⟨a, -, ha⟩ := exists_left_of_forall₂ h hc
  exact ⟨_, ha⟩

private theorem means_of_branch {name : String} {branch : Option Node} (h : BranchOf means l members name branch)
    (hc : c ∈ branch.toList) : ∃ t, means t c := by
  cases branch with
  | none => simp at hc
  | some m =>
    obtain ⟨v, -, hm⟩ := h
    rw [Option.toList_some, List.mem_singleton] at hc
    exact ⟨_, hc ▸ hm⟩

private theorem means_of_single {m : Node} {t : Location} (hm : means t m) (hc : c ∈ [m]) : ∃ t, means t c :=
  ⟨t, List.mem_singleton.1 hc ▸ hm⟩

/-- Right below the node of a keyword lie nodes that other locations mean, and nodes of a caller's own. -/
theorem mem_subnodes_of_keyword {keyword : Keyword} {name : String} {value : Value}
    (h : KeywordOf setup means leads l members keyword name value (some n)) (hc : c ∈ n.subnodes) :
    (∃ t, means t c) ∨ setup.Gives c := by
  cases h.node with
  | reference _ hm | negation hm | propertyNames hm | items _ hm | contains hm => exact .inl (means_of_single hm hc)
  | combination _ hns | itemsTuple hns => exact .inl (means_of_parts hns hc)
  | condition ht he hm =>
    rcases List.mem_cons.1 hc with rfl | hc
    · exact .inl ⟨_, hm⟩
    · rcases List.mem_append.1 hc with hc | hc
      · exact .inl (means_of_branch ht hc)
      · exact .inl (means_of_branch he hc)
  | properties hes | patternProperties hes =>
    obtain ⟨e, he, rfl⟩ := List.mem_map.1 hc
    obtain ⟨m, -, -, hm⟩ := exists_left_of_forall₂ hes he
    exact .inl ⟨_, hm⟩
  | givenFormat hformat => exact .inr (.inl ⟨_, _, _, hformat, hc⟩)
  | givenKeyword hkeyword =>
    rw [Node.subnodes, List.mem_singleton] at hc
    exact .inr (.inr ⟨_, _, _, _, hc ▸ hkeyword⟩)
  | _ => simp [Node.subnodes] at hc

/-- The node of a keyword is a reference only if the keyword is one. -/
theorem reference_of_keyword {keyword : Keyword} {name : String} {value : Value} {s : Site} {m : Node}
    {fragment : Option String}
    (h : KeywordOf setup means leads l members keyword name value (some (.reference s m fragment))) :
    keyword = .reference ∧ ReferenceOf means leads l value (.reference s m fragment) := by
  cases h.node with
  | reference hleads hm => exact ⟨rfl, _, _, _, _, rfl, hleads, hm, rfl⟩

/-- The node of a location is a constant or a group that stands there. -/
theorem Built.constant_or_group (h : Built setup means leads l n) :
    (∃ allows, n = .constant (l.site l.pointer) allows) ∨
      ∃ s children title description dialect, s.path = l.pointer ∧ n = .group s children title description dialect := by
  cases h.node with
  | constant => exact .inl ⟨_, rfl⟩
  | replaced => exact .inr ⟨_, _, _, _, _, rfl, rfl⟩
  | group _ hinner => exact .inr ⟨_, _, _, _, _, hinner.pointer, rfl⟩

/-- What is built for a location stands there. -/
theorem Built.path (h : Built setup means leads l n) : n.site.path = l.pointer := by
  rcases h.constant_or_group with ⟨allows, rfl⟩ | ⟨s, children, title, description, dialect, hpath, rfl⟩
  · rfl
  · exact hpath

theorem subnodes_neighbourNode (s : Site) (keyword : Keyword) (siblings : List Node) (m : Node) :
    (neighbourNode s keyword siblings m).subnodes = [m] := by
  unfold neighbourNode
  split <;> rfl

/-- The node of a member of an object: that of a keyword of its own, or of one that depends on its neighbours. -/
def MemberOf (setup : Setup) (means : Location → Node → Prop)
    (leads : Location → String → Location → Option String → Prop) (l : Location) (members : List (Scalar × Value))
    (name : String) (value : Value) (n : Node) : Prop :=
  KeywordOf setup means leads l members (.ofName name) name value (some n) ∨ (Keyword.ofName name).isLate = true ∧
    ∃ siblings m, means (l.part (l.pointer.child name) value) m ∧
      n = neighbourNode (l.site (l.pointer.child name)) (.ofName name) siblings m

/-- The children of an object are the nodes of its members. -/
theorem member_of_children {children : List Node} (h : ChildrenOf setup means leads l members children)
    (hc : c ∈ children) : ∃ name value, (.str name, value) ∈ members ∧ MemberOf setup means leads l members name value c := by
  obtain ⟨firsts, results, hfirsts, hresults, rfl⟩ := h
  obtain ⟨result, hresult, heq⟩ := List.mem_filterMap.1 hc
  cases heq
  obtain ⟨child, hchild, hlate⟩ := exists_left_of_forall₂ hresults hresult
  obtain ⟨⟨key, value⟩, hmember, name, hkey, hearly⟩ := exists_left_of_forall₂ hfirsts hchild
  cases hkey
  refine ⟨name, value, hmember, ?_⟩
  split at hearly
  · rename_i hislate
    cases hearly
    obtain ⟨m, hm, heq⟩ := hlate
    exact .inr ⟨hislate, _, m, hm, Option.some.inj heq⟩
  · obtain ⟨first, hfirst, heq⟩ := hearly
    cases heq
    cases hlate
    exact .inl hfirst

/-- A reference right below the node of a location is that of the object that lies there. -/
theorem Built.reference_of_mem {s : Site} {m : Node} {fragment : Option String} (h : Built setup means leads l n)
    (hmem : .reference s m fragment ∈ n.subnodes) : ∃ members inner ref t, l.value = .obj members ∧
      l.Inner members inner ∧ (.str "$ref", .str ref) ∈ members ∧ leads inner ref t fragment ∧ means t m ∧
      s = inner.site (inner.pointer.child "$ref") := by
  have hreference : ∃ members inner value, l.value = .obj members ∧ l.Inner members inner ∧
      (.str "$ref", value) ∈ members ∧ ReferenceOf means leads inner value (.reference s m fragment) := by
    cases h.node with
    | constant => simp [Node.subnodes] at hmem
    | replaced hvalue hinner _ href hr =>
      rw [Node.subnodes, List.mem_singleton] at hmem
      exact ⟨_, _, _, hvalue, hinner, mem_of_lookupKey href, hmem ▸ hr⟩
    | group hvalue hinner _ _ _ hchildren =>
      obtain ⟨name, value, hmember, hkeyword | ⟨-, siblings, k, -, heq⟩⟩ := member_of_children hchildren hmem
      · obtain ⟨hkeyword, hr⟩ := reference_of_keyword hkeyword
        exact ⟨_, _, value, hvalue, hinner, Keyword.eq_ref_of_ofName hkeyword ▸ hmember, hr⟩
      · unfold neighbourNode at heq
        split at heq <;> cases heq
  obtain ⟨members, inner, value, hvalue, hinner, hmember, ref, t, fragment', k, rfl, ht, hk, heq⟩ := hreference
  cases heq
  exact ⟨members, inner, ref, t, hvalue, hinner, hmember, ht, hk, rfl⟩

section All

variable {P : Node → Prop}

private theorem all_of_keyword (hmeans : ∀ t m, means t m → m.All P) (hgives : ∀ m, setup.Gives m → m.All P)
    {keyword : Keyword} {name : String} {value : Value} (hn : P n)
    (h : KeywordOf setup means leads l members keyword name value (some n)) : n.All P := by
  refine .intro hn fun m hm => ?_
  rcases mem_subnodes_of_keyword h hm with ⟨t, ht⟩ | hm
  · exact hmeans t m ht
  · exact hgives m hm

/-- The property holds in the trees of the children of an object. -/
theorem all_of_children (hmeans : ∀ t m, means t m → m.All P) (hgives : ∀ m, setup.Gives m → m.All P)
    (hneighbour : ∀ s keyword siblings m, P (neighbourNode s keyword siblings m))
    (hkeyword : ∀ {name value n}, (.str name, value) ∈ members →
      KeywordOf setup means leads l members (.ofName name) name value (some n) → P n) {children : List Node}
    (h : ChildrenOf setup means leads l members children) : ∀ c ∈ children, c.All P := by
  intro c hc
  obtain ⟨name, value, hmember, hkeywordOf | ⟨-, siblings, m, hm, rfl⟩⟩ := member_of_children h hc
  · exact all_of_keyword hmeans hgives (hkeyword hmember hkeywordOf) hkeywordOf
  · refine .intro (hneighbour _ _ _ _) fun k hk => ?_
    rw [subnodes_neighbourNode, List.mem_singleton] at hk
    exact hk ▸ hmeans _ _ hm

/-- The property holds in the tree of a location, if it holds in the trees of the nodes that the location is built from
and of those that are built for it. -/
theorem all_of_built (hmeans : ∀ t m, means t m → m.All P) (hgives : ∀ m, setup.Gives m → m.All P)
    (hconstant : ∀ s allows, P (.constant s allows))
    (hgroup : ∀ s children title description dialect, P (.group s children title description dialect))
    (hneighbour : ∀ s keyword siblings m, P (neighbourNode s keyword siblings m))
    (hkeyword : ∀ {inner members name value n}, l.value = .obj members → l.Inner members inner →
      (.str name, value) ∈ members → KeywordOf setup means leads inner members (.ofName name) name value (some n) → P n)
    (h : Built setup means leads l n) : n.All P := by
  cases h.node with
  | constant => exact .intro (hconstant _ _) (by simp [Node.subnodes])
  | @replaced members inner ref r hvalue hinner _ href hr =>
    have hreference : KeywordOf setup means leads inner members (.ofName "$ref") "$ref" ref (some r) := ⟨r, hr, rfl⟩
    refine .intro (hgroup _ _ _ _ _) fun c hc => ?_
    rw [Node.subnodes, List.mem_singleton] at hc
    subst hc
    exact all_of_keyword hmeans hgives (hkeyword hvalue hinner (mem_of_lookupKey href) hreference) hreference
  | group hvalue hinner _ _ _ hchildren =>
    exact .intro (hgroup _ _ _ _ _) (all_of_children hmeans hgives hneighbour (hkeyword hvalue hinner) hchildren)

end All

end Conform
