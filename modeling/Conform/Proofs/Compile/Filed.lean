import Conform.Proofs.Compile.Building
import Conform.Proofs.Compile.Locations

/-!
# What a session can come to file

`Filed good leads p n`: the node `n` can come to be filed under the place `p`.  It is the least relation that is closed
under building: a node is filed that is built for a good location at the place, from nodes that are filed under the
places of its parts and targets.  So it has an induction rule (`Filed.induction`), and every filed node has been built
(`Filed.cases`).
-/

namespace Conform

/-! ### Going from location to location -/

/-- The compilation of a location comes to another one right away, where references lead there: to a subschema, or to
what a reference leads to. -/
inductive Location.Goes (leads : Location → String → Location → Option String → Prop) (l : Location) :
    Location → Prop where
  | part {members : List (Scalar × Value)} {inner sub : Location} (hvalue : l.value = .obj members)
      (hreplaced : l.isReplaced members = false) (hinner : l.Inner members inner)
      (hsub : sub ∈ inner.subschemas members) : Goes leads l sub
  | reference {members : List (Scalar × Value)} {inner t : Location} {ref : String} {fragment : Option String}
      (hvalue : l.value = .obj members) (hinner : l.Inner members inner) (href : (.str "$ref", .str ref) ∈ members)
      (htarget : leads inner ref t fragment) : Goes leads l t

/-! ### Where more is meant -/

section Mono

variable {setup : Setup} {means means' : Location → Node → Prop}
  {leads leads' : Location → String → Location → Option String → Prop} {l : Location} {members : List (Scalar × Value)}
  {n : Node}

theorem ReferenceOf.mono {value : Value} (hmeans : ∀ l n, means l n → means' l n)
    (hleads : ∀ ref t fragment, leads l ref t fragment → leads' l ref t fragment)
    (h : ReferenceOf means leads l value n) : ReferenceOf means' leads' l value n := by
  obtain ⟨ref, t, fragment, m, href, hl, hm, rfl⟩ := h
  exact ⟨ref, t, fragment, m, href, hleads _ _ _ hl, hmeans _ _ hm, rfl⟩

theorem BranchOf.mono {name : String} {branch : Option Node} (hmeans : ∀ l n, means l n → means' l n)
    (h : BranchOf means l members name branch) : BranchOf means' l members name branch := by
  cases branch with
  | none => exact h
  | some n =>
    obtain ⟨v, hv, hn⟩ := h
    exact ⟨v, hv, hmeans _ _ hn⟩

theorem PartsOf.mono {path : Pointer} {vs : List Value} {ns : List Node} (hmeans : ∀ l n, means l n → means' l n)
    (h : PartsOf means l path vs ns) : PartsOf means' l path vs ns :=
  h.imp fun _ _ => hmeans _ _

/-- The node of a keyword stays its node where more is meant. -/
theorem KeywordOf.mono {keyword : Keyword} {name : String} {value : Value} {result : Option Node}
    (hmeans : ∀ l n, means l n → means' l n)
    (hleads : ∀ ref t fragment, leads l ref t fragment → leads' l ref t fragment)
    (h : KeywordOf setup means leads l members keyword name value result) :
    KeywordOf setup means' leads' l members keyword name value result := by
  cases keyword with
  | passive | unknown | additionalProperties | additionalItems | type | enum | const | required | uniqueItems | limit
    | size | pattern | format | default | extension => exact h
  | reference =>
    obtain ⟨n, hn, rfl⟩ := h
    exact ⟨n, hn.mono hmeans hleads, rfl⟩
  | combination counting =>
    obtain ⟨vs, ns, hvs, hne, hns, rfl⟩ := h
    exact ⟨vs, ns, hvs, hne, hns.mono hmeans, rfl⟩
  | negation | propertyNames =>
    obtain ⟨n, hn, rfl⟩ := h
    exact ⟨n, hmeans _ _ hn, rfl⟩
  | condition =>
    obtain ⟨t, e, c, ht, he, hc, rfl⟩ := h
    exact ⟨t, e, c, ht.mono hmeans, he.mono hmeans, hmeans _ _ hc, rfl⟩
  | properties =>
    obtain ⟨ms, es, hms, hes, rfl⟩ := h
    exact ⟨ms, es, hms, hes.imp fun _ _ h => ⟨h.1, hmeans _ _ h.2⟩, rfl⟩
  | patternProperties =>
    obtain ⟨ms, es, hms, hes, rfl⟩ := h
    exact ⟨ms, es, hms, hes.imp fun _ _ h => ⟨h.1, hmeans _ _ h.2⟩, rfl⟩
  | items =>
    rcases h with ⟨vs, ns, hvs, hns, rfl⟩ | ⟨harr, n, hn, rfl⟩
    · exact .inl ⟨vs, ns, hvs, hns.mono hmeans, rfl⟩
    · exact .inr ⟨harr, n, hmeans _ _ hn, rfl⟩
  | contains =>
    obtain ⟨n, minimum, maximum, hn, hmin, hmax, rfl⟩ := h
    exact ⟨n, minimum, maximum, hmeans _ _ hn, hmin, hmax, rfl⟩

theorem EarlyOf.mono {member : Scalar × Value} {child : Scope.Child} (hmeans : ∀ l n, means l n → means' l n)
    (hleads : ∀ ref t fragment, leads l ref t fragment → leads' l ref t fragment)
    (h : EarlyOf setup means leads l members member child) : EarlyOf setup means' leads' l members member child := by
  obtain ⟨name, hname, h⟩ := h
  refine ⟨name, hname, ?_⟩
  split
  · rwa [if_pos ‹_›] at h
  · rw [if_neg ‹_›] at h
    obtain ⟨result, hresult, hchild⟩ := h
    exact ⟨result, hresult.mono hmeans hleads, hchild⟩

theorem LateOf.mono {siblings : List Node} {child : Scope.Child} {result : Option Node}
    (hmeans : ∀ l n, means l n → means' l n) (h : LateOf means l siblings child result) :
    LateOf means' l siblings child result := by
  cases child with
  | early node => exact h
  | late keyword name value =>
    obtain ⟨n, hn, rfl⟩ := h
    exact ⟨n, hmeans _ _ hn, rfl⟩

theorem GroupOf.mono (hmeans : ∀ l n, means l n → means' l n)
    (hleads : ∀ ref t fragment, leads l ref t fragment → leads' l ref t fragment)
    (h : GroupOf setup means leads l members n) : GroupOf setup means' leads' l members n := by
  obtain ⟨title, description, children, htitle, hdescription, ⟨firsts, results, hfirsts, hresults, hchildren⟩, rfl⟩ := h
  refine ⟨title, description, children, htitle, hdescription, ⟨firsts, results, ?_, ?_, hchildren⟩, rfl⟩
  · exact hfirsts.imp fun _ _ h => h.mono hmeans hleads
  · exact hresults.imp fun _ _ h => h.mono hmeans

/-- What is built is built where more is meant, and references lead further. -/
theorem Built.mono (hmeans : ∀ l n, means l n → means' l n)
    (hleads : ∀ l ref t fragment, leads l ref t fragment → leads' l ref t fragment)
    (h : Built setup means leads l n) : Built setup means' leads' l n := by
  unfold Built at h ⊢
  split at h
  · exact h
  · obtain ⟨hroot, inner, hinner, h⟩ := h
    refine ⟨hroot, inner, hinner, ?_⟩
    split
    · rw [if_pos ‹_›] at h
      obtain ⟨ref, r, href, hr, rfl⟩ := h
      exact ⟨ref, r, href, hr.mono hmeans (hleads inner), rfl⟩
    · rw [if_neg ‹_›] at h
      exact h.mono hmeans (hleads inner)
  · exact h.elim

end Mono

/-! ### The least relation -/

/-- The node can come to be filed under the place, where these locations are compiled and references lead there. -/
def Filed (setup : Setup) (good : Location → Prop) (leads : Location → String → Location → Option String → Prop)
    (p : Place) (n : Node) : Prop :=
  ∀ R : Place → Node → Prop, (∀ l n, good l → Built setup (fun t m => R t.place m) leads l n → R l.place n) → R p n

namespace Filed

variable {setup : Setup} {good : Location → Prop} {leads : Location → String → Location → Option String → Prop}
  {l : Location} {p : Place} {n : Node}

theorem of_built (hl : good l) (h : Built setup (fun t m => Filed setup good leads t.place m) leads l n) :
    Filed setup good leads l.place n := by
  intro R hR
  exact hR l n hl (h.mono (fun t m hm => hm R hR) fun _ _ _ _ h => h)

/-- What holds of everything that is built from filed nodes for which it holds, holds of all filed nodes. -/
theorem induction {R : Place → Node → Prop} (hR : ∀ l n, good l →
      Built setup (fun t m => Filed setup good leads t.place m ∧ R t.place m) leads l n → R l.place n)
    (h : Filed setup good leads p n) : R p n := by
  suffices h : Filed setup good leads p n ∧ R p n from h.2
  refine h (fun p n => Filed setup good leads p n ∧ R p n) fun l n hl hn => ⟨?_, hR l n hl hn⟩
  exact of_built hl (hn.mono (fun _ _ h => h.1) fun _ _ _ _ h => h)

theorem mono {good' : Location → Prop} {leads' : Location → String → Location → Option String → Prop}
    (hgood : ∀ l, good l → good' l) (hleads : ∀ l ref t fragment, leads l ref t fragment → leads' l ref t fragment)
    (h : Filed setup good leads p n) : Filed setup good' leads' p n :=
  h.induction fun _ _ hl hn => of_built (hgood _ hl) (hn.mono (fun _ _ h => h.2) hleads)

/-- A node that is filed has been built. -/
theorem cases (h : Filed setup good leads p n) : ∃ l, good l ∧ l.place = p ∧
    Built setup (fun t m => Filed setup good leads t.place m) leads l n := by
  refine h.induction (R := fun p n => ∃ l, good l ∧ l.place = p ∧
    Built setup (fun t m => Filed setup good leads t.place m) leads l n) fun l n hl hn => ⟨l, hl, rfl, ?_⟩
  exact hn.mono (fun _ _ h => h.1) fun _ _ _ _ h => h

end Filed

end Conform
