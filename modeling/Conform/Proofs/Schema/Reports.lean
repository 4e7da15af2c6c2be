import Conform.Proofs.Fragment
import Conform.Proofs.Pointer
import Conform.Proofs.Schema.Elsewhere
import Conform.Proofs.Schema.Inquiry

/-!
# Where entries point

The location of an entry, read back from its fragment, leads to a part of the value.  Outside the names of members it
leads to the very part that the node was asked about that says the entry, so the entry can be had again by asking that
node about that part (`Node.reproduces_of_findings`).

Names of members have no location of their own: a node that is asked about a name is given the location of the member.
-/

namespace Conform

/-! ### Locations of inquiries -/

/-- The node asks about the names of members. -/
def Node.asksNames : Node → Bool
  | .propertyNames .. => true
  | _ => false

namespace Inquiry

variable {q q' : Inquiry} {D : Value}

/-- The value of the inquiry lies at its location. -/
def Addresses (D : Value) (q : Inquiry) : Prop := q.location.eval D = .ok q.value

/-- The location of the inquiry leads to something, and to its value unless that is the name of a member. -/
def LiesIn (D : Value) (q : Inquiry) : Prop :=
  q.Addresses D ∨ (∃ s, q.value = .scalar s) ∧ Returns (q.location.eval D)

theorem LiesIn.returns (h : q.LiesIn D) : Returns (q.location.eval D) := by
  rcases h with h | h
  · exact ⟨_, h⟩
  · exact h.2

theorem eval_key {p : Pointer} {ms : List (Scalar × Value)} {key : Scalar} {w : Value} (hD : D.isJson = true)
    (hp : p.eval D = .ok (.obj ms)) (hw : (key, w) ∈ ms) : (p.key key).eval D = .ok w := by
  have hms : membersJson ms = true := Pointer.isJson_of_eval hD hp
  obtain ⟨⟨name, rfl⟩, -⟩ := isJson_of_mem hms hw
  exact Pointer.eval_child hp (lookupKey_of_mem hms hw)

/-- What is found under a key of any kind among members under texts is the member under that text. -/
theorem member_of_lookupKey {ms : List (Scalar × Value)} {key : Scalar} {w : Value} (hms : membersJson ms = true)
    (hw : lookupKey key ms = some w) : (key, w) ∈ ms := by
  have hsome : ms.any (·.1.sameKey key) = true := by rw [← isSome_lookupKey, hw, Option.isSome_some]
  obtain ⟨m, hm, hsame⟩ := List.any_eq_true.1 hsome
  obtain ⟨name, hname⟩ := (isJson_of_mem hms hm).1
  rw [hname] at hsame
  cases key with
  | str name => exact mem_of_lookupKey hw
  | null | bool | num | bytes => simp [Scalar.sameKey, Scalar.keyNumber?] at hsame

/-- What a node passes on is about the part that lies there, unless it asks about names. -/
theorem Addresses.passesOn (hD : D.isJson = true) (h : q.Addresses D) (hpasses : q.PassesOn q')
    (hnames : q.node.asksNames = false) : q'.Addresses D := by
  cases hpasses with
  | combine | group | thenBranch | elseBranch | reference | delegating => exact h
  | properties hn hw => exact eval_key hD h (member_of_lookupKey (Pointer.isJson_of_eval hD h) hw)
  | patternProperties hn hw => exact eval_key hD h hw
  | additionalProperties hw => exact eval_key hD h hw
  | propertyNames => cases hnames
  | items hw | itemsTuple hn hw | additionalItems hw => exact Pointer.eval_item h hw

theorem LiesIn.passesOn (hD : D.isJson = true) (h : q.LiesIn D) (hpasses : q.PassesOn q') : q'.LiesIn D := by
  rcases h with h | ⟨⟨s, hs⟩, hreturns⟩
  · cases hnames : q.node.asksNames with
    | false => exact .inl (h.passesOn hD hpasses hnames)
    | true =>
      cases hpasses with
      | propertyNames hw => exact .inr ⟨⟨_, rfl⟩, _, eval_key hD h hw⟩
      | _ => cases hnames
  · -- A name has no parts, so the location stays that of the member.
    cases hpasses with
    | combine | group | thenBranch | elseBranch | reference | delegating => exact .inr ⟨⟨s, hs⟩, hreturns⟩
    | _ => cases hs

/-- The node passes on what is not about a name. -/
def PassesOnParts (q q' : Inquiry) : Prop := q.PassesOn q' ∧ q.node.asksNames = false

/-- What a node is asked about a whole value, from the root on. -/
def start (n : Node) (D : Value) : Inquiry := ⟨n, D, .root, .root⟩

/-- A node further down says the entry, in findings of its own. -/
def Tells (q : Inquiry) (e : Entry) : Prop := q.Says e ∧ ∃ f, q.Finds f ∧ e ∈ f.entries

theorem liesIn_of_passesOn (hD : D.isJson = true) {n : Node} (h : Relation.ReflTransGen PassesOn (start n D) q) :
    q.LiesIn D := by
  induction h with
  | refl => exact .inl rfl
  | tail _ hpasses ih => exact ih.passesOn hD hpasses

theorem addresses_of_passesOnParts (hD : D.isJson = true) {n : Node}
    (h : Relation.ReflTransGen PassesOnParts (start n D) q) : q.Addresses D := by
  induction h with
  | refl => rfl
  | tail _ hpasses ih => exact ih.passesOn hD hpasses.1 hpasses.2

/-- What a node says lies in the value, where the inquiry does. -/
theorem Says.returns (hD : D.isJson = true) {e : Entry} (h : q.Says e) (hq : q.LiesIn D) :
    Returns (e.location.eval D) := by
  cases h with
  | own | missing | few | many => exact hq.returns
  | additionalProperty hw =>
    rcases hq with hq | ⟨⟨s, hs⟩, -⟩
    · exact ⟨_, eval_key hD hq hw⟩
    · cases hs
  | additionalItem hw =>
    rcases hq with hq | ⟨⟨s, hs⟩, -⟩
    · exact ⟨_, Pointer.eval_item hq hw⟩
    · cases hs

end Inquiry

/-! ### Having an entry again -/

/-- The entry is about the value at the location: its own, or for a part that is not allowed the one above. -/
def Entry.IsAbout (e : Entry) (p : Pointer) : Prop :=
  match e.message with
  | .additionalProperty _ | .additionalItem _ => ∃ token, e.location = p.child token
  | _ => e.location = p

namespace Node

/-- A `contains` stands under its keyword. -/
def IsPlaced : Node → Prop
  | .contains s .. => ∃ p : Pointer, s.path = p.child "contains"
  | _ => True

/-- The node stands where the entry says; for a number of items, under the keyword beside the one that it names. -/
def StandsAt (n : Node) (e : Entry) : Prop :=
  match e.message with
  | .containsFew .. => ∃ p : Pointer, n.site.path = p.child "contains" ∧
      e.absolute = n.site.absoluteOf? (p.child "minContains")
  | .containsMany .. => ∃ p : Pointer, n.site.path = p.child "contains" ∧
      e.absolute = n.site.absoluteOf? (p.child "maxContains")
  | _ => e.absolute = n.site.absolute?

/-- The node is one of the tree. -/
def Has (n m : Node) : Prop := Relation.ReflTransGen (fun a b => b ∈ a.subnodes) n m

/-- A node of the tree, asked about the part of the value that the entry is about, finds the same wrong. -/
def Reproduces (n : Node) (D : Value) (e : Entry) : Prop :=
  ∃ m p w g, n.Has m ∧ m.StandsAt e ∧ e.IsAbout p ∧ p.eval D = .ok w ∧ m.findings w .root .root = .ok g ∧
    g.valid = false ∧ e.message ∈ g.entries.map (·.message)

theorem Has.all {P : Node → Prop} {n m : Node} (h : n.Has m) (hn : n.All P) : m.All P := by
  induction h with
  | refl => exact hn
  | tail _ hmem ih => exact ih.sub hmem

theorem sibling_child (p : Pointer) (a b : String) : (p.child a).sibling b = p.child b := by
  simp [Pointer.sibling, Pointer.child]

end Node

namespace Inquiry

variable {q : Inquiry} {D : Value} {e : Entry} {n : Node}

theorem has_of_passesOnParts {q' : Inquiry} (h : Relation.ReflTransGen PassesOnParts q q') : q.node.Has q'.node := by
  induction h with
  | refl => exact .refl
  | tail _ hpasses ih => exact ih.tail (mem_subnodes_of_passesOn hpasses.1)

theorem Says.standsAt (h : q.Says e) (hq : q.node.IsPlaced) : q.node.StandsAt e := by
  cases h with
  | own hn hm =>
    rename_i m
    cases m <;> first | rfl | cases hm
  | missing | additionalProperty | additionalItem => rfl
  | few =>
    obtain ⟨p, hp⟩ := hq
    exact ⟨p, hp, by rw [← Node.sibling_child p "contains", ← hp]; rfl⟩
  | many =>
    obtain ⟨p, hp⟩ := hq
    exact ⟨p, hp, by rw [← Node.sibling_child p "contains", ← hp]; rfl⟩

theorem Says.isAbout (h : q.Says e) : e.IsAbout q.location := by
  cases h with
  | own hn hm =>
    rename_i m
    cases m <;> first | rfl | cases hm
  | missing | few | many => rfl
  | additionalProperty | additionalItem => exact ⟨_, rfl⟩

end Inquiry

/-- Every entry points into the value and is said by a node of the tree; and where no name of a member was asked about
on the way, a node of the tree finds the same wrong with the part that the entry is about. -/
theorem Node.reproduces_of_findings {n : Node} (hn : n.All Node.IsPlaced) {D : Value} (hD : D.isJson = true) {f : Findings}
    (hf : n.findings D .root .root = .ok f) {e : Entry} (he : e ∈ f.entries) :
    Pointer.ofFragment e.location.schemaFragment = .ok e.location ∧ Returns (e.location.eval D) ∧
      (∃ q, Relation.ReflTransGen Inquiry.PassesOn (.start n D) q ∧ q.Tells e) ∧
      ∀ q, Relation.ReflTransGen Inquiry.PassesOnParts (.start n D) q → q.Tells e → n.Reproduces D e := by
  obtain ⟨q, g, hdown, hself, hg, heg⟩ := Inquiry.exists_reporter (q := .start n D) hf he
  have hlies : q.LiesIn D := Inquiry.liesIn_of_passesOn hD hdown
  refine ⟨Pointer.ofFragment_schemaFragment _, hself.returns hD hlies, ⟨q, hdown, hself, g, hg, heg⟩, ?_⟩
  rintro q hparts ⟨hself, g, hg, heg⟩
  have hhas : n.Has q.node := Inquiry.has_of_passesOnParts hparts
  obtain ⟨g', hg', hgist⟩ := Node.gist_findings hg .root .root
  obtain ⟨hvalid, hmessages⟩ := Prod.mk.inj hgist
  have hinvalid : g.valid = false := by
    have hhonest := ((Node.agrees q.node).findings hg).1
    rw [hhonest, List.isEmpty_eq_false_iff]
    exact List.ne_nil_of_mem heg
  refine ⟨q.node, q.location, q.value, g', hhas, hself.standsAt (hhas.all hn).self, hself.isAbout,
    Inquiry.addresses_of_passesOnParts hD hparts, hg', hvalid.trans hinvalid, ?_⟩
  change e.message ∈ messages g'.entries
  rw [hmessages]
  exact List.mem_map_of_mem heg

end Conform
