import Conform.Proofs.Compile.Reached
import Conform.Proofs.Compile.Reproduced

/-!
# Walking along keyword locations

The keyword location of an entry can be walked from the root of the document: each token steps into a member or an item,
except that `$ref` on an object goes on where that reference leads (`Session.Walks`).  A node that is asked about a part of
a value reports from a keyword location that leads to the schema it is built for, or to the keyword of one
(`Session.Backs`); so the keyword location of what it says leads to the place that the entry names
(`Schema.entries_walked`).

A place is known by the key of its document and by its pointer.  The walk goes astray only where two parts of documents
are read at one place (`Session.ReadsOnce`): where a document is loaded under the key of one without a URI, or where two
keys of an object have one text.
-/

namespace Conform

open Library (AtHand)

/-- The node of an item is that of a location where the item lies. -/
theorem PartsOf.at {means : Location → Node → Prop} {l : Location} {path : Pointer} {vs : List Value} {ns : List Node}
    (h : PartsOf means l path vs ns) {i : Nat} {n : Node} (hn : ns[i]? = some n) :
    ∃ v, vs[i]? = some v ∧ means (l.part (path.item i) v) n := by
  obtain ⟨hlength, h⟩ := List.forall₂_iff_get.1 h
  obtain ⟨hi, rfl⟩ := List.getElem?_eq_some_iff.1 hn
  have hvs : i < vs.length := by
    rw [List.length_zipIdx] at hlength
    omega
  have hmeans := h i (by rwa [List.length_zipIdx]) hi
  simp only [List.get_eq_getElem, List.getElem_zipIdx, Nat.zero_add] at hmeans
  exact ⟨vs[i], List.getElem?_eq_getElem hvs, hmeans⟩

theorem Regex.text_of_ofText {characters : CharacterNames} {text : String} {regex : Regex}
    (h : Regex.ofText characters text = .ok regex) : regex.text = text := by
  obtain ⟨pattern, -, rfl⟩ := map_eq_ok.1 h
  rfl

theorem keyword?_neighbourNode {name : String} (hlate : (Keyword.ofName name).isLate = true) (s : Site)
    (siblings : List Node) (m : Node) : (neighbourNode s (.ofName name) siblings m).keyword? = some name := by
  generalize hkeyword : Keyword.ofName name = keyword at hlate
  have hown := Keyword.eq_name_of_ofName hkeyword
  cases keyword with
  | additionalProperties | additionalItems => exact congrArg some (hown rfl).symm
  | _ => cases hlate

theorem site_neighbourNode (s : Site) (keyword : Keyword) (siblings : List Node) (m : Node) :
    (neighbourNode s keyword siblings m).site = s := by
  unfold neighbourNode
  split <;> rfl

/-- The node of a member stands and reports under its name, except that a conditional stands and reports as its object
does. -/
theorem MemberOf.stands {setup : Setup} {means : Location → Node → Prop}
    {leads : Location → String → Location → Option String → Prop} {l : Location} {members : List (Scalar × Value)}
    {name : String} {value : Value} {n : Node} (h : MemberOf setup means leads l members name value n) :
    n.keyword? = some name ∧ n.site = l.site (l.pointer.child name) ∨
      Keyword.ofName name = .condition ∧ n.keyword? = none ∧ n.site = l.site l.pointer := by
  rcases h with h | ⟨hlate, siblings, m, -, rfl⟩
  · generalize hkeyword : Keyword.ofName name = keyword at h
    by_cases hcondition : keyword = .condition
    · subst hcondition
      obtain ⟨t, e, c, -, -, -, heq⟩ := h
      cases heq
      exact .inr ⟨rfl, rfl, rfl⟩
    · refine .inl ⟨?_, ?_⟩
      · exact (keyword?_of_keywordOf hkeyword h).resolve_right fun h => hcondition h.1
      · exact (site_of_keyword hkeyword h).resolve_right fun h => hcondition h.1
  · exact .inl ⟨keyword?_neighbourNode hlate _ _ _, site_neighbourNode _ _ _ _⟩

/-- A `contains` stands under its name, and counts under the sizes beside it. -/
theorem MemberOf.contains {setup : Setup} {means : Location → Node → Prop}
    {leads : Location → String → Location → Option String → Prop} {l : Location} {members : List (Scalar × Value)}
    {name : String} {value : Value} {s : Site} {m : Node} {minimum maximum : Option Int}
    (h : MemberOf setup means leads l members name value (.contains s m minimum maximum)) :
    s = l.site (l.pointer.child "contains") ∧ SizeUnder members "minContains" minimum ∧
      SizeUnder members "maxContains" maximum := by
  rcases h.stands with ⟨hkeyword, hsite⟩ | ⟨-, hkeyword, -⟩
  · cases hkeyword
    rcases h with ⟨m, minimum, maximum, -, hmin, hmax, heq⟩ | ⟨hlate, -⟩
    · cases heq
      exact ⟨hsite, hmin, hmax⟩
    · cases hlate
  · cases hkeyword

/-- A value that lies in a document. -/
structure Spot where
  document : Document
  pointer : Pointer
  value : Value

/-- Where the location lies. -/
def Location.spot (l : Location) : Spot := ⟨l.document, l.pointer, l.value⟩

/-- The place is the one that the entry names: for a name that is missing, the place of the name in the list of those that
are required, where the entry names the list. -/
def Entry.PointsAt (e : Entry) (n : Node) (spot : Spot) : Prop :=
  match e.message with
  | .missingProperty name => ∃ (p : Pointer) (i : Nat), spot.pointer = (p.child "required").item i ∧
      spot.value = .str name ∧ e.absolute = n.site.absoluteOf? (p.child "required")
  | _ => e.absolute = n.site.absoluteOf? spot.pointer

theorem pointsAt_entry {n : Node} {r loc : Pointer} {m : Message} {spot : Spot} (hm : ∀ name, m ≠ .missingProperty name)
    (hspot : spot.pointer = n.site.path) : (n.entry r loc m).PointsAt n spot := by
  unfold Entry.PointsAt
  split
  · rename_i heq
    exact absurd heq (hm _)
  · rw [hspot]
    rfl

namespace Session

/-- The compilation of the document at its root comes to the location, as the session has it. -/
def Reaches (s : Session) (d : Document) (l : Location) : Prop := ∃ root, d.LocatedAt .root root ∧ s.ComesTo root l

/-- From the root of the document a keyword location leads there: from each token to the member or the item that it names,
but from `$ref` on an object to where that reference leads. -/
inductive Walks (s : Session) (d : Document) : Pointer → Spot → Prop where
  | root : Walks s d .root ⟨d, .root, d.content⟩
  | member {k p : Pointer} {e : Document} {ms : List (Scalar × Value)} {key : Scalar} {v : Value}
      (h : Walks s d k ⟨e, p, .obj ms⟩) (hv : (key, v) ∈ ms) (href : key = .str "$ref" → ∀ ref, v ≠ .str ref) :
    Walks s d (k.key key) ⟨e, p.key key, v⟩
  | item {k p : Pointer} {e : Document} {vs : List Value} {i : Nat} {v : Value} (h : Walks s d k ⟨e, p, .arr vs⟩)
      (hv : vs[i]? = some v) : Walks s d (k.item i) ⟨e, p.item i, v⟩
  | reference {k : Pointer} {l inner t : Location} {members : List (Scalar × Value)} {ref : String}
      {fragment : Option String} (h : Walks s d k l.spot) (hl : s.Reaches d l) (hvalue : l.value = .obj members)
      (hinner : l.Inner members inner) (href : (.str "$ref", .str ref) ∈ members) (ht : s.Leads inner ref t fragment) :
    Walks s d (k.child "$ref") t.spot

/-- One part of one document is read at each place. -/
def ReadsOnce (s : Session) (d : Document) : Prop :=
  ∀ l l', s.Reaches d l → s.Reaches d l' → l.place = l'.place → l.spot = l'.spot

/-- The node is filed under the place, for the compilation of the document at its root. -/
def Files (setup : Setup) (s : Session) (d : Document) : Place → Node → Prop := Filed setup (s.Reaches d) s.Leads

/-- The node that is asked is that of a schema, or of a member of one, and its keyword location leads there. -/
inductive Backs (setup : Setup) (s : Session) (d : Document) (q : Inquiry) : Prop where
  | schema {l : Location} (hl : s.Reaches d l) (hwalk : s.Walks d q.keyword l.spot)
      (hn : Files setup s d l.place q.node)
  | member {l inner : Location} {members : List (Scalar × Value)} {name : String} {value : Value} {k : Pointer}
      (hl : s.Reaches d l) (hvalue : l.value = .obj members) (hinner : l.Inner members inner)
      (hreplaced : l.isReplaced members = true → name = "$ref") (hmem : (.str name, value) ∈ members)
      (hwalk : s.Walks d k l.spot) (hkeyword : q.keyword = q.node.place k)
      (hn : MemberOf setup (fun t n => Files setup s d t.place n) s.Leads inner members name value q.node)

section Steps

variable {w : World} {options : Options} {s : Session} {d : Document} {q q' : Inquiry} {l inner t : Location}
  {members : List (Scalar × Value)} {name : String} {value : Value} {k : Pointer} {n : Node}

theorem Reaches.goes (hl : s.Reaches d l) (h : l.Goes s.Leads t) : s.Reaches d t := by
  obtain ⟨root, hroot, hcomes⟩ := hl
  exact ⟨root, hroot, hcomes.tail h⟩

/-- What is filed for a location has been built for a reading of the part that lies there. -/
theorem ReadsOnce.built {setup : Setup} (hone : s.ReadsOnce d) (hl : s.Reaches d l) (h : Files setup s d l.place n) :
    ∃ l', s.Reaches d l' ∧ l'.spot = l.spot ∧
      Built setup (fun t n => Files setup s d t.place n) s.Leads l' n := by
  obtain ⟨l', hl', hplace, hbuilt⟩ := Filed.cases h
  exact ⟨l', hl', hone l' l hl' hl hplace, hbuilt⟩

theorem ReadsOnce.isSchema {setup : Setup} (hone : s.ReadsOnce d) (hl : s.Reaches d l) (h : Files setup s d l.place n) :
    l.value.isSchema = true := by
  obtain ⟨l', -, hspot, hbuilt⟩ := hone.built hl h
  rw [← show l'.value = l.value from congrArg Spot.value hspot]
  exact Library.isSchema_of_built hbuilt

/-- A walk that comes to an object goes on to the value of a keyword. -/
theorem Walks.keyword (h : s.Walks d k l.spot) (hvalue : l.value = .obj members) (hmem : (.str name, value) ∈ members)
    (hname : name ≠ "$ref") : s.Walks d (k.child name) ⟨l.document, l.pointer.child name, value⟩ := by
  unfold Location.spot at h
  rw [hvalue] at h
  have hkey : Scalar.str name ≠ .str "$ref" := by
    rintro ⟨⟩
    exact hname rfl
  exact h.member hmem fun heq => absurd heq hkey

private theorem mem_parts {path : Pointer} {vs : List Value} {i : Nat} {v : Value} (hv : vs[i]? = some v) :
    l.part (path.item i) v ∈ l.parts path vs :=
  List.mem_map.2 ⟨(v, i), List.mem_zipIdx_iff_getElem?.2 hv, rfl⟩

private theorem ne_str_of_isSchema {v : Value} {p : Prop} (h : v.isSchema = true) : p → ∀ ref, v ≠ .str ref := by
  rintro - ref rfl
  cases h

/-- A node below that is built for a part of a schema, and reports from where the part lies. -/
private theorem backs_part {setup : Setup} (hl : s.Reaches d l) (hvalue : l.value = .obj members)
    (hinner : l.Inner members inner) (hreplaced : l.isReplaced members = false) {path r loc : Pointer} {v x : Value} {c : Node}
    (hpart : inner.part path v ∈ inner.subschemas members) (hwalk : s.Walks d r ⟨inner.document, path, v⟩)
    (hc : Files setup s d (inner.part path v).place c) : s.Backs setup d ⟨c, x, r, loc⟩ :=
  .schema (hl.goes (.part hvalue hreplaced hinner hpart)) hwalk hc

/-- A node of a keyword passes on what nodes find whose keyword locations lead to their schemas. -/
private theorem backs_of_keyword (hone : s.ReadsOnce d) (hl : s.Reaches d l) (hvalue : l.value = .obj members)
    (hinner : l.Inner members inner) (hreplaced : l.isReplaced members = true → name = "$ref")
    (hmem : (.str name, value) ∈ members) (hwalk : s.Walks d k l.spot) {keyword : Keyword}
    (hkeyword : Keyword.ofName name = keyword) {v : Value} {loc : Pointer}
    (hn : KeywordOf { world := w, options } (fun t n => Files { world := w, options } s d t.place n) s.Leads inner members
      keyword name value (some n)) (hpasses : Inquiry.PassesOn ⟨n, v, n.place k, loc⟩ q') :
    s.Backs { world := w, options } d q' := by
  -- Only the keyword of references stands beside a reference that replaces the object.
  have hkept : keyword ≠ .reference → name ≠ "$ref" ∧ l.isReplaced members = false := by
    intro hne
    have hname : name ≠ "$ref" := by
      rintro rfl
      exact hne hkeyword.symm
    exact ⟨hname, Bool.eq_false_iff.2 fun h => hname (hreplaced h)⟩
  have hunder : ∀ {name' v'}, (.str name', v') ∈ members → name' ≠ "$ref" →
      s.Walks d (k.child name') ⟨inner.document, inner.pointer.child name', v'⟩ := by
    intro name' v' hmem' hname'
    rw [hinner.document, hinner.pointer]
    exact hwalk.keyword hvalue hmem' hname'
  have hparts : ∀ {t}, t ∈ inner.keywordParts members keyword name value → t ∈ inner.subschemas members := by
    intro t ht
    refine List.mem_flatMap.2 ⟨_, hmem, ?_⟩
    rw [← hkeyword] at ht
    exact ht
  have hplace : keyword ≠ .condition → n.place k = k.child name := by
    intro hne
    rcases keyword?_of_keywordOf hkeyword hn with h | ⟨heq, -⟩
    · rw [Node.place, h]
    · exact absurd heq hne
  cases hn.node with
  | reference ht hc =>
    have hname := Keyword.eq_ref_of_ofName hkeyword
    subst hname
    cases hpasses
    exact .schema (hl.goes (.reference hvalue hinner hmem ht)) (.reference hwalk hl hvalue hinner hmem ht) hc
  | combination _ hns =>
    obtain ⟨hname, hreplaced⟩ := hkept (by simp)
    rw [hplace (by simp)] at hpasses
    cases hpasses with
    | combine hc =>
      obtain ⟨x, hx, hc⟩ := hns.at hc
      exact backs_part hl hvalue hinner hreplaced (hparts (mem_parts hx)) (.item (hunder hmem hname) hx) hc
  | condition ht he =>
    obtain ⟨hname, hreplaced⟩ := hkept (by simp)
    cases hpasses with
    | thenBranch =>
      obtain ⟨x, hx, hc⟩ := ht
      refine backs_part hl hvalue hinner hreplaced (hparts ?_) (hunder (mem_of_lookupKey hx) (by decide)) hc
      simp [Location.keywordParts, Location.branch, hx]
    | elseBranch =>
      obtain ⟨x, hx, hc⟩ := he
      refine backs_part hl hvalue hinner hreplaced (hparts ?_) (hunder (mem_of_lookupKey hx) (by decide)) hc
      simp [Location.keywordParts, Location.branch, hx]
  | properties hes =>
    obtain ⟨hname, hreplaced⟩ := hkept (by simp)
    rw [hplace (by simp)] at hpasses
    cases hpasses with
    | properties hc hw =>
      obtain ⟨⟨key, x⟩, hx, hkey, hc⟩ := exists_left_of_forall₂ hes hc
      cases hkey
      have hpart := hparts (List.mem_map_of_mem hx)
      have hschema := hone.isSchema (hl.goes (.part hvalue hreplaced hinner hpart)) hc
      exact backs_part hl hvalue hinner hreplaced hpart (.member (hunder hmem hname) hx (ne_str_of_isSchema hschema)) hc
  | patternProperties hes =>
    obtain ⟨hname, hreplaced⟩ := hkept (by simp)
    rw [hplace (by simp)] at hpasses
    cases hpasses with
    | patternProperties hc hw =>
      obtain ⟨⟨key, x⟩, hx, ⟨text, hkey, hregex⟩, hc⟩ := exists_left_of_forall₂ hes hc
      cases hkey
      rw [Regex.text_of_ofText hregex]
      have hpart := hparts (List.mem_map_of_mem hx)
      have hschema := hone.isSchema (hl.goes (.part hvalue hreplaced hinner hpart)) hc
      have hstep : s.Walks d ((k.child name).child text) ⟨inner.document, (inner.pointer.child name).child text, x⟩ :=
        .member (hunder hmem hname) hx (ne_str_of_isSchema hschema)
      exact backs_part hl hvalue hinner hreplaced hpart hstep hc
  | propertyNames hm =>
    obtain ⟨hname, hreplaced⟩ := hkept (by simp)
    rw [hplace (by simp)] at hpasses
    cases hpasses with
    | propertyNames hw =>
      exact backs_part hl hvalue hinner hreplaced (hparts (List.mem_singleton.2 rfl)) (hunder hmem hname) hm
  | itemsTuple hns =>
    obtain ⟨hname, hreplaced⟩ := hkept (by simp)
    rw [hplace (by simp)] at hpasses
    cases hpasses with
    | itemsTuple hc hw =>
      obtain ⟨x, hx, hc⟩ := hns.at hc
      exact backs_part hl hvalue hinner hreplaced (hparts (mem_parts hx)) (.item (hunder hmem hname) hx) hc
  | items harray hm =>
    obtain ⟨hname, hreplaced⟩ := hkept (by simp)
    rw [hplace (by simp)] at hpasses
    cases hpasses with
    | items hw =>
      refine backs_part hl hvalue hinner hreplaced (hparts ?_) (hunder hmem hname) hm
      cases value <;> first | exact List.mem_singleton.2 rfl | cases harray
  -- there are no keywords of a caller's own, and the nodes that are left pass nothing on
  | givenKeyword hgiven => cases hgiven
  | _ => cases hpasses

/-- A node of a keyword that depends on its neighbours passes on what a node finds whose keyword location leads to its
schema. -/
private theorem backs_of_neighbour {setup : Setup} (hl : s.Reaches d l) (hvalue : l.value = .obj members)
    (hinner : l.Inner members inner) (hreplaced : l.isReplaced members = true → name = "$ref")
    (hmem : (.str name, value) ∈ members) (hwalk : s.Walks d k l.spot) (hlate : (Keyword.ofName name).isLate = true)
    {site : Site} {siblings : List Node} {m : Node} {v : Value} {loc : Pointer}
    (hm : Files setup s d (inner.part (inner.pointer.child name) value).place m)
    (hpasses : Inquiry.PassesOn ⟨neighbourNode site (.ofName name) siblings m, v,
      (neighbourNode site (.ofName name) siblings m).place k, loc⟩ q') : s.Backs setup d q' := by
  have hname : name ≠ "$ref" := by
    rintro rfl
    cases hlate
  -- A reference that replaces its neighbours would be the only keyword left.
  have hkept : l.isReplaced members = false := Bool.eq_false_iff.2 fun h => hname (hreplaced h)
  have hpart : inner.part (inner.pointer.child name) value ∈ inner.subschemas members := Location.part_of_isLate hmem hlate
  have hwalk' : s.Walks d (k.child name) ⟨inner.document, inner.pointer.child name, value⟩ := by
    rw [hinner.document, hinner.pointer]
    exact hwalk.keyword hvalue hmem hname
  generalize hkeyword : Keyword.ofName name = keyword at hlate hpasses
  have hown := Keyword.eq_name_of_ofName hkeyword
  cases keyword with
  | additionalProperties =>
    have hname' : name = "additionalProperties" := hown rfl
    subst hname'
    cases hpasses
    exact backs_part hl hvalue hinner hkept hpart hwalk' hm
  | additionalItems =>
    have hname' : name = "additionalItems" := hown rfl
    subst hname'
    cases hpasses
    exact backs_part hl hvalue hinner hkept hpart hwalk' hm
  | _ => cases hlate

/-- What a node passes on is found by one whose keyword location leads to its schema, or to the keyword of one. -/
theorem Backs.passesOn (hone : s.ReadsOnce d) (h : s.Backs { world := w, options } d q) (hpasses : q.PassesOn q') :
    s.Backs { world := w, options } d q' := by
  obtain ⟨n, v, r, loc⟩ := q
  cases h with
  | schema hl hwalk hn =>
    rename_i l
    obtain ⟨l', hl', hspot, hbuilt⟩ := hone.built hl hn
    rw [← hspot] at hwalk
    cases hbuilt.node with
    | constant => cases hpasses
    | replaced hvalue hinner _ href hc =>
      cases hpasses with
      | group hmem =>
        cases List.mem_singleton.1 hmem
        exact .member hl' hvalue hinner (fun _ => rfl) (mem_of_lookupKey href) hwalk rfl (.inl ⟨_, hc, rfl⟩)
    | group hvalue hinner hreplaced _ _ hchildren =>
      cases hpasses with
      | group hmem =>
        obtain ⟨name, value, hmember, hof⟩ := member_of_children hchildren hmem
        exact .member hl' hvalue hinner (fun h => by simp [h] at hreplaced) hmember hwalk rfl hof
  | member hl hvalue hinner hreplaced hmem hwalk hkeyword hn =>
    obtain rfl : r = n.place _ := hkeyword
    rcases hn with hn | ⟨hlate, siblings, m, hm, rfl⟩
    · exact backs_of_keyword hone hl hvalue hinner hreplaced hmem hwalk rfl hn hpasses
    · exact backs_of_neighbour hl hvalue hinner hreplaced hmem hwalk hlate hm hpasses

theorem Backs.run (hone : s.ReadsOnce d) (h : s.Backs { world := w, options } d q)
    (hdown : Relation.ReflTransGen Inquiry.PassesOn q q') : s.Backs { world := w, options } d q' := by
  induction hdown with
  | refl => exact h
  | tail _ hpasses ih => exact ih.passesOn hone hpasses

/-! ### Where entries point -/

variable {setup : Setup} {means : Location → Node → Prop}
  {leads : Location → String → Location → Option String → Prop}

/-- The node of a member other than `$ref` stands where its keyword location leads. -/
private theorem walks_of_member (hvalue : l.value = .obj members) (hinner : l.Inner members inner)
    (hmem : (.str name, value) ∈ members) (hwalk : s.Walks d k l.spot)
    (hn : MemberOf setup means leads inner members name value n) (hreference : n.isReference = false) :
    ∃ spot, s.Walks d (n.place k) spot ∧ spot.pointer = n.site.path := by
  rcases hn.stands with ⟨hkeyword, hsite⟩ | ⟨-, hkeyword, hsite⟩
  · have hname : name ≠ "$ref" := by
      rintro rfl
      rcases hn with ⟨m, ⟨ref, t, fragment, c, -, -, -, rfl⟩, heq⟩ | ⟨hlate, -⟩
      · cases heq
        cases hreference
      · cases hlate
    refine ⟨⟨l.document, l.pointer.child name, value⟩, ?_, ?_⟩
    · rw [Node.place, hkeyword]
      exact hwalk.keyword hvalue hmem hname
    · rw [hsite, hinner.pointer]
      rfl
  · refine ⟨l.spot, ?_, ?_⟩
    · rw [Node.place, hkeyword]
      exact hwalk
    · rw [hsite, hinner.pointer]
      rfl

/-- What is said of the number of items points to where the size lies, beside `contains`. -/
private theorem pointsAt_size {site : Site} {m : Node} {minimum maximum size : Option Int} {r loc : Pointer}
    {problem : Message} {sized : String} (hvalue : l.value = .obj members) (hinner : l.Inner members inner)
    (hwalk : s.Walks d k l.spot) (hr : r = k.child "contains")
    (hn : MemberOf setup means leads inner members name value (.contains site m minimum maximum))
    (hunder : SizeUnder members sized size) (hsize : size.isSome = true) (hsized : sized ≠ "$ref")
    (hproblem : ∀ name, problem ≠ .missingProperty name) :
    ∃ spot, s.Walks d ((Node.contains site m minimum maximum).containsEntry r loc (some sized, problem)).keyword spot ∧
      ((Node.contains site m minimum maximum).containsEntry r loc (some sized, problem)).PointsAt
        (.contains site m minimum maximum) spot := by
  obtain ⟨b, rfl⟩ := Option.isSome_iff_exists.1 hsize
  obtain ⟨v, hv, -⟩ := hunder
  have hsite : site.path = l.pointer.child "contains" := by
    obtain ⟨hsite, -, -⟩ := hn.contains
    rw [hsite, hinner.pointer]
    rfl
  refine ⟨⟨l.document, l.pointer.child sized, v⟩, ?_, ?_⟩
  · show s.Walks d (r.sibling sized) _
    rw [hr, Node.sibling_child]
    exact hwalk.keyword hvalue (mem_of_lookupKey hv) hsized
  · unfold Entry.PointsAt
    split
    · rename_i heq
      exact absurd heq (hproblem _)
    · show site.absoluteOf? (site.path.sibling sized) = site.absoluteOf? (l.pointer.child sized)
      rw [hsite, Node.sibling_child]

/-- What is said of a name that is missing points to the name in the list under `required`. -/
private theorem pointsAt_missing {site : Site} {names : List String} {r loc : Pointer} {missing : String} {i : Nat}
    (hvalue : l.value = .obj members) (hinner : l.Inner members inner) (hmem : (.str name, value) ∈ members)
    (hwalk : s.Walks d k l.spot) (hr : r = k.child "required")
    (hn : MemberOf setup means leads inner members name value (.required site names)) (hi : names[i]? = some missing) :
    ∃ spot, s.Walks d (r.item i) spot ∧
      ((Node.required site names).entry (r.item i) loc (.missingProperty missing)).PointsAt (.required site names) spot := by
  rcases hn.stands with ⟨hkeyword, hsite⟩ | ⟨-, hkeyword, -⟩
  · cases hkeyword
    have hlist : ∃ texts, value.texts? = some texts ∧ texts = names := by
      rcases hn with ⟨texts, htexts, heq⟩ | ⟨hlate, -⟩
      · cases heq
        exact ⟨_, htexts, rfl⟩
      · cases hlate
    obtain ⟨texts, htexts, rfl⟩ := hlist
    obtain rfl := Value.eq_arr_of_texts? htexts
    have hlies := hwalk.keyword hvalue hmem (by decide)
    refine ⟨⟨l.document, (l.pointer.child "required").item i, .str missing⟩, ?_, l.pointer, i, rfl, rfl, ?_⟩
    · rw [hr]
      refine .item hlies ?_
      rw [List.getElem?_map, hi]
      rfl
    · show site.absolute? = site.absoluteOf? (l.pointer.child "required")
      rw [show site = _ from hsite, hinner.pointer]
      rfl
  · cases hkeyword

/-- What the node of a schema or of a member says points to where its keyword location leads. -/
theorem Backs.pointsAt {e : Entry} (hone : s.ReadsOnce d) (h : s.Backs setup d q) (hsaid : q.Says e) :
    ∃ spot, s.Walks d e.keyword spot ∧ e.PointsAt q.node spot := by
  cases h with
  | schema hl hwalk hn =>
    rename_i l
    obtain ⟨l', -, hspot, hbuilt⟩ := hone.built hl hn
    have hpath : l.spot.pointer = q.node.site.path := by
      rw [hbuilt.path, ← hspot]
      rfl
    cases hsaid with
    | own hn' hm => exact ⟨_, hwalk, pointsAt_entry (by rintro _ rfl; cases hm) hpath⟩
    | missing | additionalProperty | additionalItem | few | many =>
      rcases Built.constant_or_group hbuilt with ⟨_, heq⟩ | ⟨_, _, _, _, _, -, heq⟩
      · cases heq
      · cases heq
  | member hl hvalue hinner hreplaced hmem hwalk hkeyword hn =>
    rename_i l inner members name value k
    have hspot (hreference : q.node.isReference = false) : ∃ spot, s.Walks d q.keyword spot ∧
        spot.pointer = q.node.site.path := by
      rw [hkeyword]
      exact walks_of_member hvalue hinner hmem hwalk hn hreference
    cases hsaid with
    | own hn' hm =>
      obtain ⟨spot, hspot, hpath⟩ := hspot hn'
      exact ⟨spot, hspot, pointsAt_entry (by rintro _ rfl; cases hm) hpath⟩
    | missing hname => exact pointsAt_missing hvalue hinner hmem hwalk hkeyword hn hname
    | additionalProperty hw | additionalItem hw =>
      obtain ⟨spot, hspot, hpath⟩ := hspot rfl
      exact ⟨spot, hspot, pointsAt_entry (by rintro _ ⟨⟩) hpath⟩
    | few => exact pointsAt_size hvalue hinner hwalk hkeyword hn hn.contains.2.1 rfl (by decide) (by rintro _ ⟨⟩)
    | many => exact pointsAt_size hvalue hinner hwalk hkeyword hn hn.contains.2.2 rfl (by decide) (by rintro _ ⟨⟩)

end Steps

/-! ### Documents that are read once -/

section Once

variable {d : Document} {s t : Session}

/-- Each place is read as one part of one document, where the documents are JSON documents and none comes to be filed under
the key of the one that is compiled. -/
theorem readsOnce_of_json {setup : Setup} {schema : Schema} (hfresh : s.Fresh) (hbase : IsBase d.uri)
    (hcached : ∀ {uri d'}, s.loader.cache.lookup uri = some d' → AtHand setup.world (· = d) (.under uri d'.value))
    (hjson : ∀ d', AtHand setup.world (· = d) d' → d'.content.isJson = true)
    (hcompile : (Schema.compileAt setup d .root).run.run s = (.ok schema, t))
    (hkey : ∀ home, t.homes.lookup d.key = some home → home = ⟨d, .root⟩) : t.ReadsOnce d := by
  obtain ⟨-, -, -, hstock, -⟩ := hasCompiled_compileAt (spells_any _ (· = d)) rfl (fun _ _ => trivial) hbase hfresh hcached
    hcompile
  have hhouses : ∀ {l}, t.Reaches d l → Houses setup.world (· = d) (fun _ => True) t.homes l := by
    rintro l ⟨root, hroot, hcomes⟩
    have hstart : Houses setup.world (· = d) (fun _ => True) t.homes root :=
      houses_of_locatedAt (by rfl) (fun _ _ => trivial) hbase hroot t.homes
    exact hstart.comesTo (spells_any _ _) hstock hcomes
  -- A document is filed under its key, also the one that is compiled if another has that key.
  have hunique : ∀ {e e'}, Hosts setup.world (· = d) t.homes e → Hosts setup.world (· = d) t.homes e' → e.key = e'.key → e = e' := by
    rintro e e' he he' heq
    rcases he.filed with rfl | ⟨-, hfiled⟩
    · rcases he'.filed with rfl | ⟨-, hfiled'⟩
      · rfl
      · rw [← heq] at hfiled'
        exact (congrArg Home.document (hkey _ hfiled')).symm
    · rcases he'.filed with rfl | ⟨-, hfiled'⟩
      · rw [heq] at hfiled
        exact congrArg Home.document (hkey _ hfiled)
      · rw [heq, hfiled'] at hfiled
        exact (congrArg Home.document (Option.some.inj hfiled)).symm
  intro l l' hl hl' hplace
  have hdocument : l.document = l'.document :=
    hunique (hhouses hl).hosted (hhouses hl').hosted (congrArg Place.document hplace)
  have hpointer : l.pointer = l'.pointer := Location.pointer_of_place hplace
  have hlies : l.Lies := (hhouses hl).sits.eval (hjson _ (hhouses hl).hosted.atHand)
  have hlies' : l'.Lies := (hhouses hl').sits.eval (hjson _ (hhouses hl').hosted.atHand)
  unfold Location.spot
  rw [hdocument, hpointer, hlies.value_eq hlies' hdocument hpointer]

end Once

end Session

namespace Schema

/-- Every entry that a schema finds, which a session has compiled that had compiled nothing, has a keyword location that can
be read back from its fragment and that leads, from the root of the document and on through its references, to the place
that the entry names, under the URI of the node that says it. -/
theorem entries_walked {w : World} {options : Options} {d : Document} {s t : Session} {schema : Schema} (hfresh : s.Fresh)
    (hbase : IsBase d.uri) (hcompile : (compileAt { world := w, options } d .root).run.run s = (.ok schema, t))
    (hone : t.ReadsOnce d) {v : Value} {f : Findings} (hf : schema.root.findings v .root .root = .ok f) {e : Entry}
    (he : e ∈ f.entries) : Pointer.ofFragment e.keyword.schemaFragment = .ok e.keyword ∧
      ∃ q spot, Relation.ReflTransGen Inquiry.PassesOn (.start schema.root v) q ∧ q.Tells e ∧
        t.Walks d e.keyword spot ∧ e.PointsAt q.node spot := by
  have hcompiled := Session.hasCompiled_compileAt (spells_any _ fun _ => True) trivial
    (fun _ _ => trivial) hbase hfresh (fun _ => .inl (.inl trivial)) hcompile
  obtain ⟨root, hroot, hplace, -, hfiled⟩ := hcompiled
  have hreaches : t.Reaches d root := ⟨root, hroot, .refl⟩
  have hstart : t.Backs { world := w, options } d (.start schema.root v) := by
    refine .schema hreaches ?_ (hfiled.mono (fun l hl => ⟨root, hroot, hl⟩) fun _ _ _ _ h => h)
    have hvalue : root.value = d.content := (Except.ok.inj (Scope.eval_of_valueAt? hroot.value)).symm
    rw [Location.spot, hroot.document, hroot.pointer, hvalue]
    exact .root
  obtain ⟨q, g, hdown, hself, hg, heg⟩ := Inquiry.exists_reporter (q := .start schema.root v) hf he
  obtain ⟨spot, hspot, hpoints⟩ := (hstart.run hone hdown).pointsAt hone hself
  exact ⟨Pointer.ofFragment_schemaFragment _, q, spot, hdown, ⟨hself, g, hg, heg⟩, hspot, hpoints⟩

/-- A schema for lists of what a reference leads to, which must have two members. -/
def listsMembers : String :=
  r##"{"items": {"$ref": "#/$defs/a~1b"}, "$defs": {"a/b": {"required": ["x", "y"]}}}"##

/-- The name that is missing is found in the list behind the reference. -/
theorem entries_walked_lists : ∃ (D v : Value) (s t : Session) (schema : Schema) (f : Findings) (e : Entry),
    decodeText listsMembers = .ok D ∧ decodeText r#"[{"x": 0}]"# = .ok v ∧ s.Fresh ∧
    (compileAt { world := .ofTable [] } ⟨"urn:anonymous:1", none, D⟩ .root).run.run s = (.ok schema, t) ∧
    t.ReadsOnce ⟨"urn:anonymous:1", none, D⟩ ∧ schema.root.findings v .root .root = .ok f ∧ e ∈ f.entries ∧
    e.keyword = ⟨["items", "$ref", "required", "1"]⟩ ∧ Pointer.ofFragment e.keyword.schemaFragment = .ok e.keyword ∧
    ∃ q spot, Relation.ReflTransGen Inquiry.PassesOn (.start schema.root v) q ∧ q.Tells e ∧
      t.Walks ⟨"urn:anonymous:1", none, D⟩ e.keyword spot ∧ e.PointsAt q.node spot := by
  let s : Session := { registry := { anonymous := 1 } }
  obtain ⟨D, hD, h⟩ := exists_eq_ok_of_any (x := decodeText listsMembers)
    (p := fun D =>
      let compiled := (compileAt { world := .ofTable [] } ⟨"urn:anonymous:1", none, D⟩ .root).run.run s
      (compiled.2.homes.lookup "urn:anonymous:1").isNone &&
        compiled.1.toOption.any fun schema => (decodeText r#"[{"x": 0}]"#).toOption.any fun v =>
          (schema.root.findings v .root .root).toOption.any fun f =>
            f.entries.any (·.keyword == ⟨["items", "$ref", "required", "1"]⟩))
    (by decide +kernel)
  obtain ⟨hnone, h⟩ := Bool.and_eq_true_iff.1 h
  obtain ⟨schema, hschema, h⟩ := exists_eq_ok_of_any h
  obtain ⟨v, hv, h⟩ := exists_eq_ok_of_any h
  obtain ⟨f, hf, h⟩ := exists_eq_ok_of_any h
  obtain ⟨e, he, hkeyword⟩ := List.any_eq_true.1 h
  have hfresh : s.Fresh := ⟨rfl, rfl⟩
  have hbase : IsBase (none : Option String) := by rintro _ ⟨⟩
  have hcompile : (compileAt { world := .ofTable [] } ⟨"urn:anonymous:1", none, D⟩ .root).run.run s =
      (.ok schema, _) := Prod.ext hschema rfl
  have hjson : ∀ d, AtHand (.ofTable []) (· = ⟨"urn:anonymous:1", none, D⟩) d → d.content.isJson = true := by
    rintro d ((rfl | ⟨uri, v, ⟨r, hr, -⟩, -⟩) | ⟨uri, v, _, _, ⟨r, hr, -⟩, -⟩)
    · exact isJson_of_decodeText hD
    · cases (Loader.serves_table rfl).1 hr
    · cases (Loader.serves_table rfl).1 hr
  have hone := Session.readsOnce_of_json hfresh hbase (by rintro _ _ ⟨⟩) hjson hcompile fun home hhome => by
    rw [Option.isNone_iff_eq_none.1 hnone] at hhome
    cases hhome
  exact ⟨D, v, s, _, schema, f, e, hD, hv, hfresh, hcompile, hone, hf, he, beq_iff_eq.1 hkeyword,
    entries_walked hfresh hbase hcompile hone hf he⟩

/-- A document without a URI that refers into itself, and into one that is loaded under the key that it is filed under. -/
def refersToNamesake : String :=
  r##"{"$defs": {"x": {"type": "string"}}, "allOf": [{"$ref": "#/$defs/x"}, "## ++
    r#"{"$ref": "urn:anonymous:1#/$defs/x"}]}"#

/-- A document that is loaded under the key of one without a URI. -/
def namesakeAnswers : List (String × Answer) :=
  [("urn:anonymous:1", .found ⟨.text r#"{"$defs": {"x": {"maximum": 1}}}"#, none⟩)]

/-- The keyword location of an entry goes on from a reference to a `type`, where the reference leads to no `type`. -/
theorem entry_astray_of_namesake : ∃ (schema : Schema) (t : Session) (home : Home) (v : Value) (f : Findings) (e : Entry),
    (compileText { world := .ofTable namesakeAnswers } refersToNamesake none).run.run {} = (.ok schema, t) ∧
    schema.root.findings (.int 5) .root .root = .ok f ∧ e ∈ f.entries ∧
    e.keyword = ⟨["allOf", "1", "$ref", "type"]⟩ ∧ t.homes.lookup "urn:anonymous:1" = some home ∧
    (⟨["$defs", "x"]⟩ : Pointer).eval home.document.content = .ok v ∧ v.member? "type" = none := by
  have h : (fun compiled : Except Failure Schema × Session =>
      (compiled.1.toOption.any fun schema => (schema.root.findings (.int 5) .root .root).toOption.any fun f =>
        f.entries.any (·.keyword == ⟨["allOf", "1", "$ref", "type"]⟩)) &&
      (compiled.2.homes.lookup "urn:anonymous:1").any fun home =>
        ((⟨["$defs", "x"]⟩ : Pointer).eval home.document.content).toOption.any fun v => (v.member? "type").isNone)
      ((compileText { world := .ofTable namesakeAnswers } refersToNamesake none).run.run {}) = true := by
    decide +kernel
  generalize (compileText { world := .ofTable namesakeAnswers } refersToNamesake none).run.run {} = compiled at *
  obtain ⟨result, t⟩ := compiled
  obtain ⟨hentry, hhome⟩ := Bool.and_eq_true_iff.1 h
  obtain ⟨schema, hresult, hfinds⟩ := exists_eq_ok_of_any hentry
  obtain ⟨f, hf, hfound⟩ := exists_eq_ok_of_any hfinds
  obtain ⟨e, he, hkeyword⟩ := List.any_eq_true.1 hfound
  obtain ⟨home, hlookup, hvalue⟩ := (Option.any_eq_true _ _).1 hhome
  obtain ⟨v, hv, hnone⟩ := exists_eq_ok_of_any hvalue
  exact ⟨schema, t, home, v, f, e, Prod.ext hresult rfl, hf, he, beq_iff_eq.1 hkeyword, hlookup, hv,
    Option.isNone_iff_eq_none.1 hnone⟩

end Schema

end Conform
