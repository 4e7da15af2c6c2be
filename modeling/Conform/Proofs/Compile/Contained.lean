import Conform.Proofs.Compile.Extent

/-!
# Documents that need no other

The references of a contained document (`Document.Contained`) lead to the document itself or to parts of it that it has
under their names.  So the document alone tells where they lead (`Document.Leads`), which locations its compilation comes to
(`Document.ComesTo`) and what is filed for them (`Document.Files`).  Where the root is filed, so is all that it comes to,
each location at its own place (`Files.built`), and no location comes to itself (`Files.acyclic`).
-/

namespace Conform

/-- The location need not be described elsewhere, or it may be. -/
def Location.IsDescribed (setup : Setup) (l : Location) : Prop :=
  ∀ members, l.value = .obj members → l.isReplaced members = false → DescriptionAllowed setup members

namespace Document

/-- What the URIs of references name in the document, if it needs no other: the document itself, or a part of it. -/
inductive Names (d : Document) (uri : String) : Home → Prop where
  | whole (h : uri.isEmpty = true ∨ d.uri = some uri) : Names d uri ⟨d, .root⟩
  | part {p : Pointer} (hne : uri.isEmpty = false) (hown : d.uri ≠ some uri) (h : d.Claims uri ⟨d, p⟩) : Names d uri ⟨d, p⟩

/-- Where the references of the document lead, if it needs no other. -/
def Leads (d : Document) : Location → String → Location → Option String → Prop := TargetOf d.Names

/-- The compilation of one location of the document comes to the other. -/
def ComesTo (d : Document) : Location → Location → Prop := Relation.ReflTransGen (Location.Goes d.Leads)

/-- The document is JSON, and no two of its parts have one name, be it a URI or a plain name. -/
structure Distinct (d : Document) : Prop where
  json : d.content.isJson = true
  names : ∀ {uri p p'}, d.uri ≠ some uri → d.Claims uri ⟨d, p⟩ → d.Claims uri ⟨d, p'⟩ → p = p'
  anchors : ∀ {name p v p' v'}, (p, v) ∈ schemaObjects .root d.content → (p', v') ∈ schemaObjects .root d.content →
    hasAnchor name v = true → hasAnchor name v' = true → p = p'

/-- No two parts of the document have one name, and wherever its compilation comes to a reference, the reference names the
document or a part of it. -/
structure Contained (d : Document) : Prop extends Distinct d where
  refers : ∀ {root l uri}, d.LocatedAt .root root → d.ComesTo root l → l.Refers uri → ∃ home, d.Names uri home

/-- The location is one of the document, as the document has it. -/
structure Has (d : Document) (l : Location) : Prop where
  document : l.document = d
  lies : l.Lies
  based : l.Based
  dialect : d.dialect? = .ok l.dialect

variable {setup : Setup} {d : Document} {root l t inner : Location} {members : List (Scalar × Value)} {uri ref : String}
  {fragment : Option String} {home : Home} {p : Place} {n : Node}

theorem Names.document (h : d.Names uri home) : home.document = d := by
  cases h <;> rfl

/-- A URI names one home in a contained document. -/
theorem Contained.unambiguous (hd : d.Contained) : Scope.Unambiguous d.Names := by
  rintro uri _ _ (h | ⟨hne, hown, h⟩) (h' | ⟨hne', hown', h'⟩)
  · rfl
  · rcases h with h | h
    · rw [h] at hne'
      cases hne'
    · exact absurd h hown'
  · rcases h' with h' | h'
    · rw [h'] at hne
      cases hne
    · exact absurd h' hown
  · rw [hd.names hown h h']

theorem Contained.unique_target (hd : d.Contained) {t' : Location} {fragment' : Option String}
    (h : d.Leads l ref t fragment) (h' : d.Leads l ref t' fragment') : t = t' ∧ fragment = fragment' :=
  TargetOf.unique (fun _ uri _ home home' _ _ hhome hhome' => hd.unambiguous uri home home' hhome hhome') h h'

/-! ### Locations of a document -/

theorem LocatedAt.has {q : Pointer} (h : d.LocatedAt q l) : d.Has l := by
  obtain ⟨rfl, rfl, -, hdialect, hbase⟩ := id h
  exact ⟨rfl, h.lies, hbase, hdialect⟩

namespace Has

theorem isJson (hl : d.Has l) (hd : d.Contained) : l.value.isJson = true :=
  Pointer.isJson_of_eval hd.json (by simpa only [Location.Lies, hl.document] using hl.lies)

theorem membersJson (hl : d.Has l) (hd : d.Contained) (hvalue : l.value = .obj members) : membersJson members = true := by
  have hjson := hl.isJson hd
  rwa [hvalue] at hjson

/-- At one place the document has one location. -/
theorem eq (hl : d.Has l) (ht : d.Has t) (h : l.place = t.place) : l = t := by
  have hdialect : l.dialect = t.dialect := Except.ok.inj (hl.dialect.symm.trans ht.dialect)
  exact hl.based.ext ht.based hl.lies ht.lies (hl.document.trans ht.document.symm) (Location.pointer_of_place h) hdialect

theorem part (hl : d.Has l) (hd : d.Contained) (hwhole : l.Whole) (hvalue : l.value = .obj members)
    (hreplaced : l.isReplaced members = false) (hinner : l.Inner members inner) (ht : t ∈ inner.subschemas members) :
    d.Has t := by
  have hms := hl.membersJson hd hvalue
  obtain ⟨hdocument, -, hdialect⟩ := Location.of_mem_subschemas ht
  refine ⟨?_, ?_, ?_, ?_⟩
  · rw [hdocument, hinner.document, hl.document]
  · exact (hinner.lies hl.lies).part (hinner.value.trans hvalue) hms ht
  · exact hl.based.part hl.lies hvalue hms hreplaced hinner hwhole ht
  · rw [hdialect, hinner.dialect]
    exact hl.dialect

theorem target (hl : d.Has l) (hinner : l.Inner members inner) (ht : d.Leads inner ref t fragment) : d.Has t := by
  have hlies := TargetOf.lies ht
  obtain ⟨full, uri, home, -, -, hhome, -, -, hdocument, hbase, dialect, hdialect, heq⟩ := ht
  have hd : t.document = d := hdocument.trans hhome.document
  refine ⟨hd, hlies, hbase, ?_⟩
  have hold := hl.dialect
  rw [hd] at hdialect
  rw [hdialect] at hold ⊢
  rw [heq, hinner.dialect, ← Except.ok.inj hold]
  cases dialect <;> rfl

end Has

/-! ### What is filed -/

/-- The locations that the compilation of the document comes to from the root on, as the document has them, all of whose
parts can be schemas. -/
structure Visits (setup : Setup) (d : Document) (root l : Location) : Prop where
  comesTo : d.ComesTo root l
  has : d.Has l
  whole : l.Whole
  described : l.IsDescribed setup

/-- The node can come to be filed under the place when the document is compiled from the root on. -/
def Files (setup : Setup) (d : Document) (root : Location) : Place → Node → Prop :=
  Filed setup (d.Visits setup root) d.Leads

namespace Files

/-- Where the root is filed, so is all that it comes to, each location at its own place. -/
theorem built (hd : d.Contained) (hroot : d.Has root) (h : d.Files setup root root.place n) (hl : d.ComesTo root l) :
    d.Visits setup root l ∧ ∃ m, Built setup (fun t k => d.Files setup root t.place k) d.Leads l m := by
  have hown {l : Location} {m : Node} (hl : d.Has l) (h : d.Files setup root l.place m) :
      d.Visits setup root l ∧ Built setup (fun t k => d.Files setup root t.place k) d.Leads l m := by
    obtain ⟨l', hl', hplace, hm⟩ := h.cases
    cases hl.eq hl'.has hplace.symm
    exact ⟨hl', hm⟩
  -- The induction carries along that something is filed under the place of the location; `hown` says what.
  suffices h : d.Has l ∧ ∃ m, d.Files setup root l.place m by
    obtain ⟨hhas, m, hm⟩ := h
    exact ⟨(hown hhas hm).1, m, (hown hhas hm).2⟩
  induction hl with
  | refl => exact ⟨hroot, n, h⟩
  | tail _ hgo ih =>
    obtain ⟨hhas, m, hm⟩ := ih
    obtain ⟨hl, hbuilt⟩ := hown hhas hm
    cases hgo with
    | part hvalue hreplaced hinner hsub =>
      exact ⟨hhas.part hd hl.whole hvalue hreplaced hinner hsub, hbuilt.part hvalue hreplaced hinner hsub⟩
    | reference hvalue hinner href htarget =>
      obtain ⟨t, fragment, k, ht, hk⟩ :=
        hbuilt.reference hvalue hinner (lookupKey_of_mem (hhas.membersJson hd hvalue) href)
      obtain ⟨rfl, -⟩ := hd.unique_target htarget ht
      exact ⟨hhas.target hinner htarget, k, hk⟩

/-- Where the root is filed, no location that it comes to comes to its own place again. -/
theorem acyclic (hd : d.Contained) (hroot : d.Has root) (h : d.Files setup root root.place n) (hl : d.ComesTo root l)
    (hgo : Relation.TransGen (Location.Goes d.Leads) l t) : l.place ≠ t.place := by
  have hself {p : Place} {m : Node} (hm : d.Files setup root p m) :
      ∀ l, d.ComesTo root l → l.place = p → ¬Relation.TransGen (Location.Goes d.Leads) l l := by
    refine hm.induction (R := fun p _ => ∀ l, d.ComesTo root l → l.place = p →
      ¬Relation.TransGen (Location.Goes d.Leads) l l) fun l m hl hm l' hl' hplace hcycle => ?_
    cases (built hd hroot h hl').1.has.eq hl.has hplace
    -- The way back to the location goes on from a part or a target, which thus comes to itself, too.
    obtain ⟨t, hgo, hback⟩ := Relation.TransGen.head'_iff.1 hcycle
    have ht : d.ComesTo root t := hl'.tail hgo
    have hnext : ∀ l, d.ComesTo root l → l.place = t.place → ¬Relation.TransGen (Location.Goes d.Leads) l l := by
      cases hgo with
      | part hvalue hreplaced hinner hsub =>
        obtain ⟨k, hk⟩ := hm.part hvalue hreplaced hinner hsub
        exact hk.2
      | reference hvalue hinner href htarget =>
        obtain ⟨t', fragment, k, ht', hk⟩ :=
          hm.reference hvalue hinner (lookupKey_of_mem (hl.has.membersJson hd hvalue) href)
        obtain ⟨rfl, -⟩ := hd.unique_target htarget ht'
        exact hk.2
    exact hnext t ht rfl (Relation.TransGen.tail' hback hgo)
  intro hplace
  have hreached := (built hd hroot h hl).1
  have ht : d.ComesTo root t := Relation.ReflTransGen.trans hl hgo.to_reflTransGen
  obtain rfl := hreached.has.eq (built hd hroot h ht).1.has hplace
  obtain ⟨m, hm⟩ := (built hd hroot h hl).2
  exact hself (Filed.of_built hreached hm) l hl rfl hgo

/-- One node is filed for the root. -/
theorem unique {n' : Node} (hd : d.Contained) (hroot : d.Has root) (h : d.Files setup root root.place n)
    (h' : d.Files setup root root.place n') : n = n' := by
  have hf : Function.Involutive (id : Document → Document) := fun _ => rfl
  refine Filed.agree hf (d.ComesTo root) (fun l l' hl hl' hplace => ?_) (fun l l' hl hl' hplace => ?_)
    (fun l m t hl _ hgo => hl.tail hgo) (fun l members inner ref t fragment t' fragment' hl hvalue hinner href ht ht' => ?_)
    .refl h h'
  · exact (built hd hroot h hl).1.has.eq hl'.has hplace
  · exact (built hd hroot h hl).1.has.eq hl'.has hplace
  · obtain ⟨rfl, rfl⟩ := hd.unique_target ht ht'
    exact ⟨rfl, rfl⟩

end Files

end Document

end Conform
