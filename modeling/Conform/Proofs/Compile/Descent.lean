import Conform.Proofs.Compile.Contained
import Conform.Proofs.Compile.Kept
import Conform.Proofs.Compile.Reached
import Conform.Proofs.Compile.Resources

/-!
# Bases on the way down

A compilation hands the URI in force from each object on to its parts, and looks it up in the document where a reference
leads.  All that is filed has been compiled on a way down from where the compilation started (`Session.Descends`,
`Session.runs_compile_descending`).  So in a document whose objects have texts for keys both come to the same: every
location that the compilation comes to is under the base that the document has in force there, and every node reports
under that base with the name of its own object applied (`Schema.bases_of_compileAt`).

Under another key than a text the document has no base in force but the one above: there a location is compiled under
one URI and found under another (`Schema.compileText_numbered`).
-/

namespace Conform

namespace Session

variable {setup : Setup} {s t u : Session} {root l x : Location} {n : Node}

/-! ### Ways down -/

/-- The node of the location is filed, and has been built for it from nodes that are filed. -/
def Compiled (setup : Setup) (t : Session) (l : Location) (n : Node) : Prop :=
  t.registry.Holds l n ∧ Built setup t.registry.Holds t.Leads l n

/-- The compilation of the one location comes down to the other, through locations that have been compiled. -/
def Descends (setup : Setup) (t : Session) : Location → Location → Prop :=
  Relation.ReflTransGen fun l x => (∃ n, t.Compiled setup l n) ∧ l.Goes t.Leads x

section On

variable (hholds : ∀ l n, s.registry.Holds l n → t.registry.Holds l n) (hext : Extends s.homes t.homes)

include hext

theorem goes_on (h : l.Goes s.Leads x) : l.Goes t.Leads x := h.mono fun _ _ _ _ hleads => hleads.on hext

include hholds

theorem Compiled.on (h : s.Compiled setup l n) : t.Compiled setup l n :=
  ⟨hholds l n h.1, h.2.mono hholds fun _ _ _ _ hleads => hleads.on hext⟩

theorem Descends.on (h : s.Descends setup l x) : t.Descends setup l x :=
  Relation.ReflTransGen.mono (fun _ _ ⟨⟨n, hn⟩, hgo⟩ => ⟨⟨n, hn.on hholds hext⟩, goes_on hext hgo⟩) _ _ h

end On

theorem Descends.comesTo (h : t.Descends setup l x) : t.ComesTo l x :=
  Relation.ReflTransGen.mono (fun _ _ hstep => hstep.2) _ _ h

/-- The session has grown: what is filed stays, and what is new has been compiled on a way down from one of the
locations where ways start. -/
structure Grows (setup : Setup) (starts : Session → Location → Prop) (s t : Session) : Prop where
  homes : Extends s.homes t.homes
  registry : s.registry.Within t.registry
  new : ∀ {p n}, t.registry.node? p = some n → s.registry.node? p = some n ∨
    ∃ l x, starts t l ∧ t.Descends setup l x ∧ x.place = p ∧ t.Compiled setup x n

variable {starts : Session → Location → Prop}

/-- A session grows where only homes are added to it. -/
theorem Grows.of_registry (hhomes : Extends s.homes t.homes) (h : t.registry = s.registry) :
    s.Grows setup starts t where
  homes := hhomes
  registry := by
    rw [h]
    exact .refl _
  new hn := by
    rw [h] at hn
    exact .inl hn

/-- The ways that start somewhere still start there when homes are added. -/
def Lasting (starts : Session → Location → Prop) : Prop :=
  ∀ s t l, Extends s.homes t.homes → starts s l → starts t l

theorem Grows.trans (hstarts : Lasting starts) (h : s.Grows setup starts t) (h' : t.Grows setup starts u) :
    s.Grows setup starts u where
  homes := h.homes.trans h'.homes
  registry p state hp := h'.registry p state (h.registry p state hp)
  new hn := by
    have hholds : ∀ l n, t.registry.Holds l n → u.registry.Holds l n := fun _ _ hn => h'.registry.holds hn
    rcases h'.new hn with hn | hnew
    · refine (h.new hn).imp_right fun ⟨l, x, hl, hx, hplace, hcompiled⟩ => ?_
      exact ⟨l, x, hstarts _ _ _ h'.homes hl, hx.on hholds h'.homes, hplace, hcompiled.on hholds h'.homes⟩
    · exact .inr hnew

/-- The course of computations that compile only what lies on ways from certain locations down. -/
def descending (setup : Setup) {starts : Session → Location → Prop} (hstarts : Lasting starts) :
    Course Failure Session where
  inv _ := True
  later := Grows setup starts
  fails _ _ := True
  refl _ := .of_registry (.refl _) rfl
  trans := .trans hstarts

theorem lasting_goes (l : Location) : Lasting fun t x => l.Goes t.Leads x := fun _ _ _ => goes_on

section Runs

variable {hstarts : Lasting starts} {descend : Location → Compiling Node} {members : List (Scalar × Value)}
  {P : Session → Prop}

private theorem refuses {kind : Failure → Session → Prop} {can : Session → Prop} :
    (descending setup hstarts).Refuses P kind can := fun _ _ _ _ _ _ => trivial

private theorem runs_target {ref : String} {path : Pointer} :
    Runs (descending setup hstarts) P ((l.scope setup descend members).target ref path)
      fun t s => s.Leads l ref t.1 t.2 := by
  refine Scope.runs_target (fun s => s.Names l.document) (fun full uri fragment _ hsplit => ?_) refuses
  refine runs_home_names (Uri.not_mem_of_splitFragment hsplit) (fun ht => ht.homes) (fun s d t _ _ hloads => ?_)
    fun _ _ _ _ _ _ _ => trivial
  have hext : Extends s.homes t.homes := hloads.registers.extend
  obtain ⟨loader, homes, rfl⟩ := hloads.rest
  exact ⟨trivial, .of_registry hext rfl⟩

/-- A location is built from nodes that are filed, if the descents from it leave theirs there. -/
private theorem runs_build (hd : ∀ x, Runs (descending setup (lasting_goes l)) (fun s => l.Goes s.Leads x) (descend x)
      fun n s => s.registry.Holds x n) :
    Runs (descending setup (lasting_goes l)) (fun _ => True) (build setup descend l)
      fun n s => Built setup s.registry.Holds s.Leads l n := by
  unfold build
  split
  · rename_i allows hvalue
    refine .pure fun s _ => ?_
    rw [Built, hvalue]
    rfl
  · rename_i members hvalue
    refine (Scope.runs_object (fun s => s.registry.Holds) Leads (C := descending setup (lasting_goes l))
      (fun _ _ _ _ => ⟨trivial, .of_registry (.refl _) rfl⟩) (fun _ _ _ _ => ⟨trivial, .of_registry (.refl _) rfl⟩)
      (fun _ s _ uri _ _ _ _ _ => ⟨trivial, .of_registry (extends_addHome uri _ s.homes) rfl⟩) refuses
      (fun _ _ _ _ _ _ _ => trivial) (fun hreplaced inner hinner part hpart => ?_)
      fun inner hinner value hmem _ => ?_).weaken (fun _ h => h) fun n s _ hn => ?_
    · exact (hd part).strengthen fun s _ => .part hvalue hreplaced hinner hpart
    · refine Scope.runs_reference (fun s => s.registry.Holds) Leads (fun _ _ => True) hmem refuses (fun ref _ => ?_)
        fun ref x fragment href => ?_
      · exact runs_target.weaken (fun _ h => h) fun _ _ _ hleads => ⟨hleads, trivial⟩
      · subst href
        exact (hd x).strengthen fun s hP => .reference hvalue hinner hmem hP.2.1
    · rw [Built, hvalue]
      exact hn
  · exact .throw fun _ _ _ => trivial

/-- To file the node of a location whose build began with its mark lets the session grow, if the build did. -/
private theorem grows_store (hfind : s.registry.find? x.place = none)
    (hx : starts { t with registry := t.registry.store x.place n } x)
    (h : Grows setup (fun t y => x.Goes t.Leads y) { s with registry := s.registry.mark x.place } t)
    (hbuilt : Built setup t.registry.Holds t.Leads x n) :
    s.Grows setup starts { t with registry := t.registry.store x.place n } := by
  have hmark : (s.registry.mark x.place).find? x.place = some .compiling := by
    rw [Registry.mark, Registry.find?_set, if_pos rfl]
  -- The place stays marked while its node is built, so to store it overwrites no other node.
  have hholds : ∀ l m, t.registry.Holds l m → (t.registry.store x.place n).Holds l m :=
    fun l m hm => hm.store (h.registry _ _ hmark) n
  have hcompiled : ({ t with registry := t.registry.store x.place n } : Session).Compiled setup x n := by
    refine ⟨?_, hbuilt.mono hholds fun _ _ _ _ hleads => hleads⟩
    show (t.registry.store x.place n).node? x.place = some n
    rw [Registry.node?_store, if_pos rfl]
  refine ⟨h.homes, Registry.within_set hfind h.registry n, fun {p m} hm => ?_⟩
  have hm : (t.registry.store x.place n).node? p = some m := hm
  rw [Registry.node?_store] at hm
  split at hm
  · cases hm
    exact .inr ⟨x, x, hx, .refl, Eq.symm ‹_›, hcompiled⟩
  · refine (h.new hm).imp Registry.node?_of_mark ?_
    rintro ⟨y, z, hgo, hz, hplace, hm⟩
    refine ⟨x, z, hx, .head ⟨⟨n, hcompiled⟩, hgo⟩ ?_, hplace, hm.on hholds (.refl _)⟩
    exact hz.on hholds (.refl _)

/-- A compilation that succeeds files its location, and what it files besides lies on a way down. -/
theorem runs_compile_descending (setup : Setup) {starts : Session → Location → Prop} (hstarts : Lasting starts)
    (fuel : Nat) (x : Location) : Runs (descending setup hstarts) (fun s => starts s x) (compile setup fuel x)
      fun n s => s.registry.Holds x n := by
  -- The induction is on the fuel, for ways that start anywhere: those of the parts start at the location itself.
  induction fuel generalizing starts x with
  | zero => exact .throw fun _ _ _ => trivial
  | succ fuel ih =>
    intro s _ hx
    rw [compile, Compiling.run_getOrCreate_place]
    cases hfind : s.registry.find? x.place with
    | some state =>
      cases state with
      | compiling => exact trivial
      | done n =>
        refine ⟨trivial, .of_registry (.refl _) rfl, fun t ht => ht.registry.holds ?_⟩
        exact Registry.find?_eq_done.1 hfind
    | none =>
      have hbuild : Runs (descending setup (lasting_goes x)) (fun _ => True) (build setup (compile setup fuel) x) _ :=
        runs_build fun y => ih (lasting_goes x) y
      have h := hbuild { s with registry := s.registry.mark x.place } trivial fun _ _ => trivial
      dsimp only
      generalize (build setup (compile setup fuel) x).run.run { s with registry := s.registry.mark x.place } = r at h
      obtain ⟨r, t⟩ := r
      cases r with
      | error e => exact trivial
      | ok n =>
        obtain ⟨-, hgrows, hbuilt⟩ := h
        have hstored : s.Grows setup starts { t with registry := t.registry.store x.place n } :=
          grows_store hfind (hstarts s _ x hgrows.homes hx.self) hgrows hbuilt.self
        refine ⟨trivial, hstored, fun u hu => hu.registry.holds ?_⟩
        show (t.registry.store x.place n).node? x.place = some n
        rw [Registry.node?_store, if_pos rfl]

end Runs

/-- What a session has filed that had compiled nothing before lies on a way down from the location that it has been
asked for. -/
theorem descends_of_compileAt {d : Document} {p : Pointer} {schema : Schema} (hfresh : s.Fresh)
    (h : (Schema.compileAt setup d p).run.run s = (.ok schema, t)) : ∃ root, d.LocatedAt p root ∧
      schema.place = root.place ∧ t.registry.Holds root schema.root ∧
      ∀ q n, t.registry.node? q = some n → ∃ l, t.Descends setup root l ∧ l.place = q ∧ t.Compiled setup l n := by
  cases ended_compileAt h with
  | unregistered _ hresult => cases hresult
  | unlocated _ hresult => cases hresult
  | @compiled first root r hregistered hroot hrun hresult =>
    obtain ⟨homes, -, rfl⟩ := hfresh.registers hregistered
    have hstarts : Lasting fun _ x => x = root := fun _ _ _ _ h => h
    have hend := runs_compile_descending setup hstarts (({ s with homes } : Session).extent setup.world d p + 1) root
      { s with homes } trivial fun _ _ => rfl
    rw [hrun] at hend
    cases r with
    | error e => cases hresult
    | ok n =>
      obtain ⟨-, hgrows, hholds⟩ := hend
      cases hresult
      refine ⟨root, hroot, rfl, hholds.self, fun q m hm => ?_⟩
      rcases hgrows.new hm with hold | ⟨l, x, rfl, hx, hplace, hcompiled⟩
      · simp [Registry.node?, Registry.find?, hfresh.entries] at hold
      · exact ⟨x, hx, hplace, hcompiled⟩

/-! ### Documents that are alone -/

section Alone

variable {d : Document} {p : Pointer} {members : List (Scalar × Value)} (hd : d.content.every Value.isKeyed = true)
  (halone : ∀ uri home, t.homes.lookup uri = some home → home.document = d)

/-- The location is a part of the document, under the dialect that the document declares. -/
structure Inside (d : Document) (l : Location) : Prop where
  document : l.document = d
  lies : l.Lies
  dialect : d.dialect? = .ok l.dialect

theorem inside_of_locatedAt (h : d.LocatedAt p root) : Inside d root := ⟨h.document, h.lies, h.dialect⟩

include hd

/-- The objects among the parts of the document have texts for keys. -/
theorem Inside.keyed (hl : Inside d l) (hvalue : l.value = .obj members) :
    (Value.obj members).every Value.isKeyed = true := by
  have hlies := hl.lies
  unfold Location.Lies at hlies
  rw [hvalue, hl.document] at hlies
  exact Pointer.of_eval (P := (·.every Value.isKeyed = true)) (fun _ _ => every_of_mem_items)
    (fun _ _ _ => every_of_mem_members) hd hlies

include halone

/-- From the parts of a document that is alone the compilation comes to its parts. -/
theorem Inside.goes (hl : Inside d l) (h : l.Goes t.Leads x) : Inside d x := by
  cases h with
  | @part members inner x hvalue hreplaced hinner hsub =>
    obtain ⟨hdocument, -, hdialect⟩ := Location.of_mem_subschemas hsub
    refine ⟨(hdocument.trans hinner.document).trans hl.document, ?_, ?_⟩
    · exact (hinner.lies hl.lies).part_of_keyed (hinner.value.trans hvalue) (hl.keyed hd hvalue) hsub
    · rw [hdialect, hinner.dialect]
      exact hl.dialect
  | @reference members inner x ref fragment hvalue hinner href htarget =>
    have hlies := TargetOf.lies htarget
    obtain ⟨full, uri, home, -, -, hhome, -, -, hdocument, -, dialect, hdialect, heq⟩ := htarget
    have hhome : home.document = d := by
      rcases hhome with ⟨-, rfl⟩ | ⟨-, hlookup⟩
      · exact hinner.document.trans hl.document
      · exact halone uri home hlookup
    have hx : x.document = d := hdocument.trans hhome
    refine ⟨hx, hlies, ?_⟩
    -- The document declares one dialect, or none to its references as well.
    rw [hx, hl.dialect] at hdialect
    rw [hl.dialect, heq, hinner.dialect, ← Except.ok.inj hdialect, Option.or_self]

theorem Inside.comesTo (hroot : Inside d root) (h : t.ComesTo root l) : Inside d l := by
  induction h with
  | refl => exact hroot
  | tail _ hgo ih => exact ih.goes hd halone hgo

variable (hfiled : ∀ q n, t.registry.node? q = some n →
  ∃ l, t.Descends setup root l ∧ l.place = q ∧ t.Compiled setup l n)

include hfiled

/-- All that has been compiled on behalf of a location are schemas. -/
theorem Inside.whole (hroot : Inside d root) (hl : t.ComesTo root l) (h : t.Compiled setup l n) : l.Whole := by
  intro members inner hvalue hreplaced hinner sub hsub
  obtain ⟨m, hm⟩ := h.2.part hvalue hreplaced hinner hsub
  obtain ⟨x, hx, hplace, hcompiled⟩ := hfiled _ _ hm
  have hsubInside := hroot.comesTo hd halone (hl.tail (.part hvalue hreplaced hinner hsub))
  have hxInside := hroot.comesTo hd halone hx.comesTo
  -- What has been compiled at the place is the part that lies there, whatever base it has been compiled under.
  rw [hsubInside.lies.value_eq hxInside.lies (hsubInside.document.trans hxInside.document.symm)
    (Location.pointer_of_place hplace).symm]
  exact Library.isSchema_of_built hcompiled.2

/-- The ways down come to locations as the document has them. -/
theorem has_of_descends (hroot : d.LocatedAt p root) (h : t.Descends setup root l) : d.Has l := by
  have hinside := inside_of_locatedAt hroot
  have hhas : ∀ {l}, t.ComesTo root l → l.Based → d.Has l := fun hl hbased => by
    obtain ⟨hdocument, hlies, hdialect⟩ := hinside.comesTo hd halone hl
    exact ⟨hdocument, hlies, hbased, hdialect⟩
  induction h with
  | refl =>
    refine hhas .refl ?_
    rw [Location.Based, hroot.document, hroot.pointer]
    exact hroot.base
  | @tail l x hway hstep ih =>
    obtain ⟨⟨n, hn⟩, hgo⟩ := hstep
    have hl := Descends.comesTo hway
    refine hhas (hl.tail hgo) ?_
    cases hgo with
    | part hvalue hreplaced hinner hsub =>
      have hkeyed := (hinside.comesTo hd halone hl).keyed hd hvalue
      exact ih.based.part_of_nodup ih.lies hvalue (isKeyed_obj_iff.1 (Value.of_every hkeyed)).1 hreplaced hinner
        (hinside.whole hd halone hfiled hl hn) hsub
    | reference hvalue hinner href htarget =>
      obtain ⟨_, _, _, -, -, -, -, -, -, hbase, -⟩ := htarget
      exact hbase

/-- Whatever the compilation comes to has been compiled, under the base that the document has in force there. -/
theorem compiled_of_comesTo (hroot : d.LocatedAt p root) (hholds : t.registry.Holds root n) (h : t.ComesTo root l) :
    d.Has l ∧ t.Descends setup root l ∧ ∃ n, t.Compiled setup l n := by
  -- At each place one location has been compiled, the one that the document has there.
  have hcompiled : ∀ {x m}, t.Descends setup root x → t.registry.Holds x m → t.Compiled setup x m := by
    intro x m hx hm
    obtain ⟨y, hy, hplace, hcompiled⟩ := hfiled _ _ hm
    have hy := has_of_descends hd halone hfiled hroot hy
    rwa [← hy.eq (has_of_descends hd halone hfiled hroot hx) hplace]
  suffices h : t.Descends setup root l ∧ ∃ n, t.Compiled setup l n from ⟨has_of_descends hd halone hfiled hroot h.1, h⟩
  induction h with
  | refl => exact ⟨.refl, n, hcompiled .refl hholds⟩
  | @tail l x _ hgo ih =>
    obtain ⟨hl, n, hn⟩ := ih
    have hx : t.Descends setup root x := hl.tail ⟨⟨n, hn⟩, hgo⟩
    suffices h : ∃ m, t.registry.Holds x m from ⟨hx, h.imp fun m hm => hcompiled hx hm⟩
    cases hgo with
    | part hvalue hreplaced hinner hsub => exact hn.2.part hvalue hreplaced hinner hsub
    | @reference members inner x ref fragment hvalue hinner href htarget =>
      have hkeyed := ((inside_of_locatedAt hroot).comesTo hd halone hl.comesTo).keyed hd hvalue
      have hlookup := lookupKey_of_nodup (isKeyed_obj_iff.1 (Value.of_every hkeyed)).1 href
      obtain ⟨x', fragment', m, hx', hm⟩ := hn.2.reference hvalue hinner hlookup
      obtain ⟨rfl, -⟩ :=
        TargetOf.unique (fun _ uri _ home home' _ _ => t.unambiguous_names _ uri home home') hx' htarget
      exact ⟨m, hm⟩

end Alone

end Session

/-! ### What nodes report under -/

/-- In the document the value, if it is that of a schema, is replaced by its reference. -/
def Document.Replaces (d : Document) (v : Value) : Prop := d.dialect? = .ok (some .draft07) ∧ v.hasMember "$ref" = true

/-- The schema at the place reports under the URI: the base that is in force there, with its own name applied unless it
is replaced by its reference. -/
def Document.PutsUnder (d : Document) (p : Pointer) (uri : Option String) : Prop :=
  ∃ v base, p.eval d.content = .ok v ∧ d.baseAt p = .ok base ∧
    (d.Replaces v ∧ uri = base ∨ ¬d.Replaces v ∧ baseWithin base v = .ok uri)

/-- What is built for a location of the document reports under the URI that the document puts it under. -/
theorem Document.Has.putsUnder {setup : Setup} {means : Location → Node → Prop}
    {leads : Location → String → Location → Option String → Prop} {d : Document} {l : Location} {n : Node}
    (hl : d.Has l) (h : Built setup means leads l n) : d.PutsUnder l.pointer n.site.uri := by
  have hlies := hl.lies
  have hbased := hl.based
  unfold Location.Lies at hlies
  unfold Location.Based at hbased
  rw [hl.document] at hlies hbased
  refine ⟨l.value, l.base, hlies, hbased, ?_⟩
  have hreplaces : ∀ {members}, l.value = .obj members → (d.Replaces l.value ↔ l.isReplaced members = true) := by
    intro members hvalue
    rw [Document.Replaces, hl.dialect, hvalue]
    simp [Location.isReplaced, Value.hasMember, Value.member?, hasKey]
  cases h.node with
  | constant hvalue =>
    refine .inr ⟨fun hreplaces => ?_, ?_⟩
    · rw [hvalue] at hreplaces
      exact Bool.noConfusion hreplaces.2
    · rw [hvalue]
      rfl
  | replaced hvalue _ hreplaced => exact .inl ⟨(hreplaces hvalue).2 hreplaced, rfl⟩
  | group hvalue hinner hreplaced =>
    refine .inr ⟨fun h => by simp [(hreplaces hvalue).1 h] at hreplaced, ?_⟩
    rw [hvalue]
    exact (hinner.baseInside hreplaced).1

namespace Schema

/-- Where a session that had compiled nothing compiles a document, all objects of which have texts for keys, and comes
to no other document, every location that the compilation comes to is under the base that the document has in force
there, and it is compiled.  Every node is one of such a location, and reports under that base with the name of its
object applied. -/
theorem bases_of_compileAt {setup : Setup} {d : Document} {p : Pointer} {s t : Session} {schema : Schema}
    (hd : d.content.every Value.isKeyed = true) (hfresh : s.Fresh)
    (halone : ∀ uri home, t.homes.lookup uri = some home → home.document = d)
    (h : (compileAt setup d p).run.run s = (.ok schema, t)) : ∃ root, d.LocatedAt p root ∧
      schema.place = root.place ∧ t.registry.node? root.place = some schema.root ∧
      (∀ l, t.ComesTo root l → l.document = d ∧ d.baseAt l.pointer = .ok l.base ∧ t.registry.contains l.place = true) ∧
      ∀ q n, t.registry.node? q = some n → ∃ l, t.ComesTo root l ∧ l.place = q ∧
        Built setup (fun x m => t.registry.node? x.place = some m) t.Leads l n ∧ d.PutsUnder l.pointer n.site.uri := by
  obtain ⟨root, hroot, hplace, hholds, hfiled⟩ := Session.descends_of_compileAt hfresh h
  refine ⟨root, hroot, hplace, hholds, fun l hl => ?_, fun q n hn => ?_⟩
  · obtain ⟨hhas, -, m, hm, -⟩ := Session.compiled_of_comesTo hd halone hfiled hroot hholds hl
    have hbased : l.document.baseAt l.pointer = .ok l.base := hhas.based
    rw [hhas.document] at hbased
    have hm : t.registry.node? l.place = some m := hm
    exact ⟨hhas.document, hbased, by rw [Registry.contains, hm]; rfl⟩
  · obtain ⟨l, hl, rfl, hcompiled⟩ := hfiled q n hn
    have hhas := Session.has_of_descends hd halone hfiled hroot hl
    exact ⟨l, hl.comesTo, rfl, hcompiled.2, hhas.putsUnder hcompiled.2⟩

/-- A document with names inside a name, where one part refers to the other. -/
def nestedNames : String :=
  r#"{"$id": "http://x/a/", "properties": {"p": {"$id": "b/", "items": "# ++
    r##"[{"$ref": "#/items/1"}, {"$id": "#c", "type": "string"}]}}}"##

/-- The part is compiled under the names around it, and so it is found by the reference. -/
theorem bases_of_compileAt_nested : ∃ (D : Value) (s t : Session) (schema : Schema) (n : Node),
    decodeText nestedNames = .ok D ∧ D.every Value.isKeyed = true ∧ s.Fresh ∧
    (∀ uri home, t.homes.lookup uri = some home → home.document = ⟨"urn:anonymous:1", none, D⟩) ∧
    (compileAt { world := .ofTable [] } ⟨"urn:anonymous:1", none, D⟩ .root).run.run s = (.ok schema, t) ∧
    t.registry.node? ⟨"urn:anonymous:1", Pointer.mk ["properties", "p", "items", "1"]⟩ = some n ∧
    n.site.uri = some "http://x/a/b/" ∧
    (⟨"urn:anonymous:1", none, D⟩ : Document).PutsUnder ⟨["properties", "p", "items", "1"]⟩ n.site.uri := by
  let s : Session := { registry := { anonymous := 1 } }
  obtain ⟨D, hD, h⟩ := exists_eq_ok_of_any (x := decodeText nestedNames)
    (p := fun D =>
      let compiled := (compileAt { world := .ofTable [] } ⟨"urn:anonymous:1", none, D⟩ .root).run.run s
      compiled.1.toOption.any fun _ =>
        (compiled.2.registry.node? ⟨"urn:anonymous:1", Pointer.mk ["properties", "p", "items", "1"]⟩).any fun n =>
          n.site.uri == some "http://x/a/b/")
    (by decide +kernel)
  obtain ⟨schema, hschema, h⟩ := exists_eq_ok_of_any h
  obtain ⟨n, hn, huri⟩ := (Option.any_eq_true _ _).1 h
  have hfresh : s.Fresh := ⟨rfl, rfl⟩
  have hkeyed := Value.every_isKeyed (isJson_of_decodeText hD)
  have hcompile : (compileAt { world := .ofTable [] } ⟨"urn:anonymous:1", none, D⟩ .root).run.run s =
      (.ok schema, _) := Prod.ext hschema rfl
  have hworld : ∀ uri v, ¬(.ofTable [] : World).Gives uri v := by
    rintro uri v ⟨r, hr, -⟩
    cases (Loader.serves_table rfl).1 hr
  have hbase : IsBase (none : Option String) := by rintro _ ⟨⟩
  have halone := fun (uri : String) (home : Home) (hhome : List.lookup uri _ = some home) =>
    Library.eq_of_atHand hworld (Session.atHand_of_compileAt hbase hfresh (by rintro _ _ ⟨⟩) hcompile hhome)
  obtain ⟨root, -, -, -, -, hnodes⟩ := bases_of_compileAt hkeyed hfresh halone hcompile
  obtain ⟨l, -, hl, -, hputs⟩ := hnodes _ n hn
  rw [CodePointer.codes_inj.1 (congrArg Place.pointer hl)] at hputs
  exact ⟨D, s, _, schema, n, hD, hkeyed, hfresh, halone, hcompile, hn, beq_iff_eq.1 huri, hputs⟩

/-- A document in which one property goes by a number. -/
def numberedProperty : String :=
  "properties:\n  1:\n    $id: http://x/a/\n    properties:\n      p:\n        $id: e\n        type: string\n"

/-- Below the property that goes by a number, a schema is compiled under the name of the property, but the document has
the base above the property in force there, under which it files the schema. -/
theorem compileText_numbered : ∃ (schema : Schema) (t : Session) (n : Node) (home : Home),
    (compileText { world := .ofTable [] } numberedProperty (some "http://x/s.yaml")).run.run {} =
      (.ok schema, t) ∧
    t.registry.node? ⟨"http://x/s.yaml", Pointer.mk ["properties", "1", "properties", "p"]⟩ = some n ∧
    n.site.uri = some "http://x/a/e" ∧ t.homes.lookup "http://x/e" = some home ∧
    home.origin = ⟨["properties", "1", "properties", "p"]⟩ ∧ home.document.uri = some "http://x/s.yaml" ∧
    home.document.baseAt ⟨["properties", "1", "properties", "p"]⟩ = .ok (some "http://x/s.yaml") := by
  have h : (fun compiled : Except Failure Schema × Session => compiled.1.toOption.any fun _ =>
      (compiled.2.registry.node? ⟨"http://x/s.yaml", Pointer.mk ["properties", "1", "properties", "p"]⟩).any (fun n =>
        n.site.uri == some "http://x/a/e") &&
      (compiled.2.homes.lookup "http://x/e").any fun home =>
        home.origin == ⟨["properties", "1", "properties", "p"]⟩ && home.document.uri == some "http://x/s.yaml" &&
          (home.document.baseAt ⟨["properties", "1", "properties", "p"]⟩).toOption == some (some "http://x/s.yaml"))
      ((compileText { world := .ofTable [] } numberedProperty (some "http://x/s.yaml")).run.run {}) =
        true := by
    decide +kernel
  generalize (compileText { world := .ofTable [] } numberedProperty (some "http://x/s.yaml")).run.run {} =
    compiled at h ⊢
  obtain ⟨result, t⟩ := compiled
  obtain ⟨schema, hresult, h⟩ := exists_eq_ok_of_any h
  obtain ⟨hnode, hhome⟩ := Bool.and_eq_true_iff.1 h
  obtain ⟨n, hn, huri⟩ := (Option.any_eq_true _ _).1 hnode
  obtain ⟨home, hlookup, hhome⟩ := (Option.any_eq_true _ _).1 hhome
  obtain ⟨hhome, hbase⟩ := Bool.and_eq_true_iff.1 hhome
  obtain ⟨horigin, hdocument⟩ := Bool.and_eq_true_iff.1 hhome
  refine ⟨schema, t, n, home, Prod.ext hresult rfl, hn, beq_iff_eq.1 huri, hlookup, beq_iff_eq.1 horigin,
    beq_iff_eq.1 hdocument, ?_⟩
  generalize home.document.baseAt ⟨["properties", "1", "properties", "p"]⟩ = base at hbase ⊢
  cases base with
  | error e => cases hbase
  | ok base => exact congrArg Except.ok (Option.some.inj (beq_iff_eq.1 hbase))

end Schema

end Conform
