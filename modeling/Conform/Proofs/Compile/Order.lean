import Conform.Proofs.Compile.Callers
import Conform.Proofs.Compile.Reordered

/-!
# The order of members

The order of the members of a document does not matter to what a new session compiles it to, if the document needs no
other (`Schema.anew_rearranged`): it is compiled in every order or in none, and what it is compiled to tells the same of
JSON values.  It does matter where a reference leads to a part of data, whose name is not known before something has
compiled it (`Schema.anew_datum`).
-/

namespace Conform

/-! ### Compiling in a new session -/

/-- The document that a new session compiles a value as, under a base URI or under none. -/
def Document.opened (v : Value) : Option String → Except Failure Document
  | none => .ok (.numbered 0 v)
  | some base => ((Uri.dropFragment base).mapError .uri).map (.under · v)

/-- What a new session gives for a value. -/
def Schema.anew (setup : Setup) (v : Value) (base : Option String) : Except Failure Schema :=
  ((Schema.compileValue setup v base).run.run {}).1

namespace Document

open Library (IsInward InwardIn)

variable {setup : Setup} {v v' : Value} {base : Option String} {d d' : Document} {e : Failure}

theorem isBase_opened (h : opened v base = .ok d) : IsBase d.uri := by
  cases base with
  | none =>
    cases h
    rintro _ ⟨⟩
  | some base =>
    cases hdrop : Uri.dropFragment base with
    | error fault =>
      rw [opened, hdrop] at h
      cases h
    | ok short =>
      rw [opened, hdrop] at h
      cases h
      rintro _ ⟨⟩
      exact Uri.not_mem_of_dropFragment hdrop

/-- A value is compiled as its document, in a session that has compiled nothing, if it has one. -/
theorem anew_eq (setup : Setup) (v : Value) (base : Option String) : ∃ s : Session, s.Fresh ∧
    Schema.anew setup v base = (opened v base).bind fun d => ((Schema.compileAt setup d .root).run.run s).1 := by
  cases base with
  | none => exact ⟨{ registry := { anonymous := 1 } }, ⟨rfl, rfl⟩, rfl⟩
  | some base =>
    refine ⟨{}, ⟨rfl, rfl⟩, ?_⟩
    rw [Schema.anew, Schema.run_compileValue_some, opened]
    cases Uri.dropFragment base <;> rfl

/-- The documents of rearranged values differ in the order of members. -/
theorem exists_opened (h : v.Rearranged v') (hd : opened v base = .ok d) :
    ∃ d', opened v' base = .ok d' ∧ d.Rearranged d' := by
  cases base with
  | none =>
    cases hd
    exact ⟨.numbered 0 v', rfl, rfl, rfl, h⟩
  | some base =>
    cases hdrop : Uri.dropFragment base with
    | error fault =>
      rw [opened, hdrop] at hd
      cases hd
    | ok short =>
      rw [opened, hdrop] at hd
      cases hd
      refine ⟨.under short v', ?_, rfl, rfl, h⟩
      rw [opened, hdrop]
      rfl

theorem contained_opened (h : v.Rearranged v') (hd : ∀ d, opened v base = .ok d → d.Contained)
    (hd' : opened v' base = .ok d') : d'.Contained := by
  obtain ⟨d, hopened, hrearranged⟩ := exists_opened h.symm hd'
  exact hrearranged.symm.contained (hd d hopened)

/-- An inward document without a URI is contained, if no two of its parts have one plain name. -/
theorem contained_of_inward (hd : IsInward d.content) (huri : d.uri = none)
    (hanchors : ∀ {name p v p' v'}, (p, v) ∈ schemaObjects .root d.content → (p', v') ∈ schemaObjects .root d.content →
      hasAnchor name v = true → hasAnchor name v' = true → p = p') : d.Contained where
  json := hd.json
  anchors := hanchors
  names {uri p p'} _ hclaims _ := by
    cases hclaims with
    | document hname => cases huri.symm.trans hname
    | part hmem hname =>
      have hnameless := Pointer.of_every hd.nameless (eval_of_mem_schemaObjects hd.json hmem)
      rw [Value.isNameless, hname] at hnameless
      cases hnameless
  refers {root l uri} hroot hl hrefers := by
    -- An inward document refers to itself only, and so do the parts that it comes to.
    have hinward : InwardIn d l := by
      clear hrefers
      induction hl with
      | refl => exact .of_lies hd huri hroot.document hroot.lies hroot.has.based
      | tail hl hgo ih =>
        cases hgo with
        | part hvalue _ hinner hsub => exact ih.part hvalue hinner hsub
        | reference hvalue hinner href htarget =>
          exact ih.target hd huri hvalue hinner href (fun uri home _ hhome => hhome.document) htarget
    exact ⟨⟨d, .root⟩, .whole (.inl (hinward.refers hrefers))⟩

/-! ### Compiling a rearranged document -/

/-- Where the one document has been compiled, the other is compiled to a tree that is in concord, or a sample of it cannot
be evaluated. -/
theorem HasRun.rearranged {schema : Schema} {result : Except Failure Schema}
    (hplain : ∀ name base path value, setup.keyword name base path value = none) (h : d.Rearranged d') (hd : d.Contained)
    (hrun : HasRun setup d (.ok schema)) (hrun' : HasRun setup d' result) :
    (∀ e, result = .error e → ∃ l members m, Scope.SampleFails setup.options (Location.pointer l) members m e) ∧
      ∀ schema', result = .ok schema' → schema.root.Concord schema'.root := by
  obtain ⟨root, hroot, hfiles, hnamed⟩ := hrun
  have hd' := h.contained hd
  obtain ⟨root', hroot', hroots⟩ := h.locatedAt hd.json hroot
  obtain ⟨n', hn', hconcord⟩ := hfiles.rearranged hplain h hd hroots hroot'.has
  rw [hroots.place] at hn'
  constructor
  · rintro e rfl
    -- The other run fails for no name and no place that the first one would not have failed for.
    rcases hrun' with hmisnamed | hunlocated | ⟨root'', hroot'', hbreaks⟩
    · exact absurd (h.symm.misnamed hd'.json hmisnamed) (hnamed e)
    · exact absurd hunlocated hroot'.not_unlocated
    · cases hroot''.eq hroot'
      exact hn'.sampleFails hd' hroot' hbreaks
  · rintro schema' rfl
    obtain ⟨root'', hroot'', hfiles', -⟩ := hrun'
    cases hroot''.eq hroot'
    rw [Files.unique hd' hroot'.has hfiles' hn']
    exact hconcord

end Document

namespace Schema

variable {setup : Setup} {v v' : Value} {base : Option String}

/-- Where the one value has been compiled, the other is compiled to a tree that is in concord, or a sample of it cannot be
evaluated. -/
theorem concord_anew (hplain : ∀ name base path value, setup.keyword name base path value = none) (h : v.Rearranged v')
    (hd : ∀ d, Document.opened v base = .ok d → d.Contained) {schema : Schema} (hv : anew setup v base = .ok schema) :
    (∀ e, anew setup v' base = .error e → ∃ l members m, Scope.SampleFails setup.options (Location.pointer l) members m e) ∧
      ∀ schema', anew setup v' base = .ok schema' → schema.root.Concord schema'.root := by
  obtain ⟨s, hs, heq⟩ := Document.anew_eq setup v base
  obtain ⟨s', hs', heq'⟩ := Document.anew_eq setup v' base
  cases hopened : Document.opened v base with
  | error e =>
    rw [hopened, hv] at heq
    cases heq
  | ok d =>
    obtain ⟨d', hopened', hrearranged⟩ := Document.exists_opened h hopened
    have hcontained := hd d hopened
    have hcontained' := hrearranged.contained hcontained
    rw [hopened, hv] at heq
    rw [hopened'] at heq'
    have hrun : Document.HasRun setup d (.ok schema) :=
      Document.hasRun_compileAt hcontained (Document.isBase_opened hopened) hs (Prod.ext heq.symm rfl)
    have hrun' : Document.HasRun setup d' (anew setup v' base) := by
      rw [heq']
      exact Document.hasRun_compileAt hcontained' (Document.isBase_opened hopened') hs' rfl
    exact hrun.rearranged hplain hrearranged hcontained hrun'

/-- The order of the members of a document that needs no other does not matter.  It is compiled in every order or in none,
unless samples are checked, which may fail to be evaluated in the one order only.  What it is compiled to accepts the same
JSON values. -/
theorem anew_rearranged {w : World} {options : Options} (h : v.Rearranged v')
    (hd : ∀ d, Document.opened v base = .ok d → d.Contained) :
    (options.checkExamples = false → options.checkDefaults = false →
      (Returns (anew { world := w, options } v base) ↔ Returns (anew { world := w, options } v' base))) ∧
    ∀ schema schema', anew { world := w, options } v base = .ok schema → anew { world := w, options } v' base = .ok schema' →
      ∀ x : Value, x.isJson = true → ∀ b b', schema.root.accepts x = .ok b → schema'.root.accepts x = .ok b' → b = b' := by
  obtain ⟨setup, hsetup⟩ : ∃ setup : Setup, setup = { world := w, options } := ⟨_, rfl⟩
  have hplain : ∀ name base path value, setup.keyword name base path value = none := by
    rw [hsetup]
    exact fun _ _ _ _ => rfl
  have hoptions : setup.options = options := by rw [hsetup]
  rw [← hsetup]
  constructor
  · intro hexamples hdefaults
    have hsamples (l : Location) (members : List (Scalar × Value)) (m : Node) (e : Failure) :
        ¬Scope.SampleFails setup.options l.pointer members m e := by
      intro hfails
      have hchecked := hfails.checked
      rw [hoptions, hexamples, hdefaults] at hchecked
      exact hchecked.elim Bool.false_ne_true Bool.false_ne_true
    -- Each order is compiled if the other is.
    have hother {v v' : Value} (h : v.Rearranged v') (hd : ∀ d, Document.opened v base = .ok d → d.Contained) :
        Returns (anew setup v base) → Returns (anew setup v' base) := by
      rintro ⟨schema, hv⟩
      cases hv' : anew setup v' base with
      | ok schema' => exact returns_ok schema'
      | error e =>
        obtain ⟨l, members, m, hfails⟩ := (concord_anew hplain h hd hv).1 e hv'
        exact absurd hfails (hsamples l members m e)
    exact ⟨hother h hd, hother h.symm fun d' => Document.contained_opened h hd⟩
  · intro schema schema' hv hv' x hx b b' hb hb'
    exact (concord_anew hplain h hd hv).2 schema' hv' x hx b b' hb hb'

/-- A document with a part that has a plain name and is referred to. -/
def sharingDocument : Value :=
  .ofPairs [("$defs", .ofPairs [("s", .ofPairs [("$anchor", .str "text"), ("type", .str "string")])]),
    ("properties", .ofPairs [("a", .ofPairs [("$ref", .str "#text")])]), ("additionalProperties", .bool false)]

/-- The same document, with what is referred to last. -/
def sharingBackwards : Value :=
  .ofPairs [("additionalProperties", .bool false), ("properties", .ofPairs [("a", .ofPairs [("$ref", .str "#text")])]),
    ("$defs", .ofPairs [("s", .ofPairs [("$anchor", .str "text"), ("type", .str "string")])])]

theorem anew_rearranged_sharing : ∃ schema schema',
    anew { world := .ofTable [] } sharingDocument none = .ok schema ∧
    anew { world := .ofTable [] } sharingBackwards none = .ok schema' ∧
    ∀ x : Value, x.isJson = true → ∀ b b', schema.root.accepts x = .ok b → schema'.root.accepts x = .ok b' → b = b' := by
  have hrearranged : sharingDocument.Rearranged sharingBackwards := .of_perm (List.reverse_perm _).symm
  have hinward : Library.IsInward sharingDocument := ⟨by decide +kernel, by decide +kernel, by decide +kernel⟩
  -- No two objects have one anchor, since all anchors and names are in one place.
  have hanchor {name : String} {p : Pointer} {v : Value} (hmem : (p, v) ∈ schemaObjects .root sharingDocument)
      (hname : hasAnchor name v = true) : p = ⟨["$defs", "s"]⟩ := by
    have hobjects : (schemaObjects .root sharingDocument).all (fun e => e.1 == ⟨["$defs", "s"]⟩ ||
        ((e.2.member? "$anchor").isNone && (e.2.member? "$id").isNone)) = true := by decide +kernel
    have hentry := List.all_eq_true.1 hobjects _ hmem
    simp only [Bool.or_eq_true, beq_iff_eq, Bool.and_eq_true, Option.isNone_iff_eq_none] at hentry
    rcases hentry with hp | ⟨hanchor, hid⟩
    · exact hp
    · rw [hasAnchor, hanchor, hid] at hname
      cases hname
  have hcontained : ∀ d, Document.opened sharingDocument none = .ok d → d.Contained := by
    rintro _ ⟨⟩
    exact Document.contained_of_inward hinward rfl fun hmem hmem' hname hname' =>
      (hanchor hmem hname).trans (hanchor hmem' hname').symm
  obtain ⟨hreturns, hagree⟩ := @anew_rearranged _ _ none (.ofTable []) {} hrearranged hcontained
  obtain ⟨schema, t, hrun, -⟩ := exists_of_endsWith
    (x := (compileValue { world := .ofTable [] } sharingDocument none).run.run {})
    (p := fun _ _ => true) (by decide +kernel)
  have hschema : anew { world := .ofTable [] } sharingDocument none = .ok schema := congrArg Prod.fst hrun
  obtain ⟨schema', hschema'⟩ := (hreturns rfl rfl).1 ⟨schema, hschema⟩
  exact ⟨schema, schema', hschema, hschema', hagree schema schema' hschema hschema'⟩

/-- A document with a reference to a part of data, which has a name. -/
def datumDocument : Value :=
  .ofPairs [("properties", .ofPairs [("b", .ofPairs [("$ref", .str "http://x/i")]),
      ("a", .ofPairs [("$ref", .str "#/default")])]),
    ("default", .ofPairs [("$id", .str "http://x/i"), ("type", .str "string")])]

/-- The same document, in which something else leads to the part first. -/
def datumBackwards : Value :=
  .ofPairs [("properties", .ofPairs [("a", .ofPairs [("$ref", .str "#/default")]),
      ("b", .ofPairs [("$ref", .str "http://x/i")])]),
    ("default", .ofPairs [("$id", .str "http://x/i"), ("type", .str "string")])]

/-- The name of a part of data is known once the part has been compiled, no sooner. -/
theorem anew_datum : datumDocument.Rearranged datumBackwards ∧
    ¬Returns (anew { world := .ofTable [] } datumDocument none) ∧
    Returns (anew { world := .ofTable [] } datumBackwards none) := by
  have hfails : (anew { world := .ofTable [] } datumDocument none).toOption.isNone = true := by decide +kernel
  obtain ⟨schema, t, hrun, -⟩ := exists_of_endsWith
    (x := (compileValue { world := .ofTable [] } datumBackwards none).run.run {})
    (p := fun _ _ => true) (by decide +kernel)
  refine ⟨.of_entry (.of_perm (.swap _ _ _)), ?_, schema, congrArg Prod.fst hrun⟩
  rintro ⟨schema, hschema⟩
  rw [hschema] at hfails
  cases hfails

end Schema

end Conform
