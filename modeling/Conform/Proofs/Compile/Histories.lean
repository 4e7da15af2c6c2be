import Conform.Proofs.Compile.Sequences

/-!
# What does not depend on earlier compilations

Where no URI can come to name two things, a URI is compiled to the same schema whatever else has been compiled before
(`Schema.compileUri_unique`).
-/

namespace Conform

namespace Library

variable {w : World} {own : Document → Prop}

/-- A library in which callers have no documents of their own. -/
abbrev Foreign : Document → Prop := fun _ => False

/-- No URI can come to name two documents or parts of documents. -/
def Single (w : World) (own : Document → Prop) : Prop :=
  ∀ uri home home', Known w own uri home → Known w own uri home' → home = home'

/-- A document of the world is known by its URI. -/
theorem known_of_gives {uri : String} {v : Value} (h : w.Gives uri v) : Known w own uri ⟨.under uri v, .root⟩ :=
  .claimed (.inr ⟨uri, v, h, rfl⟩) (.document rfl)

/-- A document of the world is known by the name that it gives itself. -/
theorem Uniform.known_of_name (hw : Uniform w own) {uri name short : String} {v : Value} (h : w.Gives uri v)
    (hname : v.member? "$id" = some (.str name)) (hshort : Uri.dropFragment name = .ok short) :
    Known w own short ⟨.under uri v, .root⟩ := by
  obtain ⟨hanchor, short', hne, hshort', hresolve, -⟩ := hw.names h hname
  rw [hshort] at hshort'
  cases hshort'
  refine .claimed (.inr ⟨uri, v, h, rfl⟩) (.part ?_ hname hanchor hresolve hne)
  cases v with
  | scalar | arr | set => cases hname
  | obj ms => simp [schemaObjects]

/-- Where no URI names two things, the documents of the world have keys of their own. -/
theorem Uniform.orderly (hw : Uniform w Foreign) (hone : Single w Foreign) : Orderly w Foreign where
  toUniform := hw
  key := by
    have hknown : ∀ {d}, AtHand w Foreign d → ∃ uri v, d = .under d.key v ∧ w.Gives uri v ∧
        Known w Foreign d.key ⟨.under uri v, .root⟩ := by
      rintro d ((hd | ⟨uri, v, hv, rfl⟩) | ⟨uri, v, name, short, hv, hname, hshort, rfl⟩)
      · exact hd.elim
      · exact ⟨uri, v, rfl, hv, known_of_gives hv⟩
      · exact ⟨uri, v, rfl, hv, hw.known_of_name hv hname hshort⟩
    intro d d' hd hd' hkey
    obtain ⟨uri, v, heq, -, h⟩ := hknown hd
    obtain ⟨uri', v', heq', -, h'⟩ := hknown hd'
    rw [← hkey] at h' heq'
    cases hone _ _ _ h h'
    rw [heq, heq']

/-- No location is ambiguous where no URI names two things. -/
theorem Single.unambiguous (hone : Single w own) (l : Location) : Unambiguous w own l := by
  intro t _ uri home home' _ h h'
  rcases h with ⟨hempty, rfl⟩ | ⟨hne, h⟩
  · rcases h' with ⟨-, rfl⟩ | ⟨hne, -⟩
    · rfl
    · rw [hempty] at hne
      cases hne
  · rcases h' with ⟨hempty, -⟩ | ⟨-, h'⟩
    · rw [hempty] at hne
      cases hne
    · exact hone uri home home' h h'

section Nameless

variable (h : ∀ uri v, w.Gives uri v → v.isJson = true ∧ v.every Value.isNameless = true)

include h

private theorem nameless_of_atHand {d : Document} (hd : AtHand w Foreign d) :
    d.content.isJson = true ∧ d.content.every Value.isNameless = true := by
  obtain (hd | ⟨uri, v, hv, rfl⟩) | ⟨uri, v, _, _, hv, -, -, rfl⟩ := hd
  · exact hd.elim
  · exact h uri v hv
  · exact h uri v hv

private theorem not_named {d : Document} {p : Pointer} {v : Value} {name : String} (hd : AtHand w Foreign d)
    (hp : p.eval d.content = .ok v) : v.member? "$id" ≠ some (.str name) := by
  intro hname
  have hv := Pointer.of_every (nameless_of_atHand h hd).2 hp
  rw [Value.isNameless, hname] at hv
  cases hv

/-- Where no object in a document of the world has a name, URIs name nothing but the documents. -/
theorem single_of_nameless : Single w Foreign := by
  -- A URI names a part, or what is hidden under a name, only through a name that some object has.
  have hknown : ∀ {uri home}, Known w Foreign uri home → ∃ v, w.Gives uri v ∧ home = ⟨.under uri v, .root⟩ := by
    intro uri ⟨d, p⟩ hhome
    have hhand := hhome.atHand
    cases hhome with
    | claimed hd hclaims =>
      obtain hd' | ⟨source, v, hv, rfl⟩ := hd
      · exact hd'.elim
      cases hclaims with
      | document huri =>
        cases huri
        exact ⟨v, hv, rfl⟩
      | part hmem hname =>
        have heval := eval_of_mem_schemaObjects (nameless_of_atHand h hhand).1 hmem
        exact (not_named h hhand heval hname).elim
    | hidden hd hhides =>
      obtain ⟨ms, name, base, hp, hname, -⟩ := hhides.named
      exact (not_named h hd hp hname).elim
  intro uri home home' hhome hhome'
  obtain ⟨v, hv, rfl⟩ := hknown hhome
  obtain ⟨v', hv', rfl⟩ := hknown hhome'
  rw [hv.unique hv']

/-- Where nothing has a name and no document declares a dialect, the documents of the world are uniform. -/
theorem uniform_of_nameless (hdialect : ∀ uri v, w.Gives uri v → v.member? "$schema" = none) : Uniform w Foreign where
  json hd := (nameless_of_atHand h hd).1
  dialects := by
    intro d d' dialect hd hd' hdialect'
    have hnone : d.content.member? "$schema" = none := by
      obtain (hd | ⟨uri, v, hv, rfl⟩) | ⟨uri, v, _, _, hv, -, -, rfl⟩ := hd
      · exact hd.elim
      · exact hdialect uri v hv
      · exact hdialect uri v hv
    rw [Document.dialect?, hnone] at hdialect'
    cases hdialect'
  names {uri v name} hv hname := (not_named h (p := .root) (.inl (.inr ⟨uri, v, hv, rfl⟩)) rfl hname).elim

end Nameless

/-- The documents of a library go by their names. -/
theorem renames_id (w : World) (own : Document → Prop) : Renames w own own id where
  involutive _ := rfl
  source h := h
  copy _ := rfl
  uri _ := rfl
  content _ := rfl

end Library

namespace Schema

open Library

variable {setup : Setup} {uri : String} {schema schema' : Schema}

/-- What a URI is compiled to in a new session, after other URIs have been. -/
def compileUriAfter (setup : Setup) (before : List String) (uri : String) : Except Failure Schema :=
  (do
    let _ ← before.mapM (compileUri setup)
    compileUri setup uri : Compiling Schema).run.run {} |>.1

/-- Where no URI names two things, what a URI is compiled to does not depend on which URIs have been compiled before. -/
theorem compileUri_unique {before before' : List String} (hw : Uniform setup.world Foreign) (hone : Single setup.world Foreign)
    (h : compileUriAfter setup before uri = .ok schema) (h' : compileUriAfter setup before' uri = .ok schema') :
    schema = schema' := by
  have hw := hw.orderly hone
  have hcompiles : ∀ {before schema}, compileUriAfter setup before uri = .ok schema →
      ∃ key fragment v p, Uri.splitFragment uri = (key, fragment) ∧ fragmentPointer fragment = .ok p ∧
        Compiles setup Foreign (.under key v) p schema := by
    intro before schema h
    unfold compileUriAfter at h
    rw [run_bind] at h
    generalize hbefore : (before.mapM (compileUri setup)).run.run {} = r at h
    obtain ⟨r, s⟩ := r
    cases r with
    | error e => cases h
    | ok _ =>
      -- The requests before are a run of their own, which leaves a session that holds what it should.
      have hs : Holds setup Foreign 0 s := run_mapM (I := fun _ => Holds setup Foreign 0)
        (fun _ _ s _ t _ hs ht => (run_compileUri hw hs ht).1) (holds_start setup Foreign) hbefore
      exact (run_compileUri hw hs (Prod.ext h rfl)).2
  obtain ⟨key, fragment, v, p, hsplit, hp, hhand, l, hl, hplace, hfiles⟩ := hcompiles h
  obtain ⟨key', fragment', v', p', hsplit', hp', hhand', l', hl', hplace', hfiles'⟩ := hcompiles h'
  rw [hsplit] at hsplit'
  cases hsplit'
  rw [hp] at hp'
  cases hp'
  cases hw.key hhand hhand' rfl
  cases hl.eq hl'
  -- Both sessions file a node for one location of one document, so it is one node.
  have hroot := Files.agree hw hw (renames_id _ _) (.of_locatedAt hhand hl) (hone.unambiguous _) hfiles hfiles'
  obtain ⟨place, root⟩ := schema
  obtain ⟨place', root'⟩ := schema'
  cases hplace
  cases hplace'
  cases hroot
  rfl

/-- The JSON documents of a table have no names, and no dialects if none is allowed. -/
def namelessAnswers (answers : List (String × Answer)) (dialects : Bool) : Bool :=
  answers.all fun (uri, answer) =>
    match answer with
    | .found r => (r.decode Yaml.read uri).toOption.all fun v =>
      v.isJson && v.every Value.isNameless && (dialects || (v.member? "$schema").isNone)
    | _ => true

private theorem nameless_of_gives {answers : List (String × Answer)} {dialects : Bool} {uri : String}
    {v : Value} (h : namelessAnswers answers dialects = true) (hv : World.Gives (.ofTable answers) uri v) :
    (v.isJson = true ∧ v.every Value.isNameless = true) ∧ (dialects = false → v.member? "$schema" = none) := by
  obtain ⟨r, hr, hv⟩ := hv
  have hcase := List.all_eq_true.1 h _ (mem_of_lookup ((Loader.serves_table rfl).1 hr))
  dsimp only at hcase
  rw [hv] at hcase
  simp only [Except.toOption, Option.all_some, Bool.and_eq_true, Bool.or_eq_true, Option.isNone_iff_eq_none] at hcase
  refine ⟨hcase.1, fun hdialects => hcase.2.resolve_left ?_⟩
  rw [hdialects]
  exact Bool.false_ne_true

/-- Two documents, one of which refers into the other. -/
def referringAnswers : List (String × Answer) :=
  [("http://x/a", .found ⟨.text r#"{"items": {"$ref": "b#/$defs/s"}}"#, none⟩),
    ("http://x/b", .found ⟨.text r#"{"$defs": {"s": {"maxLength": 2}}}"#, none⟩)]

theorem compileUri_unique_referring : ∃ schema,
    compileUriAfter { world := .ofTable referringAnswers } [] "http://x/a" = .ok schema ∧
    compileUriAfter { world := .ofTable referringAnswers } ["http://x/b", "http://x/b#/$defs/s"]
      "http://x/a" = .ok schema := by
  obtain ⟨schema, h, -⟩ := exists_eq_ok_of_any
    (x := compileUriAfter { world := .ofTable referringAnswers } [] "http://x/a") (p := fun _ => true)
    (by decide +kernel)
  obtain ⟨schema', h', -⟩ := exists_eq_ok_of_any
    (x := compileUriAfter { world := .ofTable referringAnswers } ["http://x/b", "http://x/b#/$defs/s"]
      "http://x/a") (p := fun _ => true) (by decide +kernel)
  have hnameless : namelessAnswers referringAnswers false = true := by decide +kernel
  have hjson := fun uri v (hv : World.Gives (.ofTable referringAnswers) uri v) =>
    (nameless_of_gives hnameless hv).1
  have hw := uniform_of_nameless hjson fun uri v hv => (nameless_of_gives hnameless hv).2 rfl
  exact ⟨schema, h, compileUri_unique hw (single_of_nameless hjson) h' h ▸ h'⟩

/-- A document of draft 07 that refers to one that declares no dialect. -/
def dialectAnswers : List (String × Answer) :=
  [("http://x/a", .found ⟨.text (r#"{"$schema": "http://json-schema.org/draft-07/schema#", "# ++
      r#""allOf": [{"$ref": "http://x/b"}]}"#), none⟩),
    ("http://x/b", .found ⟨.text (r##"{"$ref": "#/$defs/s", "maxLength": 2, "## ++
      r#""$defs": {"s": {"type": "string"}}}"#), none⟩)]

/-- Although no URI names two things, a document is compiled in another dialect after one that refers to it. -/
theorem compileUri_dialect_of_referrer : Single (.ofTable dialectAnswers) Foreign ∧ ∃ schema schema',
    compileUriAfter { world := .ofTable dialectAnswers } [] "http://x/b" = .ok schema ∧
    compileUriAfter { world := .ofTable dialectAnswers } ["http://x/a"] "http://x/b" = .ok schema' ∧
    schema.root.accepts (.str "abc") = .ok false ∧ schema'.root.accepts (.str "abc") = .ok true := by
  have hnameless : namelessAnswers dialectAnswers true = true := by decide +kernel
  refine ⟨single_of_nameless fun uri v hv => (nameless_of_gives hnameless hv).1, ?_⟩
  obtain ⟨schema, h, haccepts⟩ := exists_eq_ok_of_any
    (x := compileUriAfter { world := .ofTable dialectAnswers } [] "http://x/b")
    (p := fun schema => (schema.root.accepts (.str "abc")).toOption == some false) (by decide +kernel)
  obtain ⟨schema', h', haccepts'⟩ := exists_eq_ok_of_any
    (x := compileUriAfter { world := .ofTable dialectAnswers } ["http://x/a"] "http://x/b")
    (p := fun schema => (schema.root.accepts (.str "abc")).toOption == some true) (by decide +kernel)
  exact ⟨schema, schema', h, h', toOption_eq_some.1 (beq_iff_eq.1 haccepts), toOption_eq_some.1 (beq_iff_eq.1 haccepts')⟩

end Schema

end Conform
