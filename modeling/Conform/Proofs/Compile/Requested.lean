import Conform.Proofs.Compile.Reached

/-!
# What a request has compiled

Whichever way a schema is asked for, what is compiled is a document at a pointer (`Request.Asks`): a value or the value of
a text under the URI that it is given, or what is in a file or fetched under its own URI.  What holds of the compilation of
documents in a session that has compiled nothing therefore holds of every request that such a session grants
(`Session.opens_of_asks`).
-/

namespace Conform

/-- The URI of a document that is given one, without the fragment. -/
def Document.IsNamed (base uri : Option String) : Prop :=
  match base with
  | none => uri = none
  | some base => ∃ short, Uri.dropFragment base = .ok short ∧ uri = some short

/-- Where the documents are loaded as the loader does, the request asks for the value at the pointer, as a document under
the URI. -/
inductive Request.Asks (w : World) : Loader → Request → Option String → Value → Pointer → Prop
  | value {l : Loader} {v : Value} {base uri : Option String} (hbase : Document.IsNamed base uri) :
    Asks w l (.value v base) uri v .root
  | text {l : Loader} {text : String} {v : Value} {base uri : Option String}
    (htext : Resource.decode w.yaml ⟨.text text, none⟩ (base.getD "") = .ok v) (hbase : Document.IsNamed base uri) :
    Asks w l (.text text base) uri v .root
  | file {l l' : Loader} {p : Path} {uri : String} {v : Value}
    (hfile : (Loader.loadFile w p).run.run l = (.ok (uri, v), l')) : Asks w l (.file p) (some uri) v .root
  | uri {l l' : Loader} {text uri : String} {fragment : Option String} {d : Loaded} {p : Pointer}
    (hsplit : Uri.splitFragment text = (uri, fragment)) (hfetch : (Loader.fetch w uri).run.run l = (.ok d, l'))
    (hp : Schema.fragmentPointer fragment = .ok p) : Asks w l (.uri text) (some uri) d.value p
  | sourceValue {l : Loader} {v : Value} {uri : Option String} {v' : Value} {p : Pointer}
    (h : Asks w l (.value v none) uri v' p) : Asks w l (.source (.value v)) uri v' p
  | sourcePath {l : Loader} {path : Path} {uri : Option String} {v : Value} {p : Pointer}
    (h : Asks w l (.file path) uri v p) : Asks w l (.source (.path path)) uri v p
  /-- A text is taken for the name of a file, for a URI or for a document, in this order. -/
  | sourceText {l l' : Loader} {text : String} {found : Bool} {uri : Option String} {v : Value} {p : Pointer}
    (hfound : ∀ s : Session, s.loader = l → (Schema.isFile w text).run.run s = (.ok found, { s with loader := l' }))
    (h : Asks w l' (if found then .file (.ofText text) else if Schema.looksLikeUri text then .uri text
      else .text text none) uri v p) : Asks w l (.source (.text text)) uri v p

namespace Session

open Library

variable {setup : Setup} {s t : Session} {schema : Schema}

/-- The session compiles the document at the pointer, and had compiled nothing before. -/
def Opens (setup : Setup) (d : Document) (p : Pointer) (schema : Schema) (t : Session) : Prop :=
  IsBase d.uri ∧ ∃ s, s.Fresh ∧ (Schema.compileAt setup d p).run.run s = (.ok schema, t)

theorem Fresh.loading (h : s.Fresh) (loader : Loader) : ({ s with loader } : Session).Fresh := ⟨h.entries, h.homes⟩

/-- The URI of a file has no mark of fragments. -/
theorem isBase_uriOf (names : List String) : IsBase (some (Path.uriOf names)) := by
  rintro _ ⟨⟩ hmem
  unfold Path.uriOf at hmem
  simp only [String.toList_append, String.toList_ofList] at hmem
  rcases List.mem_append.1 hmem with hmem | hmem
  · revert hmem
    decide
  · split at hmem
    · revert hmem
      decide
    · obtain ⟨name, -, hmem⟩ := List.mem_flatMap.1 hmem
      rcases List.mem_cons.1 hmem with hmem | hmem
      · revert hmem
        decide
      · exact Text.Percent.not_mem_encode rfl hmem

theorem uri_of_loadFile {w : World} {p : Path} {l l' : Loader} {uri : String} {v : Value}
    (h : (Loader.loadFile w p).run.run l = (.ok (uri, v), l')) : uri = Path.uriOf (p.resolve w.files.here) := by
  unfold Loader.loadFile at h
  rw [run_bind, show (Loader.consult (.path p)).run.run l = (.ok (), _) from rfl] at h
  dsimp only at h
  split at h
  · cases h
  · cases h
  · rw [run_bind] at h
    split at h
    · cases h
      rfl
    · cases h

variable {uri : Option String} {D : Value} {p : Pointer} {request : Request} {x : Compiling Schema}

private theorem opens_of_value {base : Option String} (hs : s.Fresh) (hbase : Document.IsNamed base uri)
    (h : (Schema.compileValue setup D base).run.run s = (.ok schema, t)) : ∃ key, Opens setup ⟨key, uri, D⟩ .root schema t := by
  cases base with
  | none =>
    obtain rfl : uri = none := hbase
    rw [Schema.run_compileValue_none] at h
    have hnext : ({ s with registry := { s.registry with anonymous := s.registry.anonymous + 1 } } : Session).Fresh :=
      ⟨hs.entries, hs.homes⟩
    exact ⟨_, by rintro _ ⟨⟩, _, hnext, h⟩
  | some base =>
    obtain ⟨short, hshort, rfl⟩ := hbase
    rw [Schema.run_compileValue_some, hshort] at h
    refine ⟨_, ?_, s, hs, h⟩
    rintro _ ⟨⟩
    exact Uri.not_mem_of_dropFragment hshort

/-- A session that has compiled nothing, and grants a request, compiles what the request asks for. -/
theorem opens_of_asks (hx : request.schema? setup = some x) (hasks : request.Asks setup.world s.loader uri D p)
    (hs : s.Fresh) (h : x.run.run s = (.ok schema, t)) : ∃ key, Opens setup ⟨key, uri, D⟩ p schema t := by
  generalize hl : s.loader = l at hasks
  induction hasks generalizing s x with
  | value hbase =>
    cases hx
    exact opens_of_value hs hbase h
  | text htext hbase =>
    cases hx
    unfold Schema.compileText Schema.compileRead at h
    rw [htext] at h
    exact opens_of_value hs hbase h
  | file hfile =>
    subst hl
    cases hx
    unfold Schema.compileFile at h
    rw [run_bind, Compiling.run_ofLoading, hfile] at h
    refine ⟨_, ?_, _, hs.loading _, h⟩
    rw [uri_of_loadFile hfile]
    exact isBase_uriOf _
  | uri hsplit hfetch hp =>
    subst hl
    cases hx
    unfold Schema.compileUri at h
    rw [hsplit] at h
    dsimp only at h
    rw [run_bind, Compiling.run_resolve, hfetch] at h
    simp only [Except.map, mapError_ok] at h
    rw [run_bind, Compiling.run_ofExcept, hp] at h
    refine ⟨_, ?_, _, hs.loading _, h⟩
    rintro _ ⟨⟩
    exact Uri.not_mem_of_splitFragment hsplit
  | sourceValue _ ih =>
    cases hx
    refine ih rfl hs ?_ hl
    unfold Schema.compileSource at h
    dsimp only at h
    split at h
    · exact h
    · exact h
    · cases h
  | sourcePath _ ih =>
    cases hx
    exact ih rfl hs h hl
  | @sourceText l l' text found uri v p hfound hasks ih =>
    cases hx
    unfold Schema.compileSource at h
    dsimp only at h
    rw [run_bind, hfound s hl] at h
    dsimp only at h
    cases found with
    | true => exact ih rfl (hs.loading l') h rfl
    | false =>
      simp only [Bool.false_eq_true, ↓reduceIte] at h ih
      split at h
      · rename_i hlooks
        exact ih (by simp [hlooks, Request.schema?]) (hs.loading l') h rfl
      · rename_i hlooks
        exact ih (by simp [hlooks, Request.schema?]) (hs.loading l') h rfl

end Session

end Conform
