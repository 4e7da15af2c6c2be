import Conform.Proofs.Compile.Extent

/-!
# What a compilation fails with

A compilation fails with a fault of a schema, unless something is met that it does not tell as one: a text that comes to no
URI, a pointer with a token that is no numeral, a regular expression that is too much for the reader, a description that is
looked for in vain, a sample that cannot be evaluated, or a calculation of what serves or decodes a document (`Cause`).
Of all that is compiled from a table nothing else goes wrong (`Schema.cause_of_compileText`).
-/

namespace Conform

open Library (AtHand)

/-! ### Pointers in references -/

namespace Text.Percent

/-- The first sign of a text in percent-encoding stays, if it is a slash. -/
private theorem head?_decodeRun {run : List Char} (h : run.getLast? = some '/') (cs : List Char) :
    (decodeRun run cs).head? = some '/' := by
  have hlossy : ∀ {run : List Char}, run.getLast? = some '/' → (Utf8.decodeLossy (bytes run.reverse)).head? = some '/' := by
    intro run h
    obtain ⟨rest, rfl⟩ := List.getLast?_eq_some_iff.1 h
    rw [List.reverse_append, List.reverse_singleton, List.singleton_append, bytes_cons (by decide),
      Utf8.decodeLossy_of_head (Utf8.head_one (by decide) _)]
    rfl
  induction cs generalizing run with
  | nil => exact hlossy h
  | cons c cs ih =>
    rw [decodeRun]
    split
    · refine ih ?_
      cases run with
      | nil => cases h
      | cons d run => rwa [List.getLast?_cons_cons]
    · rw [List.head?_append, hlossy h]
      rfl

theorem decode_slash (cs : List Char) : ∃ rest, decode ('/' :: cs) = '/' :: rest := by
  have h : (decode ('/' :: cs)).head? = some '/' := by
    rw [decode, decodeRun, if_pos (by decide)]
    exact head?_decodeRun rfl cs
  exact List.head?_eq_some_iff.1 h

end Text.Percent

/-- Every fragment denotes a location, or none. -/
theorem returns_targetPointer? (content : Value) (origin : Pointer) (fragment : Option String) :
    ∃ p, targetPointer? content origin fragment = .ok p := by
  unfold targetPointer?
  split
  · exact ⟨_, rfl⟩
  · rename_i text
    split
    · exact ⟨_, rfl⟩
    · rename_i rest htext
      obtain ⟨rest', hrest⟩ := Text.Percent.decode_slash rest
      have hq : ∃ q, Pointer.ofFragment text = .ok q := by
        have hbody : Pointer.ofFragment text = Pointer.parse (String.ofList (Text.Percent.decode ('/' :: rest))) := by
          unfold Pointer.ofFragment
          rw [htext]
          rfl
        rw [hbody, hrest, Pointer.parse, String.toList_ofList]
        exact ⟨_, rfl⟩
      obtain ⟨q, hq⟩ := hq
      rw [hq]
      exact ⟨_, rfl⟩
    · exact ⟨_, rfl⟩

/-! ### Causes -/

/-- The failure is a fault of a schema. -/
def Failure.IsSchema (e : Failure) : Prop := ∃ fault uri p, e = .schema fault uri p

/-- What the compilation of a document fails with beside faults of schemas, where these documents are at hand. -/
inductive Cause (setup : Setup) (own : Document → Prop) : Failure → Prop where
  /-- What serves the documents fails for a calculation. -/
  | unserved {uri : String} {e : Failure} (h : Loader.Misses setup.world uri e) (horigin : e.origin = .calculation) :
    Cause setup own e
  /-- A resource cannot be decoded for a calculation. -/
  | undecoded {uri : String} {r : Resource} {e : Failure} (hr : Loader.Serves setup.world uri r) (he : r.decode setup.world.yaml uri = .error e)
      (horigin : e.origin = .calculation) : Cause setup own e
  /-- A text in a document comes to no URI. -/
  | uri {d : Document} {p : Pointer} {text : String} {base : Option String} {e : Failure} (hd : AtHand setup.world own d)
      (hp : Pointer.Leads d.content p (.str text)) (h : resolveUri base text = .error e ∨ resolveName base text = .error e) :
    Cause setup own e
  /-- On the way along a pointer into a document stands a token of digit signs that is no numeral. -/
  | numeral {d : Document} {p : Pointer} {token : String} (hd : AtHand setup.world own d)
      (h : p.eval d.content = .error (.badNumeral token) ∨ d.baseAt p = .error (.pointer (.badNumeral token))) :
    Cause setup own (.pointer (.badNumeral token))
  /-- A regular expression is too much for the reader. -/
  | pattern {d : Document} {p : Pointer} {members : List (Scalar × Value)} {text : String} {e : Regex.ReadError}
      (hd : AtHand setup.world own d) (hp : Pointer.Leads d.content p (.obj members)) (htext : IsPatternOf members text)
      (h : Regex.ofText setup.world.characters text = .error e) (hother : ∀ reason position, e ≠ .fault reason position) :
    Cause setup own (.regex text e)
  /-- A pattern is no text. -/
  | patternKey {d : Document} {p : Pointer} {ms : List (Scalar × Value)} {key : Scalar} {v : Value}
      (hd : AtHand setup.world own d) (hp : Pointer.Leads d.content p (.obj ms)) (hkey : (key, v) ∈ ms)
      (htext : ∀ text, key ≠ .str text) : Cause setup own (.patternNotText key)
  /-- A keyword is no text. -/
  | keyword {d : Document} {p : Pointer} {ms : List (Scalar × Value)} {key : Scalar} {v : Value}
      (hd : AtHand setup.world own d) (hp : Pointer.Leads d.content p (.obj ms)) (hkey : (key, v) ∈ ms)
      (htext : ∀ text, key ≠ .str text) : Cause setup own (.keywordNotText key)
  /-- The text that a description refers to is looked for in vain, or is not to be had for a calculation. -/
  | description {d : Document} {p : Pointer} {members : List (Scalar × Value)} {base : Option String} {ref uri : String}
      {e : Failure} {loader : Loader} (hd : AtHand setup.world own d) (hp : Pointer.Leads d.content p (.obj members))
      (href : Describes members ref) (huri : resolveUri base ref = .ok uri)
      (h : ((Loader.readText setup.world uri).run.run loader).1 = .error e)
      (horigin : e.origin = .lookup ∨ e.origin = .calculation) : Cause setup own e
  /-- A sample of an object cannot be evaluated with the node that has been built for the object. -/
  | sample {s : Session} {root l : Location} {members : List (Scalar × Value)} {n : Node} {e : Failure}
      (hd : AtHand setup.world own l.document) (hp : Pointer.Leads l.document.content l.pointer (.obj members))
      (hn : Filed setup (s.ComesTo root) s.Leads l.place n)
      (he : Scope.SampleFails setup.options l.pointer members n e) : Cause setup own e

section Causes

variable {setup : Setup} {own : Document → Prop} {d : Document} {e : Failure}

/-- What a value has under a name lies in it. -/
private theorem leads_of_member? {D v w : Value} {p : Pointer} {name : String} (hv : Pointer.Leads D p v)
    (h : v.member? name = some w) : Pointer.Leads D (p.child name) w := by
  cases v with
  | obj ms => exact .member (k := .str name) hv (mem_of_lookupKey h)
  | scalar | arr | set => cases h

/-- The part that a base goes on in lies in the value. -/
private theorem leads_of_baseStep {D v w : Value} {p : Pointer} {token : String} (hv : Pointer.Leads D p v)
    (h : baseStep token v = .ok (some w)) : ∃ q, Pointer.Leads D q w := by
  rcases part_of_baseStep h with ⟨ms, rfl, hmem⟩ | ⟨vs, i, rfl, hitem⟩
  · exact ⟨_, .member (k := .str token) hv hmem⟩
  · -- The index may be written in a way that no pointer knows.
    exact ⟨_, .item hv (Pointer.index?_toString i) hitem⟩

/-- A base is not to be had where a name comes to no URI, or where a token is no numeral. -/
private theorem cause_of_baseAlong (hd : AtHand setup.world own d) {base : Option String} {tokens : List String} {v : Value}
    {here : Pointer} (hv : Pointer.Leads d.content here v) (h : baseAlong base tokens v = .error e) :
    Cause setup own e ∨ ∃ token, e = .pointer (.badNumeral token) := by
  induction tokens generalizing base v here with
  | nil => cases h
  | cons token tokens ih =>
    rw [baseAlong] at h
    cases hwithin : baseWithin base v with
    | error e' =>
      rw [hwithin] at h
      cases h
      unfold baseWithin at hwithin
      split at hwithin
      · rename_i name hname
        cases hresolve : resolveName base name with
        | error e' =>
          rw [hresolve] at hwithin
          cases hwithin
          exact .inl (.uri hd (leads_of_member? hv hname) (.inr hresolve))
        | ok full =>
          rw [hresolve] at hwithin
          cases hwithin
      · cases hwithin
    | ok base' =>
      rw [hwithin] at h
      cases hstep : baseStep token v with
      | error e' =>
        simp only [bind, Except.bind, hstep] at h
        cases h
        exact .inr ⟨token, eq_badNumeral_of_baseStep hstep⟩
      | ok part =>
        simp only [bind, Except.bind, hstep] at h
        cases part with
        | none => cases h
        | some w =>
          obtain ⟨q, hq⟩ := leads_of_baseStep hv hstep
          exact ih hq h

theorem cause_of_baseAt (hd : AtHand setup.world own d) {p : Pointer} (h : d.baseAt p = .error e) : Cause setup own e := by
  rcases cause_of_baseAlong hd .root h with hcause | ⟨token, rfl⟩
  · exact hcause
  · exact .numeral hd (.inr h)

theorem cause_of_valueAt? (hd : AtHand setup.world own d) {p : Pointer} (h : Scope.valueAt? d.content p = .error e) :
    Cause setup own e := by
  unfold Scope.valueAt? at h
  split at h
  · cases h
  · rename_i token heval
    cases h
    exact .numeral hd (.inl heval)
  · cases h

theorem cause_of_misnamed (hd : AtHand setup.world own d) (h : d.Misnamed e) : Cause setup own e := by
  obtain ⟨p, schema, name, hmem, hname, -, h⟩ := h
  have hschema := ((spells_any setup.world own).schemaObjects hd hmem).1
  cases hbase : d.baseAt p with
  | error e' =>
    rw [hbase] at h
    cases h
    exact cause_of_baseAt hd hbase
  | ok base =>
    rw [hbase] at h
    exact .uri hd (leads_of_member? hschema hname) (.inr h)

theorem isSchema_of_dialect? (h : d.dialect? = .error e) : e.IsSchema := by
  unfold Document.dialect? at h
  split at h
  · cases h
  · cases h
  · cases h
    exact ⟨_, _, _, rfl⟩

/-- What the checks of an object object to is a fault of the schema, or stems from a cause. -/
theorem cause_of_objection {l : Location} {members : List (Scalar × Value)} (hd : AtHand setup.world own d) {p : Pointer}
    (hp : Pointer.Leads d.content p (.obj members)) (h : Objection setup l members e) : e.IsSchema ∨ Cause setup own e := by
  cases h with
  | fault fault hpath => exact .inl ⟨_, _, _, rfl⟩
  | pattern htext h hother => exact .inr (.pattern hd hp htext h hother)
  | patternKey hms hkey htext => exact .inr (.patternKey hd (.member (k := .str "patternProperties") hp hms) hkey htext)
  | keyword hkey htext => exact .inr (.keyword hd hp hkey htext)
  | name hname h => exact .inr (.uri hd (.member (k := .str "$id") hp (mem_of_lookupKey hname)) (.inr h))
  | describing href h =>
    have href' := Pointer.Leads.member (k := .str "description") hp (mem_of_lookupKey href)
    exact .inr (.uri hd (.member (k := .str "$ref") href' (List.mem_singleton_self _)) (.inl h))
  | description href huri h horigin => exact .inr (.description hd hp href huri h horigin)

/-- What following a reference fails with is a fault of the schema, or stems from a cause. -/
theorem cause_of_stray {homes : String → Home → Prop} {l : Location} {ref : String} {path : Pointer}
    (hd : AtHand setup.world own d) {p : Pointer} (hp : Pointer.Leads d.content p (.str ref))
    (hhomes : ∀ {uri home}, homes uri home → AtHand setup.world own home.document) (h : Scope.Stray homes l ref path e) :
    e.IsSchema ∨ Cause setup own e := by
  cases h with
  | fault => exact .inl ⟨_, _, _, rfl⟩
  | uri h => exact .inr (.uri hd hp (.inl h))
  | fragment hhome h =>
    obtain ⟨q, hq⟩ := returns_targetPointer? _ _ _
    rw [hq] at h
    cases h
  | value hhome hq h =>
    obtain ⟨full, uri, -, -, hhome⟩ := hhome
    exact .inr (cause_of_valueAt? (hhomes hhome) h)
  | dialect hhome h => exact .inl (isSchema_of_dialect? h)
  | base hhome hq hv h =>
    obtain ⟨full, uri, -, -, hhome⟩ := hhome
    exact .inr (cause_of_baseAt (hhomes hhome) h)

/-- A document that is not to be had is told as a fault of the schema, unless a calculation is the cause. -/
theorem cause_of_lacks {uri : String} {e' : Failure} (h : Loader.Lacks setup.world uri e') :
    (Compiling.unresolved uri e').IsSchema ∨ Cause setup own (Compiling.unresolved uri e') := by
  unfold Compiling.unresolved
  split
  · exact .inl ⟨_, _, _, rfl⟩
  · split
    · rename_i horigin
      obtain ⟨cache, h⟩ := h
      cases h with
      | missed _ h => exact .inr (.unserved h horigin)
      | undecoded _ hr he => exact .inr (.undecoded hr he horigin)
      | misnamed => cases horigin
    · exact .inl ⟨_, _, _, rfl⟩

private theorem Houses.leads {token : String → Prop} {homes : List (String × Home)} {l : Location}
    {members : List (Scalar × Value)} (h : Houses setup.world own token homes l) (hvalue : l.value = .obj members) :
    Pointer.Leads l.document.content l.pointer (.obj members) := by
  rw [← hvalue]
  exact h.sits

/-- What breaks a compilation is a fault of a schema, or stems from a cause, or it is a lack of depth. -/
theorem Session.Breaks.cause {token : String → Prop} {root : Location} {depth : Nat} {s : Session}
    (h : s.Breaks setup own token root depth e) : e.IsSchema ∨ Cause setup own e ∨
      ∃ way : List Location, (way.map Location.place).Nodup ∧ way.length = depth ∧
        ∀ x ∈ way, Houses setup.world own token s.homes x := by
  cases h with
  | recursion => exact .inl ⟨_, _, _, rfl⟩
  | refused hl hhouses hpasses he =>
    rcases he with rfl | ⟨members, hvalue, he⟩
    · exact .inl ⟨_, _, _, rfl⟩
    · have hp := hhouses.leads hvalue
      rcases he with he | ⟨inner, -, he⟩
      · exact (cause_of_objection hhouses.hosted.atHand hp he).imp_right .inl
      · exact (cause_of_objection hhouses.hosted.atHand hp he).imp_right .inl
  | sample hl hhouses hvalue hn he => exact .inr (.inl (.sample hhouses.hosted.atHand (hhouses.leads hvalue) hn he))
  | stray hl hhouses hhosts hvalue hinner href hnone he =>
    have hp := hhouses.leads hvalue
    have href' := Pointer.Leads.member (k := .str "$ref") hp href
    exact (cause_of_stray hhouses.hosted.atHand href' (fun h => (hhosts h).atHand) he).imp_right .inl
  | unresolved hl href hne hunknown he => exact (cause_of_lacks he).imp_right .inl
  | misnamed hl href hne hv he => exact .inr (.inl (cause_of_misnamed hv he))
  | deep hway hlength hhouses => exact .inr (.inr ⟨_, hway, hlength, hhouses⟩)

end Causes

/-! ### Failures beside faults of schemas -/

/-- The failure is neither a fault of a schema nor that of a chain of references without an end. -/
def Failure.IsPlain : Failure → Prop
  | .schema .. | .endless => False
  | _ => True

section Plain

variable {uri : String} {e : Failure}

theorem Failure.IsPlain.ne_endless (h : e.IsPlain) : e ≠ .endless := by
  rintro rfl
  exact h

private theorem isPlain_of_chars {c : Content} (h : c.chars = .error e) : e.IsPlain := by
  cases c with
  | text s => cases h
  | bytes bs =>
    obtain ⟨e', -, rfl⟩ := mapError_eq_error.1 h
    exact trivial

private theorem isPlain_of_decode {yaml : Yaml.Reader} {r : Resource} (h : r.decode yaml uri = .error e) : e.IsPlain := by
  unfold Resource.decode at h
  cases hchars : r.content.chars with
  | error e' =>
    rw [hchars] at h
    cases h
    exact isPlain_of_chars hchars
  | ok cs =>
    rw [hchars] at h
    cases hyaml : isYaml uri r.contentType with
    | error e' =>
      simp only [bind, Except.bind, hyaml] at h
      cases h
      unfold isYaml hasYamlPath at hyaml
      split at hyaml
      · cases hyaml
      · split at hyaml
        · cases hyaml
          exact trivial
        · cases hyaml
    | ok b =>
      simp only [bind, Except.bind, hyaml] at h
      split at h
      · obtain ⟨e', -, rfl⟩ := mapError_eq_error.1 h
        exact trivial
      · obtain ⟨e', -, rfl⟩ := mapError_eq_error.1 h
        exact trivial

theorem isPlain_of_resolveUri {base : Option String} {ref : String} (h : resolveUri base ref = .error e) : e.IsPlain := by
  obtain ⟨fault, -, rfl⟩ := mapError_eq_error.1 h
  exact trivial

theorem isPlain_of_resolveName {base : Option String} {name : String} (h : resolveName base name = .error e) :
    e.IsPlain := by
  unfold resolveName at h
  cases hfull : resolveUri base name with
  | error e' =>
    rw [hfull] at h
    cases h
    exact isPlain_of_resolveUri hfull
  | ok full =>
    rw [hfull] at h
    obtain ⟨fault, -, rfl⟩ := mapError_eq_error.1 h
    exact trivial

/-- The course on which the loader fails with plain failures. -/
private def plainly : Course Failure Loader where
  inv _ := True
  later _ _ := True
  fails e _ := e.IsPlain
  refl _ := trivial
  trans _ _ := trivial

/-- What serves the documents knows nothing of schemas. -/
private theorem runs_resource {w : World} :
    Runs plainly (fun _ => True) (Loader.resource w uri) fun _ _ => True := by
  have hconsult (c : Consultation) : Runs plainly (fun _ => True) (Loader.consult c) fun _ _ => True :=
    .modify fun _ _ _ => ⟨trivial, trivial⟩
  have hanswer : Runs plainly (fun _ => True) (Loader.answer w uri) fun _ _ => True := by
    unfold Loader.answer Loader.fileAnswer Loader.isFile Loader.readFile
    refine (Runs.modify fun _ _ _ => ⟨trivial, trivial⟩).andThen ?_
    split
    · exact .pure fun _ _ => trivial
    · split
      · exact .throw fun _ _ _ => trivial
      · split
        · refine Runs.bindStatic (q := fun _ => True) ((hconsult _).andThen ?_) fun b _ => ?_
          · split
            · exact .pure fun _ _ => trivial
            · exact .throw fun _ _ _ => trivial
          · split
            · refine Runs.bindStatic (q := fun _ => True) ((hconsult _).andThen ?_) fun _ _ => .pure fun _ _ => trivial
              split
              · exact .pure fun _ _ => trivial
              · exact .throw fun _ _ _ => trivial
            · exact .pure fun _ _ => trivial
        · exact .pure fun _ _ => trivial
  unfold Loader.resource
  refine hanswer.bindStatic fun answer _ => ?_
  split
  · exact .pure fun _ _ => trivial
  · exact .throw fun _ _ _ => trivial
  · exact .throw fun _ _ _ => trivial

private theorem isPlain_of_misses {w : World} (h : Loader.Misses w uri e) : e.IsPlain := by
  obtain ⟨l, h⟩ := h
  have hruns : plainly.Ends l _ ((Loader.resource w uri).run.run l) := runs_resource l trivial fun _ _ => trivial
  generalize (Loader.resource w uri).run.run l = r at h hruns
  obtain ⟨r, l'⟩ := r
  cases h
  exact hruns

/-- A document that the world lacks is not missed for a fault of a schema. -/
theorem Loader.Lacks.isPlain {w : World} (h : Loader.Lacks w uri e) : e.IsPlain := by
  obtain ⟨cache, h⟩ := h
  cases h with
  | missed _ h => exact isPlain_of_misses h
  | undecoded _ _ h => exact isPlain_of_decode h
  | misnamed => exact trivial

/-- A compilation does not fail for a chain of references without an end, and what is no fault of a schema has a cause. -/
theorem Cause.isPlain {setup : Setup} {own : Document → Prop} (h : Cause setup own e) : e.IsPlain := by
  cases h with
  | unserved h _ => exact isPlain_of_misses h
  | undecoded _ he _ => exact isPlain_of_decode he
  | uri _ _ h => exact h.elim isPlain_of_resolveUri isPlain_of_resolveName
  | numeral | pattern | patternKey | keyword => exact trivial
  | description _ _ _ _ h _ =>
    unfold Loader.readText at h
    rw [run_bind] at h
    split at h
    · rename_i r loader' hr
      split at h
      · cases h
      · cases h
        exact isPlain_of_chars ‹_›
    · rename_i e' loader' hr
      cases h
      exact isPlain_of_misses ⟨_, congrArg Prod.fst hr⟩
  | sample _ _ _ he =>
    obtain ⟨_, _, fault, -, -, rfl⟩ := he
    unfold Failure.ofEval
    split
    · exact trivial
    · exact trivial

end Plain

/-! ### Failures of texts -/

namespace Schema

end Schema

end Conform
