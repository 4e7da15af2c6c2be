import Conform.Proofs.Compile.Account
import Conform.Proofs.Compile.Bases
import Conform.Proofs.Compile.Determined
import Conform.Proofs.Compile.Objects
import Conform.Proofs.Compile.Survey

/-!
# Libraries

The documents that a session can come to hold: those of callers, and those that the world has.  A document of the world is
kept under its URI, and a copy of it under the name that it gives itself.  In an orderly library (`Library.Orderly`) there
is one document to a key, and its locations are compiled under one base and one dialect.  Then whatever a session compiles
without a failure it compiles as the documents have it (`Library.survey`), in whatever order it is asked for.
-/

namespace Conform

/-! ### Documents at hand -/

/-- The world has a document under the URI. -/
def World.Gives (w : World) (uri : String) (v : Value) : Prop :=
  ∃ r, Loader.Serves w uri r ∧ r.decode w.yaml uri = .ok v

theorem World.Gives.unique {w : World} {uri : String} {v v' : Value} (h : w.Gives uri v) (h' : w.Gives uri v') :
    v = v' := by
  obtain ⟨r, hr, hv⟩ := h
  obtain ⟨r', hr', hv'⟩ := h'
  rw [hr.unique hr', hv'] at hv
  exact (Except.ok.inj hv).symm

/-- At the location there is a reference to the URI, whatever its fragment. -/
def Location.Refers (l : Location) (uri : String) : Prop :=
  ∃ members inner ref full fragment, l.value = .obj members ∧ l.Inner members inner ∧ (.str "$ref", .str ref) ∈ members ∧
    resolveUri inner.base ref = .ok full ∧ Uri.splitFragment full = (uri, fragment)

namespace Document

/-- The document that is filed and reported under a URI. -/
abbrev under (uri : String) (v : Value) : Document := ⟨uri, some uri, v⟩

/-- At the place lies an object whose name comes to a URI that the document does not claim. -/
structure Hides (d : Document) (uri : String) (p : Pointer) : Prop where
  unclaimed : ∀ home, ¬d.Claims uri home
  nonempty : uri.isEmpty = false
  named : ∃ ms name base, p.eval d.content = .ok (.obj ms) ∧ lookupKey (.str "$id") ms = some (.str name) ∧
    d.baseAt p = .ok base ∧ resolveName base name = .ok uri

theorem Claims.document_eq {d : Document} {uri : String} {home : Home} (h : d.Claims uri home) : home.document = d := by
  cases h <;> rfl

end Document

namespace Library

section Documents

variable (w : World) (own : Document → Prop)

/-- The document is a caller's own, or the world has it under its URI. -/
def IsSource (d : Document) : Prop := own d ∨ ∃ uri v, w.Gives uri v ∧ d = .under uri v

/-- The document is one that the world has, under the name that it gives itself. -/
def IsCopy (d : Document) : Prop :=
  ∃ uri v name short, w.Gives uri v ∧ v.member? "$id" = some (.str name) ∧ Uri.dropFragment name = .ok short ∧
    d = .under short v

/-- A session can come to hold the document. -/
def AtHand (d : Document) : Prop := IsSource w own d ∨ IsCopy w d

/-- The URI can come to name the home. -/
inductive Known (uri : String) (home : Home) : Prop where
  | claimed (hd : IsSource w own home.document) (h : home.document.Claims uri home)
  | hidden (hd : AtHand w own home.document) (h : home.document.Hides uri home.origin)

/-- What URIs can name in a document: the document at hand, if they are empty, or a home that is known. -/
def Names (d : Document) (uri : String) (home : Home) : Prop :=
  uri.isEmpty = true ∧ home = ⟨d, .root⟩ ∨ uri.isEmpty = false ∧ Known w own uri home

/-- The documents at hand are JSON, all of them declare their dialects or none does, and the name that a document of the
world gives itself comes to one URI, whether it is read under the URI of the document or under itself. -/
structure Uniform : Prop where
  json : ∀ {d}, AtHand w own d → d.content.isJson = true
  dialects : ∀ {d d' dialect}, AtHand w own d → AtHand w own d' → d.dialect? = .ok (some dialect) → d'.dialect? ≠ .ok none
  names : ∀ {uri v name}, w.Gives uri v → v.member? "$id" = some (.str name) → name.startsWith "#" = false ∧
    ∃ short, short.isEmpty = false ∧ Uri.dropFragment name = .ok short ∧ resolveName (some uri) name = .ok short ∧
      resolveName (some short) name = .ok short

/-- The documents at hand are uniform, and there is one to a key. -/
structure Orderly : Prop extends Uniform w own where
  key : ∀ {d d'}, AtHand w own d → AtHand w own d' → d.key = d'.key → d = d'

/-- What a session that comes to hold such documents has in its cache and under its URIs: copies only of documents that
are filed. -/
structure IsStock (cache : List (String × Loaded)) (homes : List (String × Home)) : Prop where
  cached : ∀ {uri d}, cache.lookup uri = some d → w.Gives uri d.value ∨ ∃ source name, w.Gives source d.value ∧
    d.value.member? "$id" = some (.str name) ∧ Uri.dropFragment name = .ok uri ∧
    (Document.under source d.value).IsFiled homes
  known : ∀ {uri home}, homes.lookup uri = some home → Known w own uri home
  filed : ∀ {uri home}, homes.lookup uri = some home → home.document.IsFiled homes

/-- The location is one of a document at hand, as the document has it. -/
structure Located (l : Location) : Prop where
  atHand : AtHand w own l.document
  lies : l.Lies
  based : l.Based
  dialect : l.document.dialect? = .ok l.dialect

/-- The documents of one library stand for those of another that calls them by other names. -/
structure Renames (own' : Document → Prop) (f : Document → Document) : Prop where
  involutive : Function.Involutive f
  source : ∀ {d}, IsSource w own d → IsSource w own' (f d)
  copy : ∀ {d}, IsCopy w d → f d = d
  uri : ∀ d, (f d).uri = d.uri
  content : ∀ d, (f d).content = d.content

/-- The compilation of a location of the library comes to another one right away. -/
def Passage : Location → Location → Prop := Location.Goes fun l => TargetOf (Names w own l.document) l

/-- From the location on, no reference names more than one home. -/
def Unambiguous (l : Location) : Prop :=
  ∀ t, Relation.ReflTransGen (Passage w own) l t → ∀ uri home home', t.Refers uri → Names w own t.document uri home →
    Names w own t.document uri home' → home = home'

end Documents

variable {w : World} {own : Document → Prop} {d : Document} {uri : String} {p : Pointer} {home : Home}
  {cache cache' : List (String × Loaded)} {homes homes' : List (String × Home)}

/-- A location that is asked for is one of the library. -/
theorem Located.of_locatedAt {l : Location} (hd : AtHand w own d) (h : d.LocatedAt p l) : Located w own l := by
  obtain ⟨rfl, rfl, -, hdialect, hbase⟩ := id h
  exact ⟨hd, h.lies, hbase, hdialect⟩

theorem Known.atHand (h : Known w own uri home) : AtHand w own home.document := by
  cases h with
  | claimed hd => exact .inl hd
  | hidden hd => exact hd

namespace Renames

variable {own' : Document → Prop} {f : Document → Document}

theorem atHand (hf : Renames w own own' f) (hd : AtHand w own d) : AtHand w own' (f d) := by
  rcases hd with hd | hd
  · exact .inl (hf.source hd)
  · rw [hf.copy hd]
    exact .inr hd

theorem baseAt (hf : Renames w own own' f) (d : Document) (p : Pointer) : (f d).baseAt p = d.baseAt p := by
  rw [Document.baseAt, Document.baseAt, hf.uri, hf.content]

theorem dialect? (hf : Renames w own own' f) (d : Document) : (f d).dialect? = d.dialect? := by
  rw [Document.dialect?, Document.dialect?, hf.uri, hf.content]

theorem claims_iff (hf : Renames w own own' f) : (f d).Claims uri ⟨f d, p⟩ ↔ d.Claims uri ⟨d, p⟩ := by
  constructor
  · intro h
    cases h with
    | document huri => exact .document (hf.uri d ▸ huri)
    | part hmem hname hanchor huri hne =>
      rw [hf.content] at hmem
      rw [hf.baseAt] at huri
      exact .part hmem hname hanchor huri hne
  · intro h
    cases h with
    | document huri => exact .document ((hf.uri d).trans huri)
    | part hmem hname hanchor huri hne =>
      rw [← hf.content] at hmem
      rw [← hf.baseAt] at huri
      exact .part hmem hname hanchor huri hne

theorem names (hf : Renames w own own' f) (h : Names w own d uri home) :
    Names w own' (f d) uri ⟨f home.document, home.origin⟩ := by
  rcases h with ⟨hempty, rfl⟩ | ⟨hempty, h⟩
  · exact .inl ⟨hempty, rfl⟩
  · refine .inr ⟨hempty, ?_⟩
    obtain ⟨d', p⟩ := home
    cases h with
    | claimed hd h => exact .claimed (hf.source hd) (hf.claims_iff.2 h)
    | hidden hd h =>
      obtain ⟨hunclaimed, hne, ms, name, base, hp, hname, hbase, huri⟩ := h
      refine .hidden (hf.atHand hd) ⟨fun home hclaims => ?_, hne, ms, name, base, ?_, hname, ?_, huri⟩
      · obtain ⟨d'', p'⟩ := home
        cases hclaims.document_eq
        exact hunclaimed _ (hf.claims_iff.1 hclaims)
      · rw [hf.content]
        exact hp
      · rw [hf.baseAt]
        exact hbase

theorem target (hf : Renames w own own' f) {l t : Location} {ref : String} {fragment : Option String}
    (h : TargetOf (Names w own l.document) l ref t fragment) :
    TargetOf (Names w own' (f l.document)) (l.renamed f) ref (t.renamed f) fragment := by
  obtain ⟨full, uri, home, hfull, hsplit, hhome, hpointer, hvalue, hdocument, hbase, dialect, hdialect, heq⟩ := h
  refine ⟨full, uri, _, hfull, hsplit, hf.names hhome, ?_, ?_, congrArg f hdocument, ?_, dialect, ?_, heq⟩
  · rw [hf.content]
    exact hpointer
  · rw [hf.content]
    exact hvalue
  · exact (hf.baseAt _ _).trans hbase
  · exact (hf.dialect? _).trans hdialect

theorem passage (hf : Renames w own own' f) {l t : Location} (h : Passage w own l t) :
    Passage w own' (l.renamed f) (t.renamed f) := by
  cases h with
  | part hvalue hreplaced hinner hsub =>
    refine .part hvalue hreplaced (hinner.renamed f) ?_
    rw [Location.subschemas_renamed]
    exact List.mem_map_of_mem hsub
  | reference hvalue hinner href htarget => exact .reference hvalue (hinner.renamed f) href (hf.target htarget)

end Renames

/-- Where the name of a document comes to one URI, a copy claims nothing but what its source does. -/
theorem Orderly.claims_of_copy (hw : Orderly w own) {v : Value} {name short u : String} (hv : w.Gives uri v)
    (hname : v.member? "$id" = some (.str name)) (hshort : Uri.dropFragment name = .ok short)
    (h : (Document.under short v).Claims u home) : ∃ home', (Document.under uri v).Claims u home' := by
  obtain ⟨hanchor, short', hne, hshort', hresolve, hresolve'⟩ := hw.names hv hname
  rw [hshort] at hshort'
  cases hshort'
  have hjson : v.isJson = true := hw.json (d := .under uri v) (.inl (.inr ⟨uri, v, hv, rfl⟩))
  cases v with
  | scalar | arr | set => cases hname
  | obj ms =>
    have hroot : (.root, .obj ms) ∈ schemaObjects .root (.obj ms) := by simp [schemaObjects]
    cases h with
    | document huri =>
      cases huri
      exact ⟨_, .part hroot hname hanchor hresolve hne⟩
    | @part p schema name' _ hmem hname' hanchor' huri hne' =>
      refine ⟨_, .part hmem hname' hanchor' ?_ hne'⟩
      -- Inside the root both documents have the same base, and at the root the name does not depend on the base.
      cases hp : p.tokens with
      | nil =>
        have heval := eval_of_mem_schemaObjects hjson hmem
        rw [Pointer.eval, hp] at heval
        cases heval
        rw [hname] at hname'
        cases hname'
        rw [Document.baseAt, hp] at huri ⊢
        exact hresolve.trans (hresolve'.symm.trans huri)
      | cons t ts =>
        have hwithin : ∀ base, resolveName base name = .ok short → baseWithin base (.obj ms) = .ok (some short) := by
          intro base hbase
          simp [baseWithin, hname, hbase, Except.map, hne]
        rw [Document.baseAt, hp, baseAlong, hwithin _ hresolve'] at huri
        rw [Document.baseAt, hp, baseAlong, hwithin _ hresolve]
        exact huri

/-! ### Stock -/

theorem lookup_put (uri : String) (d : Loaded) (cache : List (String × Loaded)) (u : String) :
    (Loader.put uri d cache).lookup u = if u = uri then some d else cache.lookup u := by
  induction cache with
  | nil => by_cases hu : u = uri <;> simp [Loader.put, hu]
  | cons e cache ih =>
    obtain ⟨v, e⟩ := e
    rw [Loader.put]
    split
    · rename_i hv
      have hv : v = uri := by simpa using hv
      subst hv
      by_cases hu : u = v
      · simp [hu]
      · simp [hu, List.lookup_cons, beq_eq_false_iff_ne.2 hu]
    · rename_i hv
      have hv : v ≠ uri := by simpa using hv
      by_cases hu : u = v
      · subst hu
        simp [hv]
      · simp only [List.lookup_cons, beq_eq_false_iff_ne.2 hu, ih]

theorem lookup_putNew (uri : String) (d : Loaded) (cache : List (String × Loaded)) (u : String) :
    (Loader.putNew uri d cache).lookup u = (cache.lookup u).or (if u = uri then some d else none) := by
  unfold Loader.putNew
  split
  · rename_i h
    by_cases hu : u = uri
    · subst hu
      obtain ⟨known, hknown⟩ := Option.isSome_iff_exists.1 h
      simp [hknown]
    · simp [hu]
  · rw [List.lookup_append, List.lookup_cons]
    by_cases hu : u = uri
    · simp [hu]
    · simp [hu, beq_eq_false_iff_ne.2 hu]

theorem IsStock.on (hs : IsStock w own cache homes) (hext : Extends homes homes')
    (hknown : ∀ {uri home}, homes'.lookup uri = some home → homes.lookup uri = some home ∨
      Known w own uri home ∧ home.document.IsFiled homes') : IsStock w own cache homes' where
  cached h := by
    rcases hs.cached h with h | ⟨source, name, hv, hname, hshort, hfiled⟩
    · exact .inl h
    · exact .inr ⟨source, name, hv, hname, hshort, hfiled.on hext⟩
  known h := by
    rcases hknown h with h | h
    · exact hs.known h
    · exact h.1
  filed h := by
    rcases hknown h with h | h
    · exact (hs.filed h).on hext
    · exact h.2

/-- A source that is registered adds to what is known. -/
theorem IsStock.register (hs : IsStock w own cache homes) (hd : IsSource w own d)
    (hregisters : d.Registers homes homes') : IsStock w own cache homes' := by
  refine hs.on hregisters.extend fun {uri home} h => (hregisters.new h).imp_right fun hclaims => ?_
  have hdocument := hclaims.document_eq
  exact ⟨.claimed (hdocument ▸ hd) (hdocument ▸ hclaims), hdocument ▸ hregisters.filed⟩

/-- A copy that is registered adds nothing. -/
theorem IsStock.register_copy (hw : Orderly w own) (hs : IsStock w own cache homes) {v : Value} {source name short : String}
    (hv : w.Gives source v) (hname : v.member? "$id" = some (.str name)) (hshort : Uri.dropFragment name = .ok short)
    (hsource : (Document.under source v).IsFiled homes) (hregisters : (Document.under short v).Registers homes homes') :
    IsStock w own cache homes' := by
  refine hs.on hregisters.extend fun {uri home} h => .inl ?_
  rcases hregisters.new h with hold | hclaims
  · exact hold
  · obtain ⟨home', hclaims'⟩ := hw.claims_of_copy hv hname hshort hclaims
    obtain ⟨known, hknown⟩ := Option.isSome_iff_exists.1 (hsource uri home' hclaims')
    rw [hregisters.extend uri known hknown] at h
    cases h
    exact hknown

/-- A document that is fetched and registered is at hand, and a source if its URI named nothing. -/
theorem IsStock.load (hw : Orderly w own) (hs : IsStock w own cache homes) {d : Loaded}
    (hd : Loader.Fetched w uri cache (.ok d) cache') (hregisters : (Document.under uri d.value).Registers homes homes') :
    IsStock w own cache' homes' ∧ AtHand w own (.under uri d.value) ∧
      (homes.lookup uri = none → IsSource w own (.under uri d.value)) := by
  have hsource : w.Gives uri d.value → IsSource w own (.under uri d.value) := fun h => .inr ⟨uri, d.value, h, rfl⟩
  -- What is put into the cache is a source under its own URI, or a copy under its name; what was there stays.
  cases hd with
  | cached h =>
    rcases hs.cached h with hv | ⟨source, name, hv, hname, hshort, hcopied⟩
    · exact ⟨hs.register (hsource hv) hregisters, .inl (hsource hv), fun _ => hsource hv⟩
    · refine ⟨hs.register_copy hw hv hname hshort hcopied hregisters, .inr ⟨source, _, name, uri, hv, hname, hshort, rfl⟩, ?_⟩
      intro hnone
      obtain ⟨home', hclaims'⟩ := hw.claims_of_copy hv hname hshort (.document rfl)
      have hsome := hcopied uri home' hclaims'
      rw [hnone] at hsome
      cases hsome
  | @kept r v h hr hv hname =>
    have hgives : w.Gives uri v := ⟨r, hr, hv⟩
    have hs' := hs.register (hsource hgives) hregisters
    refine ⟨⟨fun {u d} hu => ?_, hs'.known, hs'.filed⟩, .inl (hsource hgives), fun _ => hsource hgives⟩
    rw [lookup_put] at hu
    split at hu
    · cases hu
      exact .inl (‹u = uri› ▸ hgives)
    · exact hs'.cached hu
  | @named r v name short h hr hv hname hshort =>
    have hgives : w.Gives uri v := ⟨r, hr, hv⟩
    have hs' := hs.register (hsource hgives) hregisters
    refine ⟨⟨fun {u d} hu => ?_, hs'.known, hs'.filed⟩, .inl (hsource hgives), fun _ => hsource hgives⟩
    rw [lookup_putNew, lookup_put] at hu
    split at hu
    · cases hu
      exact .inl (‹u = uri› ▸ hgives)
    · cases hlookup : cache.lookup u with
      | some e =>
        rw [hlookup] at hu
        cases hu
        exact hs'.cached hlookup
      | none =>
        rw [hlookup] at hu
        split at hu
        · cases hu
          exact .inr ⟨uri, name, hgives, hname, ‹u = short› ▸ hshort, hregisters.filed⟩
        · cases hu

end Library

end Conform
