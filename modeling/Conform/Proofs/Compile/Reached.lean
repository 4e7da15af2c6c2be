import Conform.Proofs.Compile.Sequences
import Conform.Proofs.Compile.Trees
import Conform.Proofs.Fragment

/-!
# What a compilation comes to

Where references lead is told by the homes of the session that a compilation has come to (`Session.Leads`).  So the session
tells which locations the compilation comes to (`Session.ComesTo`) and, where it fails, what breaks it (`Session.Breaks`):
of whatever kind the documents are, and whether their names are ambiguous or not (`Session.hasCompiled_compileAt`).
-/

namespace Conform

open Library (AtHand)

/-! ### Where references lead -/

theorem TargetOf.mono {homes homes' : String → Home → Prop} {l t : Location} {ref : String} {fragment : Option String}
    (hhomes : ∀ uri home, homes uri home → homes' uri home) (h : TargetOf homes l ref t fragment) :
    TargetOf homes' l ref t fragment := by
  obtain ⟨full, uri, home, hfull, hsplit, hhome, hrest⟩ := h
  exact ⟨full, uri, home, hfull, hsplit, hhomes uri home hhome, hrest⟩

theorem Location.Goes.mono {leads leads' : Location → String → Location → Option String → Prop} {l t : Location}
    (hleads : ∀ l ref t fragment, leads l ref t fragment → leads' l ref t fragment) (h : l.Goes leads t) :
    l.Goes leads' t := by
  cases h with
  | part hvalue hreplaced hinner hsub => exact .part hvalue hreplaced hinner hsub
  | reference hvalue hinner href htarget => exact .reference hvalue hinner href (hleads _ _ _ _ htarget)

namespace Session

variable {s t : Session}

/-- What the URIs of references name in a document, as the session has it. -/
def Names (s : Session) (d : Document) (uri : String) (home : Home) : Prop :=
  uri.isEmpty = true ∧ home = ⟨d, .root⟩ ∨ uri.isEmpty = false ∧ s.homes.lookup uri = some home

/-- Where the references of a location lead, as the session has it. -/
def Leads (s : Session) (l : Location) : String → Location → Option String → Prop := TargetOf (s.Names l.document) l

/-- The compilation of one location comes to the other, as the session has it. -/
def ComesTo (s : Session) : Location → Location → Prop := Relation.ReflTransGen (Location.Goes s.Leads)

theorem unambiguous_names (s : Session) (d : Document) : Scope.Unambiguous (s.Names d) := by
  rintro uri home home' (⟨hempty, rfl⟩ | ⟨hne, h⟩) (⟨hempty', rfl⟩ | ⟨hne', h'⟩)
  · rfl
  · rw [hempty] at hne'
    cases hne'
  · rw [hempty'] at hne
    cases hne
  · exact Option.some.inj (h.symm.trans h')

theorem Names.on {d : Document} {uri : String} {home : Home} (h : s.Names d uri home) (hext : Extends s.homes t.homes) :
    t.Names d uri home := h.imp_right fun ⟨hne, h⟩ => ⟨hne, hext uri home h⟩

theorem Leads.on {l x : Location} {ref : String} {fragment : Option String} (h : s.Leads l ref x fragment)
    (hext : Extends s.homes t.homes) : t.Leads l ref x fragment := h.mono fun _ _ hname => hname.on hext

theorem ComesTo.on {root l : Location} (h : s.ComesTo root l) (hext : Extends s.homes t.homes) : t.ComesTo root l :=
  Relation.ReflTransGen.mono (fun _ _ hgo => hgo.mono fun _ _ _ _ hleads => hleads.on hext) _ _ h

/-- The home of a URI is the one that the session has for it, where nothing that is filed is lost. -/
theorem runs_home_names {C : Course Failure Session} {P : Session → Prop} {scope : Scope} {uri : String}
    (huri : '#' ∉ uri.toList) (hlater : ∀ {s t}, C.later s t → Extends s.homes t.homes)
    (hload : ∀ s d t, C.inv s → P s → s.Loads scope.setup.world uri t d → C.inv t ∧ C.later s t)
    (hfails : uri.isEmpty = false → ∀ s e t, C.inv s → P s → s.LoadFails scope.setup.world uri e t → C.fails e t) :
    Runs C P (scope.home uri) fun home s => s.Names scope.document uri home := by
  refine Scope.runs_home huri (fun hempty s _ => .inl ⟨hempty, rfl⟩)
    (fun hne s home _ _ hlookup t ht => .inr ⟨hne, hlater ht uri home hlookup⟩) (fun hne s d t hin hP hloads => ?_) hfails
  have hknown := hloads.registers.own rfl hloads.unknown
  obtain ⟨ht, hlater'⟩ := hload s d t hin hP hloads
  exact ⟨ht, hlater', fun u hu => .inr ⟨hne, hlater hu _ _ hknown⟩⟩

end Session

/-! ### Bases without a fragment mark -/

/-- The base, if there is one, has no mark of fragments. -/
def IsBase (base : Option String) : Prop := ∀ uri, base = some uri → '#' ∉ uri.toList

section Bases

variable {base inner : Option String}

theorem isBase_of_resolveName {name uri : String} (h : resolveName base name = .ok uri) : IsBase (some uri) := by
  unfold resolveName at h
  rintro _ ⟨⟩
  cases hfull : resolveUri base name with
  | error e =>
    rw [hfull] at h
    cases h
  | ok full =>
    rw [hfull] at h
    cases hdrop : Uri.dropFragment full with
    | error fault =>
      simp only [Except.bind, hdrop] at h
      cases h
    | ok short =>
      simp only [Except.bind, hdrop] at h
      cases h
      exact Uri.not_mem_of_dropFragment hdrop

theorem IsBase.within {v : Value} (hbase : IsBase base) (h : baseWithin base v = .ok inner) : IsBase inner := by
  unfold baseWithin at h
  split at h
  · rename_i name hname
    cases huri : resolveName base name with
    | error e =>
      rw [huri] at h
      cases h
    | ok uri =>
      rw [huri] at h
      cases h
      dsimp only
      split
      · exact hbase
      · exact isBase_of_resolveName huri
  · cases h
    exact hbase

theorem IsBase.along {tokens : List String} {v : Value} (hbase : IsBase base) (h : baseAlong base tokens v = .ok inner) :
    IsBase inner := by
  -- The base changes on the way, so the induction on the tokens is for all of them.
  induction tokens generalizing base v with
  | nil =>
    cases h
    exact hbase
  | cons token tokens ih =>
    rw [baseAlong] at h
    cases hwithin : baseWithin base v with
    | error e =>
      rw [hwithin] at h
      cases h
    | ok base' =>
      have hbase' := hbase.within hwithin
      rw [hwithin] at h
      cases hstep : baseStep token v with
      | error e =>
        simp only [bind, Except.bind, hstep] at h
        cases h
      | ok part =>
        simp only [bind, Except.bind, hstep] at h
        cases part with
        | none =>
          cases h
          exact hbase'
        | some w => exact ih hbase' h

theorem IsBase.inside {l inner : Location} {members : List (Scalar × Value)} (hl : IsBase l.base)
    (h : l.Inner members inner) : IsBase inner.base := by
  unfold Location.Inner at h
  split at h
  · rw [h]
    exact hl
  · obtain ⟨base, hbase, rfl⟩ := h
    exact hl.within hbase.1

end Bases

/-! ### What a session holds -/

/-- The tokens of the pointers that the compilation of a document comes to: indexes, keys of the documents at hand, and
tokens in the fragments of their references. -/
structure Spells (w : World) (own : Document → Prop) (token : String → Prop) : Prop where
  index : ∀ i : Nat, token (toString i)
  key : ∀ {d p ms k v}, AtHand w own d → Pointer.Leads d.content p (.obj ms) → (k, v) ∈ ms → token k.words
  fragment : ∀ {d p ref base full uri text q}, AtHand w own d → Pointer.Leads d.content p (.str ref) → IsBase base →
    resolveUri base ref = .ok full → Uri.splitFragment full = (uri, some text) → Pointer.ofFragment text = .ok q →
    ∀ t ∈ q.tokens, token t

/-- Whatever a document holds, it spells some tokens. -/
theorem spells_any (w : World) (own : Document → Prop) : Spells w own fun _ => True where
  index _ := trivial
  key _ _ _ := trivial
  fragment _ _ _ _ _ _ _ _ := trivial

section Holding

variable (w : World) (own : Document → Prop) (token : String → Prop)

/-- The document is the one that is compiled, or it is filed under the URI that it has been loaded from. -/
structure Hosts (homes : List (String × Home)) (d : Document) : Prop where
  atHand : AtHand w own d
  filed : own d ∨ d.uri = some d.key ∧ homes.lookup d.key = some ⟨d, .root⟩
  base : IsBase d.uri

/-- The documents in the cache are at hand, and so are those that have been filed. -/
structure Stocks (cache : List (String × Loaded)) (homes : List (String × Home)) : Prop where
  cached : ∀ {uri d}, cache.lookup uri = some d → AtHand w own (.under uri d.value)
  hosted : ∀ {uri home}, homes.lookup uri = some home → Hosts w own homes home.document
  spelt : ∀ {uri home}, homes.lookup uri = some home → ∀ t ∈ home.origin.tokens, token t

/-- The location is a part of a document that is hosted. -/
structure Houses (homes : List (String × Home)) (l : Location) : Prop where
  hosted : Hosts w own homes l.document
  sits : l.Sits
  spelt : ∀ t ∈ l.pointer.tokens, token t
  base : IsBase l.base

variable {w own token} {cache : List (String × Loaded)} {homes homes' : List (String × Home)} {d : Document}
  {l t inner : Location} {members : List (Scalar × Value)}

theorem Hosts.on (h : Hosts w own homes d) (hext : Extends homes homes') : Hosts w own homes' d where
  atHand := h.atHand
  filed := h.filed.imp_right fun ⟨huri, hlookup⟩ => ⟨huri, hext _ _ hlookup⟩
  base := h.base

theorem Houses.on (h : Houses w own token homes l) (hext : Extends homes homes') : Houses w own token homes' l where
  hosted := h.hosted.on hext
  sits := h.sits
  spelt := h.spelt
  base := h.base

theorem Stocks.extend (h : Stocks w own token cache homes) (hext : Extends homes homes')
    (hnew : ∀ {uri home}, homes'.lookup uri = some home → homes.lookup uri = some home ∨
      Hosts w own homes' home.document ∧ ∀ t ∈ home.origin.tokens, token t) : Stocks w own token cache homes' where
  cached := h.cached
  hosted hlookup := (hnew hlookup).elim (fun hold => (h.hosted hold).on hext) (·.1)
  spelt hlookup := (hnew hlookup).elim (fun hold => h.spelt hold) (·.2)

private theorem spelt_child {p : Pointer} {name : String} (hp : ∀ t ∈ p.tokens, token t) (hname : token name) :
    ∀ t ∈ (p.child name).tokens, token t := by
  intro t ht
  rcases List.mem_append.1 ht with ht | ht
  · exact hp t ht
  · rwa [List.mem_singleton.1 ht]

/-- The schema objects of a document lie in it, and their pointers are spelt by it. -/
theorem Spells.schemaObjects (hs : Spells w own token) (hd : AtHand w own d) {p : Pointer} {v : Value}
    (h : (p, v) ∈ schemaObjects .root d.content) : Pointer.Leads d.content p v ∧ ∀ t ∈ p.tokens, token t := by
  refine of_mem_schemaObjects (R := fun p v => Pointer.Leads d.content p v ∧ ∀ t ∈ p.tokens, token t)
    (fun q vs i v hq hv => ?_) (fun q ms key v hq hv => ?_) ⟨.root, fun t ht => by cases ht⟩ h
  · exact ⟨.item hq.1 (Pointer.index?_toString i) hv, spelt_child hq.2 (hs.index i)⟩
  · exact ⟨.member hq.1 hv, spelt_child hq.2 (hs.key hd hq.1 hv)⟩

theorem Spells.claims (hs : Spells w own token) (hd : AtHand w own d) {uri : String} {home : Home}
    (h : d.Claims uri home) : ∀ t ∈ home.origin.tokens, token t := by
  cases h with
  | document =>
    intro t ht
    cases ht
  | part hmem => exact (hs.schemaObjects hd hmem).2

/-- The parts of an object lie in its document. -/
theorem Houses.part (hs : Spells w own token) (hl : Houses w own token homes l) (hvalue : l.value = .obj members)
    (hinner : l.Inner members inner) (ht : t ∈ inner.subschemas members) : Houses w own token homes t := by
  have hsits := hinner.sits hl.sits
  have hvalue' := hinner.value.trans hvalue
  obtain ⟨hdocument, hbase, -⟩ := Location.of_mem_subschemas ht
  have hhosted : Hosts w own homes t.document := by
    rw [hdocument, hinner.document]
    exact hl.hosted
  refine ⟨hhosted, hsits.part hvalue' ht, ?_, ?_⟩
  · obtain ⟨name, v, hmem, hpart⟩ := Location.mem_subschemas ht
    have hobj : Pointer.Leads inner.document.content inner.pointer (.obj members) := hvalue' ▸ hsits
    have hhand : AtHand w own inner.document := hinner.document ▸ hl.hosted.atHand
    have hchild := spelt_child (p := inner.pointer) (hinner.pointer ▸ hl.spelt) (hs.key hhand hobj hmem)
    have hv : Pointer.Leads inner.document.content (inner.pointer.child name) v := .member (k := .str name) hobj hmem
    rcases hpart with rfl | ⟨vs, i, w, rfl, hw, rfl⟩ | ⟨es, key, w, rfl, hw, rfl⟩
    · exact hchild
    · exact spelt_child hchild (hs.index i)
    · exact spelt_child hchild (hs.key hhand hv hw)
  · rw [hbase]
    exact hl.base.inside hinner

/-- What the URIs of references in a document that is hosted name lies in such documents. -/
theorem Stocks.hosts_of_names {s : Session} (hstock : Stocks w own token cache s.homes) (hd : Hosts w own s.homes d)
    {uri : String} {home : Home} (h : s.Names d uri home) :
    Hosts w own s.homes home.document ∧ ∀ t ∈ home.origin.tokens, token t := by
  rcases h with ⟨-, rfl⟩ | ⟨-, hlookup⟩
  · exact ⟨hd, fun t ht => by cases ht⟩
  · exact ⟨hstock.hosted hlookup, hstock.spelt hlookup⟩

/-- What a reference leads to lies in a document that is hosted. -/
theorem Houses.target {s : Session} (hs : Spells w own token) (hstock : Stocks w own token cache s.homes)
    (hl : Houses w own token s.homes l) (hvalue : l.value = .obj members) (hinner : l.Inner members inner)
    {ref : String} {fragment : Option String} (hmem : (.str "$ref", .str ref) ∈ members)
    (ht : s.Leads inner ref t fragment) : Houses w own token s.homes t := by
  have hlies := TargetOf.lies ht
  obtain ⟨full, uri, home, hfull, hsplit, hhome, hpointer, -, hdocument, hbase, -⟩ := ht
  have hhosted : Hosts w own s.homes home.document ∧ ∀ t ∈ home.origin.tokens, token t :=
    hstock.hosts_of_names (hinner.document ▸ hl.hosted) hhome
  refine ⟨hdocument ▸ hhosted.1, hlies.sits, ?_, ?_⟩
  · have hobj : Pointer.Leads inner.document.content inner.pointer (.obj members) :=
      (hinner.value.trans hvalue) ▸ hinner.sits hl.sits
    unfold targetPointer? at hpointer
    split at hpointer
    · rw [← Option.some.inj (Except.ok.inj hpointer)]
      exact hhosted.2
    · rename_i text
      split at hpointer
      · rw [← Option.some.inj (Except.ok.inj hpointer)]
        exact hhosted.2
      · -- A pointer into the home: its own tokens come after those of the home.
        cases hq : Pointer.ofFragment text with
        | error fault =>
          rw [hq] at hpointer
          cases hpointer
        | ok q =>
          rw [hq] at hpointer
          rw [← Option.some.inj (Except.ok.inj hpointer)]
          intro t ht
          rcases List.mem_append.1 ht with ht | ht
          · exact hhosted.2 t ht
          · exact hs.fragment (hinner.document ▸ hl.hosted.atHand) (.member (k := .str "$ref") hobj hmem)
              (hl.base.inside hinner) hfull hsplit hq t ht
      · have hanchor : findAnchor? home.document.content text = some t.pointer := Except.ok.inj hpointer
        obtain ⟨entry, hentry, heq⟩ := Option.map_eq_some_iff.1 hanchor
        rw [← heq]
        exact (hs.schemaObjects hhosted.1.atHand (List.mem_of_find?_eq_some hentry)).2
  · rw [hdocument] at hbase
    exact hhosted.1.base.along hbase

/-- Whatever a compilation comes to lies in a document that is hosted. -/
theorem Houses.comesTo {s : Session} (hs : Spells w own token) (hstock : Stocks w own token cache s.homes)
    (hl : Houses w own token s.homes l) (h : s.ComesTo l t) : Houses w own token s.homes t := by
  induction h with
  | refl => exact hl
  | tail _ hgo ih =>
    cases hgo with
    | part hvalue hreplaced hinner hsub => exact ih.part hs hvalue hinner hsub
    | reference hvalue hinner href htarget => exact ih.target hs hstock hvalue hinner href htarget

end Holding

/-! ### How a compilation breaks -/

namespace Loader

/-- The world has no document under the URI: there is none, it cannot be decoded, or its name comes to no URI. -/
def Lacks (w : World) (uri : String) (e : Failure) : Prop := ∃ cache, Fetched w uri [] (.error e) cache

theorem Fetched.lacks {w : World} {uri : String} {e : Failure} {cache cache' : List (String × Loaded)}
    (h : Fetched w uri cache (.error e) cache') : Lacks w uri e := by
  cases h with
  | missed _ he => exact ⟨_, .missed rfl he⟩
  | undecoded _ hr he => exact ⟨_, .undecoded rfl hr he⟩
  | misnamed _ hr hv hname hfault => exact ⟨_, .misnamed rfl hr hv hname hfault⟩

end Loader

/-- What breaks the compilation of a document from a location on, as the session has it that the compilation has come to,
where so many locations can be compiled one inside the other. -/
inductive Session.Breaks (setup : Setup) (own : Document → Prop) (token : String → Prop) (root : Location) (depth : Nat)
    (s : Session) : Failure → Prop where
  /-- A location needs itself. -/
  | recursion {l x : Location} (hx : s.ComesTo root x) (hhouses : Houses setup.world own token s.homes x)
      (hgo : Relation.TransGen (Location.Goes s.Leads) x l) (hplace : x.place = l.place) :
    Breaks setup own token root depth s (.schema .recursion l.place.uri? (some l.place.pointer))
  /-- The checks refuse a location. -/
  | refused {l : Location} {e : Failure} (hl : s.ComesTo root l) (hhouses : Houses setup.world own token s.homes l)
      (hpasses : ¬Passes setup l) (he : l.Tells setup e) : Breaks setup own token root depth s e
  /-- A sample cannot be evaluated. -/
  | sample {l : Location} {members : List (Scalar × Value)} {n : Node} {e : Failure} (hl : s.ComesTo root l)
      (hhouses : Houses setup.world own token s.homes l) (hvalue : l.value = .obj members) (hn : Filed setup (s.ComesTo root) s.Leads l.place n)
      (he : Scope.SampleFails setup.options l.pointer members n e) : Breaks setup own token root depth s e
  /-- A reference leads nowhere in the document that it names. -/
  | stray {l inner : Location} {members : List (Scalar × Value)} {ref : String} {e : Failure} (hl : s.ComesTo root l)
      (hhouses : Houses setup.world own token s.homes l)
      (hhosts : ∀ {uri home}, s.Names inner.document uri home → Hosts setup.world own s.homes home.document)
      (hvalue : l.value = .obj members) (hinner : l.Inner members inner) (href : (.str "$ref", .str ref) ∈ members)
      (hnone : ¬∃ t fragment, s.Leads inner ref t fragment)
      (he : Scope.Stray (s.Names inner.document) inner ref (inner.pointer.child "$ref") e) :
    Breaks setup own token root depth s e
  /-- A reference names a document that is not to be had. -/
  | unresolved {l : Location} {uri : String} {e : Failure} (hl : s.ComesTo root l) (href : l.Refers uri)
      (hne : uri.isEmpty = false) (hunknown : s.homes.lookup uri = none) (he : Loader.Lacks setup.world uri e) :
    Breaks setup own token root depth s (Compiling.unresolved uri e)
  /-- A reference names a document of which a part has a name that comes to no URI. -/
  | misnamed {l : Location} {uri : String} {v : Value} {e : Failure} (hl : s.ComesTo root l) (href : l.Refers uri)
      (hne : uri.isEmpty = false) (hv : AtHand setup.world own (.under uri v)) (he : (Document.under uri v).Misnamed e) :
    Breaks setup own token root depth s e
  /-- So many locations are compiled one inside the other. -/
  | deep {way : List Location} (hway : (way.map Location.place).Nodup) (hlength : way.length = depth)
      (hhouses : ∀ x ∈ way, Houses setup.world own token s.homes x) : Breaks setup own token root depth s .endless

/-- Why a document has no location to compile at a pointer. -/
inductive Document.Unlocated (d : Document) (p : Pointer) : Failure → Prop where
  | nothing (h : Scope.valueAt? d.content p = .ok none) : Unlocated d p (.schema .nothing d.uri (some p))
  | value {e : Failure} (h : Scope.valueAt? d.content p = .error e) : Unlocated d p e
  | dialect {e : Failure} (h : d.dialect? = .error e) : Unlocated d p e
  | base {e : Failure} (h : d.baseAt p = .error e) : Unlocated d p e

theorem Document.LocatedAt.not_unlocated {d : Document} {p : Pointer} {l : Location} {e : Failure} (h : d.LocatedAt p l) :
    ¬d.Unlocated p e := by
  rintro (h' | h' | h' | h')
  · cases h'.symm.trans h.value
  · cases h'.symm.trans h.value
  · cases h'.symm.trans h.dialect
  · cases h'.symm.trans h.base

/-! ### The survey of a session -/

namespace Session

variable {setup : Setup} {own : Document → Prop} {token : String → Prop} {root : Location}

/-- What a session tells of the compilation of a document from a location on. -/
def survey (setup : Setup) (own : Document → Prop) (token : String → Prop) (root : Location) (anonymous depth : Nat) :
    Survey setup where
  anonymous := anonymous
  stock := Stocks setup.world own token
  grows := Extends
  grows_refl := .refl
  grows_trans := .trans
  fails e s := s.Breaks setup own token root depth e
  good s l := s.ComesTo root l
  covers _ := True
  leads := Leads

section Lawful

variable {anonymous depth : Nat} {way : List Location} {l inner : Location} {members : List (Scalar × Value)}
  (hs : Spells setup.world own token) (hroot : ∀ homes, Houses setup.world own token homes root)

include hs

/-- A document that is loaded and registered is hosted, along with what it claims. -/
private theorem stocks_of_loads {s t : Session} {uri : String} {d : Loaded} (huri : '#' ∉ uri.toList)
    (hstock : Stocks setup.world own token s.loader.cache s.homes) (h : s.Loads setup.world uri t d) :
    Stocks setup.world own token t.loader.cache t.homes ∧ Hosts setup.world own t.homes (.under uri d.value) := by
  obtain ⟨hcached, hhand⟩ := Library.atHand_of_fetched (fun _ _ h => hstock.cached h) h.fetched
  have hhand := hhand d rfl
  have hhosts : Hosts setup.world own t.homes (.under uri d.value) := by
    refine ⟨hhand, .inr ⟨rfl, h.registers.own rfl h.unknown⟩, ?_⟩
    rintro _ ⟨⟩
    exact huri
  refine ⟨(Stocks.extend ⟨fun h => hcached _ _ h, hstock.hosted, hstock.spelt⟩ h.registers.extend) fun hnew => ?_, hhosts⟩
  refine (h.registers.new hnew).imp_right fun hclaims => ⟨?_, hs.claims hhand hclaims⟩
  rw [hclaims.document_eq]
  exact hhosts

private theorem runs_home {descend : Location → Compiling Node} {ref full uri : String} {fragment : Option String}
    (hvalue : l.value = .obj members) (hinner : l.Inner members inner) (href : (.str "$ref", .str ref) ∈ members)
    (hfull : resolveUri inner.base ref = .ok full) (hsplit : Uri.splitFragment full = (uri, fragment)) :
    Runs ((survey setup own token root anonymous depth).course (l :: way))
      (fun s => (survey setup own token root anonymous depth).Pending way s l)
      ((inner.scope setup descend members).home uri) fun home s => s.Names inner.document uri home := by
  have huri := Uri.not_mem_of_splitFragment hsplit
  have hrefers : l.Refers uri := ⟨members, inner, ref, full, fragment, hvalue, hinner, href, hfull, hsplit⟩
  refine runs_home_names huri (fun ht => ht) (fun s d t hin _ hloads => ?_) fun hne s e t hin hP hfails => ?_
  · obtain ⟨hstock, -⟩ := stocks_of_loads hs huri hin.stock hloads
    have hext : Extends s.homes t.homes := hloads.registers.extend
    obtain ⟨loader, homes, rfl⟩ := hloads.rest
    exact ⟨⟨hin.anonymous, hstock, fun hn u hu => hin.nodes hn u (hext.trans hu), hin.compiling⟩, hext⟩
  · have hl : s.ComesTo root l := hP.1
    cases hfails with
    | missed hunknown hfetched => exact .unresolved hl hrefers hne hunknown hfetched.lacks
    | misnamed hunknown hfetched hmisnamed hextends _ =>
      have hhand := (Library.atHand_of_fetched (fun _ _ h => hin.stock.cached h) hfetched).2 _ rfl
      exact .misnamed (hl.on hextends) hrefers hne hhand hmisnamed

include hroot

theorem lawful_survey : (survey setup own token root anonymous depth).Lawful where
  fails_registry := by
    intro e s h registry
    cases h with
    | recursion hx hhouses hgo hplace => exact .recursion hx hhouses hgo hplace
    | refused hl hhouses hpasses he => exact .refused hl hhouses hpasses he
    | sample hl hhouses hvalue hn he => exact .sample hl hhouses hvalue hn he
    | stray hl hhouses hhosts hvalue hinner href hnone he =>
      exact .stray hl hhouses hhosts hvalue hinner href hnone he
    | unresolved hl href hne hunknown he => exact .unresolved hl href hne hunknown he
    | misnamed hl href hne hv he => exact .misnamed hl href hne hv he
    | deep hway hlength hhouses => exact .deep hway hlength hhouses
  recursion hin hP hx hplace :=
    .recursion (hP.2 _ hx).1 ((hroot _).comesTo hs hin.stock (hP.2 _ hx).1) (hP.2 _ hx).2 hplace
  refused hin hP hpasses he := .refused hP.1 ((hroot _).comesTo hs hin.stock hP.1) hpasses he
  sample hin hP hvalue hn he := .sample hP.1 ((hroot _).comesTo hs hin.stock hP.1) hvalue
    (hn.mono (fun _ hl => hl.1) fun _ _ _ _ ht => ht) he
  good_part _ hl hvalue hreplaced hinner hpart := hl.tail (.part hvalue hreplaced hinner hpart)
  uncovered _ h := absurd trivial h
  name := by
    intro way s l members name uri hin hgood hvalue hreplaced hid huri hne
    have hext := extends_addHome uri ⟨l.document, l.pointer⟩ s.homes
    refine ⟨hin.stock.extend hext fun {u home} h => ?_, hext⟩
    refine (eq_of_lookup_addHome h).imp_right fun ⟨_, hhome⟩ => ?_
    have hhouses := (hroot s.homes).comesTo hs hin.stock (hgood s (.refl _))
    rw [hhome]
    exact ⟨hhouses.hosted.on hext, hhouses.spelt⟩
  target := by
    intro way l members inner ref hvalue hinner href descend
    refine (Scope.runs_target (fun s => s.Names inner.document)
      (fun full uri fragment hfull hsplit => runs_home hs hvalue hinner href hfull hsplit)
      fun s e hin hP hcan he => ?_).weaken (fun _ h => h) fun t s hP ht => ⟨ht, hP.1.tail (.reference hvalue hinner href ht)⟩
    have hhouses := (hroot s.homes).comesTo hs hin.stock hP.1
    have hhosts : ∀ {uri home}, s.Names inner.document uri home → Hosts setup.world own s.homes home.document :=
      fun h => (hin.stock.hosts_of_names (hinner.document ▸ hhouses.hosted) h).1
    exact .stray hP.1 hhouses hhosts hvalue hinner href (fun htarget => hcan ⟨s.unambiguous_names _, htarget⟩) he

/-- A location that is compiled with so much depth is filed, or something breaks its compilation. -/
theorem runs_compile (fuel : Nat) : Runs ((survey setup own token root anonymous fuel).course []) (fun _ => True)
    (compile setup fuel root) fun n s => Filed setup (s.ComesTo root) s.Leads root.place n := by
  have hlawful : (survey setup own token root anonymous fuel).Lawful := lawful_survey hs hroot
  refine Runs.weaken (P := fun s => (survey setup own token root anonymous fuel).Pending [] s root)
    (hlawful.runs_compile (fun way s hway hlength hin hgood => ?_) fuel List.nodup_nil (Nat.zero_add fuel)) (fun s _ => ?_)
    fun n s _ hn => hn.mono (fun _ hl => hl.1) fun _ _ _ _ ht => ht
  · exact .deep hway hlength fun x hx => (hroot s.homes).comesTo hs hin.stock (hgood x hx)
  · exact ⟨.refl, fun x hx => by cases hx⟩

end Lawful

/-- A session in which nothing has been compiled. -/
structure Fresh (s : Session) : Prop where
  entries : s.registry.entries = []
  homes : s.homes = []

/-- How the compilation of the document at the pointer has ended in a session: the location there has been filed, or
something has broken it. -/
def HasCompiled (setup : Setup) (own : Document → Prop) (d : Document) (token : String → Prop) (p : Pointer) : Except Failure Schema → Session → Prop
  | .ok schema, t => ∃ root, d.LocatedAt p root ∧ schema.place = root.place ∧
      Stocks setup.world own token t.loader.cache t.homes ∧ Filed setup (t.ComesTo root) t.Leads root.place schema.root
  | .error e, t => d.Misnamed e ∨ d.Unlocated p e ∨ ∃ (root : Location) (s : Session), d.LocatedAt p root ∧
      t.Breaks setup own token root (s.extent setup.world d p + 1) e

section Compiling

variable {d : Document} {p : Pointer}

theorem houses_of_locatedAt (hown : own d) (hp : ∀ t ∈ p.tokens, token t) (hbase : IsBase d.uri) (hroot : d.LocatedAt p root)
    (homes : List (String × Home)) : Houses setup.world own token homes root where
  hosted := by
    rw [hroot.document]
    exact ⟨.inl (.inl hown), .inl hown, hbase⟩
  sits := hroot.lies.sits
  spelt := by
    rw [hroot.pointer]
    exact hp
  base := hbase.along hroot.base

/-- A document that has been registered is compiled from its location at the pointer, if there is one. -/
theorem run_compileRegistered (setup : Setup) (d : Document) (p : Pointer) :
    (∃ e, d.Unlocated p e ∧ ∀ s, (Library.compileRegistered setup d p).run.run s = (.error e, s)) ∨
      ∃ root, d.LocatedAt p root ∧ ∀ s, (Library.compileRegistered setup d p).run.run s =
        (compile setup (s.extent setup.world d p + 1) root >>= fun n => pure (Schema.mk root.place n)).run.run s := by
  have hget : ∀ s, (get : Compiling Session).run.run s = (.ok s, s) := fun _ => rfl
  cases hvalue : Scope.valueAt? d.content p with
  | error e =>
    refine .inl ⟨e, .value hvalue, fun s => ?_⟩
    rw [Library.compileRegistered, run_bind, Compiling.run_ofExcept, hvalue]
  | ok value =>
    cases value with
    | none =>
      refine .inl ⟨_, .nothing hvalue, fun s => ?_⟩
      rw [Library.compileRegistered, run_bind, Compiling.run_ofExcept, hvalue]
      rfl
    | some value =>
      cases hdialect : d.dialect? with
      | error e =>
        refine .inl ⟨e, .dialect hdialect, fun s => ?_⟩
        rw [Library.compileRegistered, run_bind, Compiling.run_ofExcept, hvalue]
        dsimp only
        rw [run_bind, Compiling.run_ofExcept, hdialect]
      | ok dialect =>
        cases hbase : d.baseAt p with
        | error e =>
          refine .inl ⟨e, .base hbase, fun s => ?_⟩
          rw [Library.compileRegistered, run_bind, Compiling.run_ofExcept, hvalue]
          dsimp only
          rw [run_bind, Compiling.run_ofExcept, hdialect]
          dsimp only
          rw [run_bind, Compiling.run_ofExcept, hbase]
        | ok base =>
          refine .inr ⟨⟨d, value, p, base, dialect⟩, ⟨rfl, rfl, hvalue, hdialect, hbase⟩, fun s => ?_⟩
          rw [Library.compileRegistered, run_bind, Compiling.run_ofExcept, hvalue]
          dsimp only
          rw [run_bind, Compiling.run_ofExcept, hdialect]
          dsimp only
          rw [run_bind, Compiling.run_ofExcept, hbase]
          dsimp only
          rw [run_bind, hget]

/-- How the compilation of a document at a pointer comes to its end: the document cannot be registered, or there is no
location at the pointer, or the location has been compiled once the document had been registered. -/
inductive Ended (setup : Setup) (d : Document) (p : Pointer) (s : Session) (result : Except Failure Schema)
    (t : Session) : Prop
  | unregistered {e : Failure} (hfails : (Compiling.registerDocument d).run.run s = (.error e, t))
      (hresult : result = .error e)
  | unlocated {e : Failure} (he : d.Unlocated p e) (hresult : result = .error e)
  | compiled {first : Session} {root : Location} {r : Except Failure Node}
      (hregistered : (Compiling.registerDocument d).run.run s = (.ok (), first)) (hroot : d.LocatedAt p root)
      (hrun : (compile setup (first.extent setup.world d p + 1) root).run.run first = (r, t))
      (hresult : result = r.map (Schema.mk root.place))

theorem ended_compileAt {s t : Session} {result : Except Failure Schema}
    (h : (Schema.compileAt setup d p).run.run s = (result, t)) : Ended setup d p s result t := by
  rw [Library.compileAt_eq, run_bind] at h
  generalize hregistered : (Compiling.registerDocument d).run.run s = registered at h
  obtain ⟨registered, first⟩ := registered
  cases registered with
  | error e =>
    cases h
    exact .unregistered hregistered rfl
  | ok _ =>
    dsimp only at h
    rcases run_compileRegistered setup d p with ⟨e, he, hrun⟩ | ⟨root, hroot, hrun⟩
    · rw [hrun] at h
      exact .unlocated he (congrArg Prod.fst h).symm
    · rw [hrun, run_bind_pure] at h
      obtain ⟨hresult, ht⟩ := Prod.mk.inj h
      exact .compiled hregistered hroot (Prod.ext rfl ht) hresult.symm

/-- What a fresh session registers is all that it knows. -/
theorem Fresh.registers {s first : Session} (hfresh : s.Fresh)
    (h : (Compiling.registerDocument d).run.run s = (.ok (), first)) : ∃ homes, d.Registers [] homes ∧ first = { s with homes } :=
  hfresh.homes ▸ Compiling.registers_of_registerDocument h

/-- The compilation of a document in a fresh session files its location, or something breaks it. -/
theorem hasCompiled_compileAt (hs : Spells setup.world own token) (hown : own d) (hp : ∀ t ∈ p.tokens, token t) (hbase : IsBase d.uri)
    {s : Session} (hfresh : s.Fresh)
    (hcached : ∀ {uri d}, s.loader.cache.lookup uri = some d → AtHand setup.world own (.under uri d.value))
    {result : Except Failure Schema} {t : Session}
    (h : (Schema.compileAt setup d p).run.run s = (result, t)) : HasCompiled setup own d token p result t := by
  cases ended_compileAt h with
  | unregistered hfails hresult =>
    subst hresult
    exact .inl (Compiling.misnamed_of_registerDocument hfails)
  | unlocated he hresult =>
    subst hresult
    exact .inr (.inl he)
  | @compiled first root r hregistered hroot hrun hresult =>
    obtain ⟨homes, hregisters, rfl⟩ := hfresh.registers hregistered
    have hstock : Stocks setup.world own token s.loader.cache homes := by
      refine ⟨hcached, fun hlookup => ?_, fun hlookup => hs.claims (.inl (.inl hown)) (hregisters.claims hlookup)⟩
      rw [(hregisters.claims hlookup).document_eq]
      exact ⟨.inl (.inl hown), .inl hown, hbase⟩
    have hhouses : ∀ homes, Houses setup.world own token homes root := houses_of_locatedAt hown hp hbase hroot
    have hin : (survey setup own token root s.registry.anonymous
        (({ s with homes } : Session).extent setup.world d p + 1)).InOrder [] { s with homes } :=
      .of_entries (s := { s with homes }) hfresh.entries rfl hstock
    have hend := runs_compile hs hhouses _ { s with homes } hin fun _ _ => trivial
    rw [hrun] at hend
    subst hresult
    cases r with
    | error e => exact .inr (.inr ⟨root, _, hroot, hend⟩)
    | ok n =>
      obtain ⟨hin, -, hfiled⟩ := hend
      exact ⟨root, hroot, rfl, hin.stock, hfiled.self⟩

/-- Where a document has been compiled in a fresh session, all documents that are known in the end are at hand. -/
theorem atHand_of_compileAt (hbase : IsBase d.uri) {s t : Session} (hfresh : s.Fresh)
    (hcached : ∀ {uri d'}, s.loader.cache.lookup uri = some d' → AtHand setup.world (· = d) (.under uri d'.value))
    {schema : Schema} (h : (Schema.compileAt setup d p).run.run s = (.ok schema, t)) {uri : String} {home : Home}
    (hhome : t.homes.lookup uri = some home) : AtHand setup.world (· = d) home.document := by
  have hended : HasCompiled setup (· = d) d (fun _ => True) p (.ok schema) t :=
    hasCompiled_compileAt (spells_any setup.world (· = d)) rfl (fun _ _ => trivial) hbase hfresh hcached h
  obtain ⟨-, -, -, hstock, -⟩ := hended
  exact (hstock.hosted hhome).atHand

end Compiling

end Session

end Conform
