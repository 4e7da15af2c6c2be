import Conform.Proofs.Compile.Library
import Conform.Proofs.Uri

/-!
# Sequences of compilations

While a session that holds the documents of an orderly library compiles a location without a failure, every location that
it comes to is as its document has it (`Library.lawful_survey`).  So what it files can be told from the library alone,
after one compilation (`Library.run_compileUri`, `Library.run_compileValue`) and after a sequence of them.
-/

namespace Conform

namespace Schema

/-- A value that is compiled without a URI is a document under the next number. -/
theorem run_compileValue_none (setup : Setup) (v : Value) (s : Session) : (compileValue setup v none).run.run s =
    (compileAt setup ⟨Place.anonymousStart ++ toString (s.registry.anonymous + 1), none, v⟩ .root).run.run
      { s with registry := { s.registry with anonymous := s.registry.anonymous + 1 } } := rfl

theorem run_compileValue_some (setup : Setup) (v : Value) (uri : String) (s : Session) :
    (compileValue setup v (some uri)).run.run s =
      match Uri.dropFragment uri with
      | .ok short => (compileAt setup (.under short v) .root).run.run s
      | .error fault => (.error (.uri fault), s) := by
  have hsplit : compileValue setup v (some uri) =
    Compiling.ofExcept ((Uri.dropFragment uri).mapError .uri) >>= fun uri => compileAt setup (.under uri v) .root := rfl
  rw [hsplit, run_bind, Compiling.run_ofExcept]
  cases Uri.dropFragment uri <;> rfl

end Schema

namespace Library

variable {setup : Setup} {own : Document → Prop}

/-! ### Parts that are no schemas -/

/-- Whatever becomes of a request for a document, what is in the cache is at hand, and so is what is found. -/
theorem atHand_of_fetched {w : World} {uri : String} {cache cache' : List (String × Loaded)} {result : Except Failure Loaded}
    (hcache : ∀ u d, cache.lookup u = some d → AtHand w own (.under u d.value))
    (h : Loader.Fetched w uri cache result cache') :
    (∀ u d, cache'.lookup u = some d → AtHand w own (.under u d.value)) ∧
      ∀ d, result = .ok d → AtHand w own (.under uri d.value) := by
  -- To put a document that has been served under its URI leaves the cache at hand.
  have hput : ∀ {r : Resource} {v : Value}, Loader.Serves w uri r → r.decode w.yaml uri = .ok v →
      ∀ u d, (Loader.put uri ⟨v, r.contentType⟩ cache).lookup u = some d → AtHand w own (.under u d.value) := by
    intro r v hr hv u d hd
    rw [lookup_put] at hd
    split at hd
    · cases hd
      exact .inl (.inr ⟨u, v, ‹u = uri› ▸ ⟨r, hr, hv⟩, rfl⟩)
    · exact hcache u d hd
  cases h with
  | cached h =>
    refine ⟨hcache, fun d hd => ?_⟩
    cases hd
    exact hcache _ _ h
  | missed | undecoded => exact ⟨hcache, fun d hd => by cases hd⟩
  | kept h hr hv hname =>
    refine ⟨hput hr hv, fun d hd => ?_⟩
    cases hd
    exact .inl (.inr ⟨_, _, ⟨_, hr, hv⟩, rfl⟩)
  | @named r v name short h hr hv hname hshort =>
    have hgives : w.Gives uri v := ⟨r, hr, hv⟩
    refine ⟨fun u d hd => ?_, fun d hd => ?_⟩
    · rw [lookup_putNew] at hd
      cases hlookup : (Loader.put uri ⟨v, r.contentType⟩ cache).lookup u with
      | some e =>
        rw [hlookup] at hd
        cases hd
        exact hput hr hv u d hlookup
      | none =>
        rw [hlookup] at hd
        split at hd
        · cases hd
          exact .inr ⟨uri, v, name, u, hgives, hname, ‹u = short› ▸ hshort, rfl⟩
        · cases hd
    · cases hd
      exact .inl (.inr ⟨uri, v, hgives, rfl⟩)
  | misnamed h hr hv => exact ⟨hput hr hv, fun d hd => by cases hd⟩

/-- What is built is built for a schema. -/
theorem isSchema_of_built {means : Location → Node → Prop} {leads : Location → String → Location → Option String → Prop}
    {l : Location} {n : Node} (h : Built setup means leads l n) : l.value.isSchema = true := by
  cases h.node with
  | constant hvalue | replaced hvalue | group hvalue =>
    rw [hvalue]
    rfl

/-- The account that tells nothing but that the nodes of locations are those of schemas. -/
private def schemas (setup : Setup) (hw : Orderly setup.world own) : Account setup where
  stock cache homes := (∀ uri d, cache.lookup uri = some d → AtHand setup.world own (.under uri d.value)) ∧
    ∀ uri home, homes.lookup uri = some home → AtHand setup.world own home.document
  good l := AtHand setup.world own l.document ∧ l.Lies
  means l _ := l.value.isSchema = true
  leads _ _ _ _ := True
  good_part := by
    intro l members inner hl hvalue hreplaced hinner part hpart
    have hjson := Pointer.isJson_of_eval (hw.json hl.1) hl.2
    rw [hvalue] at hjson
    refine ⟨?_, (hinner.lies hl.2).part (hinner.value.trans hvalue) hjson hpart⟩
    rw [(Location.of_mem_subschemas hpart).1, hinner.document]
    exact hl.1
  stock_name := by
    intro l members cache homes name uri hl hvalue hreplaced hid huri hstock
    refine ⟨hstock.1, fun u home h => ?_⟩
    rcases eq_of_lookup_addHome h with h | ⟨-, rfl⟩
    · exact hstock.2 u home h
    · exact hl.1
  keeps_target := by
    intro l members inner ref hl hvalue hinner href filed descend path
    refine (Scope.keeps_target (fun _ home => AtHand setup.world own home.document) fun full uri fragment _ _ => ?_).weaken
      fun t ht => ?_
    · have hshort : Uri.dropFragment uri = .ok uri := Uri.dropFragment_of_splitFragment ‹_›
      refine Scope.keeps_home (fun _ => ?_) (fun _ _ home hstock h => hstock.2 uri home h)
        (P := fun content => AtHand setup.world own (.under uri content)) (Compiling.keeps_resolve fun homes => ?_)
        fun content hcontent => ⟨hcontent, fun u home hclaims cache homes hstock => ⟨hstock.1, fun u' known h => ?_⟩⟩
      · show AtHand setup.world own inner.document
        rw [hinner.document]
        exact hl.1
      · intro l ⟨hcache, hhomes⟩
        obtain ⟨hcache', hresult⟩ := atHand_of_fetched hcache (Loader.run_fetch hshort l)
        exact ⟨⟨hcache', hhomes⟩, fun d hd => hresult d hd⟩
      · rcases eq_of_lookup_addHome h with h | ⟨-, rfl⟩
        · exact hstock.2 u' known h
        · rw [hclaims.document_eq]
          exact hcontent
    · obtain ⟨_, _, home, -, -, hhome, -, -, hdocument, -⟩ := id ht
      exact ⟨⟨hdocument ▸ hhome, ht.lies⟩, trivial⟩
  means_built _ h := isSchema_of_built h
  means_place := by
    intro l l' n hl hl' hplace h
    have hdocument := hw.key hl.1 hl'.1 (congrArg Place.document hplace)
    rw [← hl.2.value_eq hl'.2 hdocument (Location.pointer_of_place hplace)]
    exact h

/-! ### The survey of a library -/

/-- What is told of compilations that do not fail, with so many documents without a URI: all locations are as their
documents have them, whose homes have been filed. -/
def survey (setup : Setup) (own : Document → Prop) (anonymous : Nat) : Survey setup where
  anonymous := anonymous
  stock := IsStock setup.world own
  grows := Extends
  grows_refl := .refl
  grows_trans := .trans
  fails _ _ := True
  good s l := Located setup.world own l ∧ l.document.IsFiled s.homes
  covers := Location.Whole
  leads _ l := TargetOf (Names setup.world own l.document) l

section Lawful

variable {anonymous : Nat} {way : List Location} {l inner t : Location} {members : List (Scalar × Value)} {s : Session}

theorem Located.isJson (hw : Orderly setup.world own) (hl : Located setup.world own l) : l.value.isJson = true :=
  Pointer.isJson_of_eval (hw.json hl.atHand) hl.lies

/-- The text of a reference stands in the document. -/
theorem Located.eval_ref (hw : Orderly setup.world own) (hl : Located setup.world own l) (hvalue : l.value = .obj members)
    (hinner : l.Inner members inner) {ref : String} (hmem : (.str "$ref", .str ref) ∈ members) :
    (inner.pointer.child "$ref").eval l.document.content = .ok (.str ref) := by
  have hjson := hl.isJson hw
  have hlies := hl.lies
  unfold Location.Lies at hlies
  rw [hvalue] at hjson hlies
  rw [hinner.pointer]
  exact Pointer.eval_child hlies (lookupKey_of_mem hjson hmem)

theorem Located.part (hw : Orderly setup.world own) (hl : Located setup.world own l) (hwhole : l.Whole)
    (hvalue : l.value = .obj members) (hreplaced : l.isReplaced members = false) (hinner : l.Inner members inner)
    (ht : t ∈ inner.subschemas members) : Located setup.world own t := by
  have hjson := hl.isJson hw
  rw [hvalue] at hjson
  obtain ⟨hdocument, -, hdialect⟩ := Location.of_mem_subschemas ht
  refine ⟨?_, (hinner.lies hl.lies).part (hinner.value.trans hvalue) hjson ht, ?_, ?_⟩
  · rw [hdocument, hinner.document]
    exact hl.atHand
  · exact hl.based.part hl.lies hvalue hjson hreplaced hinner hwhole ht
  · rw [hdocument, hinner.document, hdialect, hinner.dialect]
    exact hl.dialect

/-- Where all documents declare their dialects or none does, a reference leads to a location as its document has it. -/
theorem Located.target (hw : Orderly setup.world own) (hl : Located setup.world own l) (hinner : l.Inner members inner)
    {ref : String} {fragment : Option String} (ht : TargetOf (Names setup.world own l.document) inner ref t fragment) :
    Located setup.world own t := by
  obtain ⟨full, uri, home, -, -, hhome, -, -, hdocument, hbase, dialect, hdialect, heq⟩ := id ht
  have hhand : AtHand setup.world own t.document := by
    rw [hdocument]
    rcases hhome with ⟨-, rfl⟩ | ⟨-, hknown⟩
    · exact hl.atHand
    · exact hknown.atHand
  refine ⟨hhand, ht.lies, hbase, ?_⟩
  rw [hdialect, heq, hinner.dialect]
  cases dialect with
  | some dialect => rfl
  | none =>
    cases hold : l.dialect with
    | none => rfl
    | some old => exact (hw.dialects hl.atHand hhand (hold ▸ hl.dialect) hdialect).elim

/-- Two locations at one place are one. -/
theorem Located.unique (hw : Orderly setup.world own) (hl : Located setup.world own l) (ht : Located setup.world own t)
    (h : l.place = t.place) : l = t := by
  have hdocument := hw.key hl.atHand ht.atHand (congrArg Place.document h)
  have hdialect := hl.dialect
  rw [hdocument, ht.dialect] at hdialect
  exact hl.based.ext ht.based hl.lies ht.lies hdocument (Location.pointer_of_place h) (Except.ok.inj hdialect).symm

/-- What is filed under a URI is known, and its document is filed. -/
private theorem runs_home (hw : Orderly setup.world own) {descend : Location → Compiling Node} {uri : String}
    (huri : '#' ∉ uri.toList) : Runs ((survey setup own anonymous).course way)
      (fun s => AtHand setup.world own l.document ∧ l.document.IsFiled s.homes)
      ((l.scope setup descend members).home uri) fun home s =>
        Names setup.world own l.document uri home ∧ home.document.IsFiled s.homes := by
  refine Scope.runs_home huri (fun hempty s hP => ⟨.inl ⟨hempty, rfl⟩, hP.2⟩)
    (fun hempty s home hs _ hlookup t ht => ⟨.inr ⟨hempty, hs.stock.known hlookup⟩, (hs.stock.filed hlookup).on ht⟩)
    (fun hempty s d s' hs _ hloads => ?_) fun _ _ _ _ _ _ _ => trivial
  obtain ⟨hnone, hfetched, hregisters, loader, homes, rfl⟩ := hloads
  obtain ⟨hstock, -, hsource⟩ := hs.stock.load hw hfetched hregisters
  have hext : Extends s.homes homes := hregisters.extend
  refine ⟨⟨hs.anonymous, hstock, fun hn t ht => hs.nodes hn t (hext.trans ht), hs.compiling⟩, hext, fun t ht => ?_⟩
  exact ⟨.inr ⟨hempty, .claimed (hsource hnone) (.document rfl)⟩, hregisters.filed.on ht⟩

/-- What cannot be a schema is compiled in no session that is in order, so nor is the location that needs it. -/
private theorem runs_uncovered (hw : Orderly setup.world own) (fuel : Nat) (hl : ¬l.Whole) :
    Runs ((survey setup own anonymous).course (l :: way)) (fun s => (survey setup own anonymous).Pending way s l)
      (build setup (compile setup fuel) l) fun n s => (survey setup own anonymous).filed s l.place n := by
  intro s hs hP
  obtain ⟨⟨hgood, -⟩, -⟩ := hP.self
  have hsound : (schemas setup hw).Sound s := by
    refine ⟨⟨fun u d h => ?_, fun u home h => (hs.stock.known h).atHand⟩, fun {p n} hn l' hl' hp => ?_⟩
    · rcases hs.stock.cached h with hv | ⟨source, name, hv, hname, hshort, -⟩
      · exact .inl (.inr ⟨u, _, hv, rfl⟩)
      · exact .inr ⟨source, _, name, u, hv, hname, hshort, rfl⟩
    · obtain ⟨l'', hl'', hp'', hbuilt⟩ := (hs.nodes hn s (.refl _)).cases
      exact (schemas setup hw).means_place ⟨hl''.1.1.atHand, hl''.1.1.lies⟩ hl' (hp''.trans hp.symm) (isSchema_of_built hbuilt)
  have hkeeps := Account.keeps_built (A := schemas setup hw) ⟨hgood.atHand, hgood.lies⟩
    (fun t ht => (schemas setup hw).keeps_compile fuel ht) s hsound
  generalize (build setup (compile setup fuel) l).run.run s = result at hkeeps
  obtain ⟨result, t⟩ := result
  cases result with
  | error e => exact trivial
  | ok n =>
    refine (hl fun members inner hvalue hreplaced hinner sub hsub => ?_).elim
    obtain ⟨m, -, hm⟩ := (hkeeps.2 n rfl).part hvalue hreplaced hinner hsub
    exact hm

theorem lawful_survey (hw : Orderly setup.world own) (anonymous : Nat) : (survey setup own anonymous).Lawful where
  fails_registry _ _ := trivial
  recursion _ _ _ _ := trivial
  refused _ _ _ _ := trivial
  sample _ _ _ _ _ := trivial
  good_part := by
    intro s l members inner part hwhole hl hvalue hreplaced hinner hpart
    refine ⟨hl.1.part hw hwhole hvalue hreplaced hinner hpart, ?_⟩
    rw [(Location.of_mem_subschemas hpart).1, hinner.document]
    exact hl.2
  uncovered fuel hl := runs_uncovered hw fuel hl
  name := by
    intro way s l members name uri hs hgood hvalue hreplaced hid huri hne
    obtain ⟨hl, hfiled⟩ := hgood s (.refl _)
    have hext := extends_addHome uri ⟨l.document, l.pointer⟩ s.homes
    refine ⟨hs.stock.on hext fun {u home} h => ?_, hext⟩
    -- What the document claims has been filed, so that only a hidden name adds to the homes.
    rcases eq_of_lookup_addHome h with h | ⟨rfl, rfl⟩
    · exact .inl h
    by_cases hclaimed : ∃ known, l.document.Claims u known
    · obtain ⟨known, hclaims⟩ := hclaimed
      obtain ⟨old, hold⟩ := Option.isSome_iff_exists.1 (hfiled u known hclaims)
      rw [hext u old hold] at h
      cases h
      exact .inl hold
    · refine .inr ⟨.hidden hl.atHand ⟨fun known hclaims => hclaimed ⟨known, hclaims⟩, hne, ?_⟩, hfiled.on hext⟩
      have hlies := hl.lies
      unfold Location.Lies at hlies
      rw [hvalue] at hlies
      exact ⟨members, name, l.base, hlies, hid, hl.based, huri⟩
  target := by
    intro way l members inner ref hvalue hinner href descend
    refine (Scope.runs_target (fun s uri home => Names setup.world own l.document uri home ∧
      home.document.IsFiled s.homes) (fun full uri fragment _ hsplit => ?_) fun _ _ _ _ _ _ => trivial).weaken
      (fun _ h => h) fun t s hP ht => ?_
    · rw [← hinner.document]
      refine (runs_home hw (Uri.not_mem_of_splitFragment hsplit)).strengthen fun s hP => ?_
      rw [hinner.document]
      exact ⟨hP.1.1.atHand, hP.1.2⟩
    · obtain ⟨full, uri, home, hfull, hsplit, ⟨hhome, hfiled⟩, hp, hv, hdocument, hrest⟩ := ht
      have htarget : TargetOf (Names setup.world own l.document) inner ref t.1 t.2 :=
        ⟨full, uri, home, hfull, hsplit, hhome, hp, hv, hdocument, hrest⟩
      refine ⟨?_, hP.1.1.target hw hinner htarget, hdocument ▸ hfiled⟩
      show TargetOf (Names setup.world own inner.document) inner ref t.1 t.2
      rw [hinner.document]
      exact htarget

/-! ### Compilations in sequence -/

/-- The node can come to be filed under the place, as the library has it. -/
def Files (setup : Setup) (own : Document → Prop) : Place → Node → Prop :=
  Filed setup (Located setup.world own) fun l => TargetOf (Names setup.world own l.document) l

/-- The session holds documents of the library, so many of them without a URI, and nodes as the library has them. -/
def Holds (setup : Setup) (own : Document → Prop) (anonymous : Nat) (s : Session) : Prop :=
  (survey setup own anonymous).InOrder [] s

theorem holds_start (setup : Setup) (own : Document → Prop) : Holds setup own 0 {} where
  anonymous := rfl
  stock := ⟨fun h => (by cases h), fun h => (by cases h), fun h => (by cases h)⟩
  nodes h := by cases h
  compiling p := by
    constructor
    · intro h
      cases h
    · rintro ⟨x, hx, -⟩
      cases hx

theorem Holds.files {p : Place} {n : Node} (hs : Holds setup own anonymous s) (h : s.registry.node? p = some n) :
    Files setup own p n := (hs.nodes h s (.refl _)).mono (fun _ hl => hl.1.1) fun _ _ _ _ ht => ht

/-- What a node is built for can be a schema with all its parts, if its parts are filed. -/
theorem Located.whole (hw : Orderly setup.world own) (hl : Located setup.world own l) {n : Node}
    {leads : Location → String → Location → Option String → Prop}
    (h : Built setup (fun t m => Files setup own t.place m) leads l n) : l.Whole := by
  intro members inner hvalue hreplaced hinner sub hsub
  obtain ⟨m, hm⟩ := h.part hvalue hreplaced hinner hsub
  obtain ⟨t, ht, hplace, hbuilt⟩ := hm.cases
  have hjson := hl.isJson hw
  rw [hvalue] at hjson
  have hlies : sub.Lies := (hinner.lies hl.lies).part (hinner.value.trans hvalue) hjson hsub
  have hhand : AtHand setup.world own sub.document := by
    rw [(Location.of_mem_subschemas hsub).1, hinner.document]
    exact hl.atHand
  have hdocument := hw.key hhand ht.atHand (congrArg Place.document hplace).symm
  rw [hlies.value_eq ht.lies hdocument (Location.pointer_of_place hplace).symm]
  exact isSchema_of_built hbuilt

theorem Located.renamed {own' : Document → Prop} {f : Document → Document} (hf : Renames setup.world own own' f)
    (hl : Located setup.world own l) : Located setup.world own' (l.renamed f) where
  atHand := hf.atHand hl.atHand
  lies := by
    have hlies := hl.lies
    unfold Location.Lies at hlies ⊢
    rw [← hf.content] at hlies
    exact hlies
  based := (hf.baseAt _ _).trans hl.based
  dialect := (hf.dialect? _).trans hl.dialect

/-- In two libraries that differ in the names of their documents the same is filed for a location from which no reference
is ambiguous. -/
theorem Files.agree {own' : Document → Prop} {f : Document → Document} (hw : Orderly setup.world own)
    (hw' : Orderly setup.world own') (hf : Renames setup.world own own' f) (hl : Located setup.world own l)
    (hone : Unambiguous setup.world own' (l.renamed f)) {n n' : Node} (h : Files setup own l.place n)
    (h' : Files setup own' (l.renamed f).place n') : n = n' := by
  refine Filed.agree hf.involutive (fun t => Located setup.world own t ∧
    Relation.ReflTransGen (Passage setup.world own') (l.renamed f) (t.renamed f)) (fun t t' ht ht' => ht.1.unique hw ht')
    (fun t t' ht ht' => (ht.1.renamed hf).unique hw' ht') (fun t n u ht hn hu => ?_)
    (fun t members inner ref u fragment u' fragment' ht hvalue hinner href hu hu' => ?_) ⟨hl, .refl⟩ h h'
  · refine ⟨?_, ht.2.tail (hf.passage hu)⟩
    cases hu with
    | part hvalue hreplaced hinner hsub => exact ht.1.part hw (ht.1.whole hw hn) hvalue hreplaced hinner hsub
    | reference hvalue hinner href hu => exact ht.1.target hw hinner (hinner.document ▸ hu)
  · refine (TargetOf.unique (fun full uri fragment home home' hfull hsplit => ?_) hu' (hf.target hu)).imp_right Eq.symm
    have hdocument : (inner.renamed f).document = (t.renamed f).document := congrArg f hinner.document
    rw [hdocument, show f inner.document = (t.renamed f).document from hdocument]
    refine hone _ ht.2 uri home home' ⟨members, _, ref, full, fragment, hvalue, hinner.renamed f, href, hfull, hsplit⟩

/-- The schema has been compiled as the library has it, at the pointer of a document at hand. -/
def Compiles (setup : Setup) (own : Document → Prop) (d : Document) (p : Pointer) (schema : Schema) : Prop :=
  AtHand setup.world own d ∧ ∃ l, d.LocatedAt p l ∧ schema.place = l.place ∧ Files setup own l.place schema.root

/-- The compilation of the schema at a pointer of a document that has been registered. -/
def compileRegistered (setup : Setup) (d : Document) (p : Pointer) : Compiling Schema := do
  match ← Compiling.ofExcept (Scope.valueAt? d.content p) with
  | none => throw (.schema .nothing d.uri (some p))
  | some value =>
    let dialect ← Compiling.ofExcept d.dialect?
    let base ← Compiling.ofExcept (d.baseAt p)
    let location : Location := ⟨d, value, p, base, dialect⟩
    let fuel := (← get).extent setup.world d p
    return ⟨location.place, ← compile setup (fuel + 1) location⟩

theorem compileAt_eq (setup : Setup) (d : Document) (p : Pointer) : Schema.compileAt setup d p =
    Compiling.registerDocument d >>= fun _ => compileRegistered setup d p := rfl

theorem runs_compileRegistered (hw : Orderly setup.world own) {d : Document} {p : Pointer} (hd : AtHand setup.world own d) :
    Runs ((survey setup own anonymous).course []) (fun s => d.IsFiled s.homes) (compileRegistered setup d p)
      fun schema _ => Compiles setup own d p schema := by
  unfold compileRegistered
  refine (Compiling.runs_ofExcept (Q := fun value _ => Scope.valueAt? d.content p = .ok value) (fun _ h _ _ => h)
    fun _ _ _ _ _ => trivial).bindStatic fun value hvalue => ?_
  split
  · exact .throw fun _ _ _ => trivial
  · rename_i value
    refine (Compiling.runs_ofExcept (Q := fun dialect _ => d.dialect? = .ok dialect) (fun _ h _ _ => h)
      fun _ _ _ _ _ => trivial).bindStatic fun dialect hdialect => ?_
    refine (Compiling.runs_ofExcept (Q := fun base _ => d.baseAt p = .ok base) (fun _ h _ _ => h)
      fun _ _ _ _ _ => trivial).bindStatic fun base hbase => ?_
    refine Runs.get.bind fun _ => Runs.strengthen (P := fun s => d.IsFiled s.homes) ?_ fun _ h => h.1
    have hl : d.LocatedAt p ⟨d, value, p, base, dialect⟩ := ⟨rfl, rfl, hvalue, hdialect, hbase⟩
    have hcompile : ∀ fuel, Runs ((survey setup own anonymous).course []) (fun s => d.IsFiled s.homes)
        (compile setup fuel ⟨d, value, p, base, dialect⟩) fun n s => (survey setup own anonymous).filed s ⟨d.key, p⟩ n := by
      intro fuel
      refine Runs.strengthen (P := fun s => (survey setup own anonymous).Pending [] s ⟨d, value, p, base, dialect⟩)
        ((lawful_survey hw anonymous).runs_compile (fun _ _ _ _ _ _ => trivial) fuel List.nodup_nil rfl) fun s hfiled => ?_
      exact ⟨⟨.of_locatedAt hd hl, hfiled⟩, fun x hx => by cases hx⟩
    refine (hcompile _).seq fun n => .pure fun s _ hn => ⟨hd, _, hl, rfl, ?_⟩
    exact hn.mono (fun _ hl => hl.1.1) fun _ _ _ _ ht => ht

theorem run_compileAt (hw : Orderly setup.world own) {d : Document} {p : Pointer} {schema : Schema} {t : Session}
    (hs : ∀ homes, d.Registers s.homes homes → Holds setup own anonymous { s with homes } ∧ AtHand setup.world own d)
    (h : (Schema.compileAt setup d p).run.run s = (.ok schema, t)) :
    Holds setup own anonymous t ∧ Compiles setup own d p schema := by
  rw [compileAt_eq, run_bind] at h
  generalize hregistered : (Compiling.registerDocument d).run.run s = result at h
  obtain ⟨result, s'⟩ := result
  cases result with
  | error e => cases h
  | ok _ =>
    obtain ⟨homes, hregisters, rfl⟩ := Compiling.registers_of_registerDocument hregistered
    obtain ⟨hs', hd⟩ := hs homes hregisters
    have hend := runs_compileRegistered hw hd (p := p) _ hs' fun t ht => hregisters.filed.on ht
    dsimp only at h
    rw [h] at hend
    obtain ⟨ht, -, hschema⟩ := hend
    exact ⟨ht, hschema.self⟩

theorem run_compileUri (hw : Orderly setup.world own) {uri : String} {schema : Schema} {t : Session}
    (hs : Holds setup own anonymous s) (h : (Schema.compileUri setup uri).run.run s = (.ok schema, t)) :
    Holds setup own anonymous t ∧ ∃ key fragment v p, Uri.splitFragment uri = (key, fragment) ∧
      Schema.fragmentPointer fragment = .ok p ∧ Compiles setup own (.under key v) p schema := by
  unfold Schema.compileUri at h
  split at h
  rename_i key fragment hsplit
  rw [run_bind, Compiling.run_resolve] at h
  have hfetched := Loader.run_fetch (w := setup.world) (Uri.dropFragment_of_splitFragment hsplit) s.loader
  generalize (Loader.fetch setup.world key).run.run s.loader = result at hfetched h
  obtain ⟨result, loader⟩ := result
  cases result with
  | error e => cases h
  | ok d =>
    simp only [Except.map, Except.mapError] at h
    rw [run_bind] at h
    cases hp : Schema.fragmentPointer fragment with
    | error e =>
      rw [hp] at h
      cases h
    | ok p =>
      rw [hp] at h
      have hload : ∀ homes, (Document.under key d.value).Registers s.homes homes →
          Holds setup own anonymous { s with loader, homes } ∧ AtHand setup.world own (.under key d.value) := by
        intro homes hregisters
        obtain ⟨hstock, hhand, -⟩ := hs.stock.load hw hfetched hregisters
        exact ⟨⟨hs.anonymous, hstock, fun hn t ht => hs.nodes hn t (hregisters.extend.trans ht), hs.compiling⟩, hhand⟩
      obtain ⟨ht, hschema⟩ := run_compileAt hw hload h
      exact ⟨ht, key, fragment, d.value, p, hsplit, hp, hschema⟩

/-- A value that is compiled without a URI is a document of its own. -/
theorem run_compileValue (hw : Orderly setup.world own) {v : Value} {schema : Schema} {t : Session}
    (hs : Holds setup own anonymous s) (hown : own ⟨Place.anonymousStart ++ toString (anonymous + 1), none, v⟩)
    (h : (Schema.compileValue setup v none).run.run s = (.ok schema, t)) :
    Holds setup own (anonymous + 1) t ∧
      Compiles setup own ⟨Place.anonymousStart ++ toString (anonymous + 1), none, v⟩ .root schema := by
  obtain rfl : s.registry.anonymous = anonymous := hs.anonymous
  rw [Schema.run_compileValue_none] at h
  refine run_compileAt hw (fun homes hregisters => ?_) h
  refine ⟨⟨rfl, ?_, fun hn t ht => ?_, hs.compiling⟩, .inl (.inl hown)⟩
  · exact hs.stock.register (.inl hown) hregisters
  · exact hs.nodes hn t (hregisters.extend.trans ht)

/-- A value that is compiled under a URI is the document of the URI. -/
theorem run_compileValue_under (hw : Orderly setup.world own) {v : Value} {uri short : String} {schema : Schema} {t : Session}
    (hshort : Uri.dropFragment uri = .ok short) (hs : Holds setup own anonymous s) (hown : own (.under short v))
    (h : (Schema.compileValue setup v (some uri)).run.run s = (.ok schema, t)) :
    Holds setup own anonymous t ∧ Compiles setup own (.under short v) .root schema := by
  rw [Schema.run_compileValue_some, hshort] at h
  refine run_compileAt hw (fun homes hregisters => ?_) h
  refine ⟨⟨hs.anonymous, ?_, fun hn t ht => ?_, hs.compiling⟩, .inl (.inl hown)⟩
  · exact hs.stock.register (.inl hown) hregisters
  · exact hs.nodes hn t (hregisters.extend.trans ht)

end Lawful

end Library

end Conform
