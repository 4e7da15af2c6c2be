import Conform.Proofs.Compile.Descent

/-!
# Registered documents

A document is registered before it is compiled.  What is registered are its schema objects, each of them once, under the
bases that the document has in force.  What is compiled are the locations that the compilation comes to, under the bases
that it hands down.  The former foresees the latter (`Document.Foresees`): where references lead to schema objects, the
compilation comes to no other objects, and every home of a name that it files has been filed, so that URIs name the same
before, during and after it (`Schema.foresees_of_compileAt`).

A compilation that fails may have come to an object of schemas under names that has a name itself, which counts where
bases are looked up (`Schema.not_foreseen_named`); and below another key than a text no names are registered under the
URIs that they are compiled under (`Schema.not_foreseen_numbered`).
-/

namespace Conform

/-! ### Schema objects that a compilation comes to -/

/-- The objects among the subschemas of an object are schema objects of it. -/
theorem Location.mem_schemaObjects_of_mem_subschemas {l sub : Location} {members es : List (Scalar × Value)}
    (h : sub ∈ l.subschemas members) (hvalue : sub.value = .obj es) :
    (sub.pointer, .obj es) ∈ schemaObjects l.pointer (.obj members) := by
  obtain ⟨name, v, hmem, hdata, hpart⟩ := mem_subschemas_named h
  have hself : (sub.pointer, .obj es) ∈ schemaObjects sub.pointer sub.value := by
    rw [hvalue, schemaObjects]
    exact List.mem_cons_self
  rw [schemaObjects]
  refine List.mem_cons_of_mem _ (mem_schemaMembers.2 ⟨_, hmem, ?_⟩)
  unfold memberSchemas
  rw [if_neg (by simp [hdata])]
  rcases hpart with ⟨hname, rfl | ⟨vs, i, w, rfl, hw, rfl⟩⟩ | ⟨hname, es', key, w, rfl, hw, rfl⟩
  · rw [if_neg (by simp [hname])]
    exact hself
  · rw [if_neg (by simp [hname]), schemaObjects]
    refine mem_schemaItems.2 ⟨i, w, hw, ?_⟩
    rw [Nat.zero_add]
    exact hself
  · rw [if_pos (by rcases hname with rfl | rfl <;> rfl), namedSchemas]
    exact mem_entrySchemas.2 ⟨_, hw, hself⟩

namespace Session

variable {d : Document} {root l : Location} {t : Session} {members : List (Scalar × Value)}

/-- Where the references that the compilation comes to lead to objects, these are schema objects of the document. -/
def RefersWithin (t : Session) (d : Document) (root : Location) : Prop :=
  ∀ ⦃l members inner ref x fragment ms⦄, t.ComesTo root l → l.value = .obj members → l.Inner members inner →
    (.str "$ref", .str ref) ∈ members → t.Leads inner ref x fragment → x.value = .obj ms →
      (x.pointer, .obj ms) ∈ schemaObjects .root d.content

/-- The objects that the compilation of a document at its root comes to are schema objects of the document. -/
theorem mem_schemaObjects_of_comesTo (hrefs : t.RefersWithin d root) (hroot : d.LocatedAt .root root)
    (h : t.ComesTo root l) (hvalue : l.value = .obj members) :
    (l.pointer, .obj members) ∈ schemaObjects .root d.content := by
  induction h generalizing members with
  | refl =>
    have hlies := hroot.lies
    unfold Location.Lies at hlies
    rw [hroot.pointer, hroot.document, hvalue] at hlies
    rw [hroot.pointer, show d.content = .obj members from Except.ok.inj hlies, schemaObjects]
    exact List.mem_cons_self
  | @tail l x hl hgo ih =>
    cases hgo with
    | @part ms inner x hvalue' hreplaced hinner hsub =>
      have hbelow := Location.mem_schemaObjects_of_mem_subschemas hsub hvalue
      rw [hinner.pointer] at hbelow
      exact schemaObjects_trans (ih hvalue') hbelow
    | reference hvalue' hinner href htarget => exact hrefs hl hvalue' hinner href htarget hvalue

end Session

/-! ### Names that a compilation comes to -/

/-- The object at the location, which is not replaced by its reference, has the name, and this comes to the URI. -/
def Location.Declares (l : Location) (name uri : String) : Prop :=
  ∃ members, l.value = .obj members ∧ l.isReplaced members = false ∧
    lookupKey (.str "$id") members = some (.str name) ∧ resolveName l.base name = .ok uri ∧ uri.isEmpty = false

/-- The document claims the URI that one of its schema objects declares under the base in force there. -/
theorem Location.Declares.claims {d : Document} {l : Location} {name uri : String} (h : l.Declares name uri)
    (hdocument : l.document = d) (hbased : l.Based)
    (hmem : ∀ ms, l.value = .obj ms → (l.pointer, .obj ms) ∈ schemaObjects .root d.content)
    (hname : name.startsWith "#" = false) : d.Claims uri ⟨d, l.pointer⟩ := by
  obtain ⟨members, hvalue, -, hid, huri, hne⟩ := h
  refine .part (hmem members hvalue) hid hname ?_ hne
  rw [Location.Based, hdocument] at hbased
  rw [hbased]
  exact huri

namespace Session

variable {d : Document} {p : Pointer} {root l : Location} {t : Session}

/-- While a document that is alone is compiled, the base that is handed down is the one in force there, if no object of
schemas under names has a name. -/
theorem based_of_comesTo (hd : d.content.every Value.isKeyed = true)
    (halone : ∀ uri home, t.homes.lookup uri = some home → home.document = d) (hroot : d.LocatedAt p root)
    (hmaps : ∀ l, t.ComesTo root l → l.NamelessMaps) (h : t.ComesTo root l) : l.Based := by
  induction h with
  | refl =>
    rw [Location.Based, hroot.document, hroot.pointer]
    exact hroot.base
  | @tail l x hl hgo ih =>
    have hinside := (inside_of_locatedAt hroot).comesTo hd halone hl
    cases hgo with
    | part hvalue hreplaced hinner hsub =>
      have hkeyed := hinside.keyed hd hvalue
      exact ih.part_of_namelessMaps hinside.lies hvalue (isKeyed_obj_iff.1 (Value.of_every hkeyed)).1 hreplaced hinner
        (hmaps l hl) hsub
    | reference hvalue hinner href htarget =>
      obtain ⟨_, _, _, -, -, -, -, -, -, hbase, -⟩ := htarget
      exact hbase

/-- The home is that of an object with a plain name that the compilation comes to, under what the name comes to. -/
def FilesAnchor (t : Session) (root : Location) (uri : String) (home : Home) : Prop :=
  ∃ l name, t.ComesTo root l ∧ l.Declares name uri ∧ name.startsWith "#" = true ∧ home = ⟨l.document, l.pointer⟩

end Session

/-- What has been registered of the document in the first session foresees what its compilation, which ends in the other
one, comes to. -/
structure Document.Foresees (d : Document) (first t : Session) (root : Location) : Prop where
  /-- No schema object is registered twice. -/
  nodup : ((schemaObjects .root d.content).map (·.1)).Nodup
  /-- The compilation comes to no other objects. -/
  object : ∀ {l ms}, t.ComesTo root l → l.value = .obj ms →
    l.document = d ∧ (l.pointer, .obj ms) ∈ schemaObjects .root d.content
  /-- What a name comes to has been registered, at its own place if nothing else claims it. -/
  name : ∀ {l name uri}, t.ComesTo root l → l.Declares name uri → name.startsWith "#" = false →
    (first.homes.lookup uri).isSome ∧
      ((∀ home, d.Claims uri home → home = ⟨d, l.pointer⟩) → first.homes.lookup uri = some ⟨d, l.pointer⟩)
  kept : Extends first.homes t.homes
  /-- Nothing is filed later but the homes of plain names. -/
  new : ∀ {uri home}, t.homes.lookup uri = some home → first.homes.lookup uri = some home ∨ t.FilesAnchor root uri home
  /-- As long as nothing is lost, references under a URI that the document claims lead to the same. -/
  leads : ∀ {u : Session}, Extends first.homes u.homes → ∀ {l ref full uri home fragment},
    resolveUri l.base ref = .ok full → Uri.splitFragment full = (uri, fragment) → d.Claims uri home →
      ∀ x fragment', u.Leads l ref x fragment' ↔ first.Leads l ref x fragment'

namespace Session

variable {setup : Setup} {d : Document} {root l : Location} {s first final : Session}

/-! ### What is filed meanwhile -/

/-- What is filed between two sessions, the one in which a document is registered and the one which its compilation ends
in, has been registered or is the home of a plain name. -/
def Between (first final : Session) (root : Location) (homes : List (String × Home)) : Prop :=
  Extends first.homes homes ∧ (Extends homes final.homes → ∀ uri home, homes.lookup uri = some home →
    first.homes.lookup uri = some home ∨ final.FilesAnchor root uri home)

/-- What a compilation files from the session on in which a document is registered, if it ends in the final one. -/
def betweenSurvey (setup : Setup) (first final : Session) (root : Location) (anonymous : Nat) : Survey setup where
  anonymous := anonymous
  stock _ homes := Between first final root homes
  grows := Extends
  grows_refl := .refl
  grows_trans := .trans
  fails _ s := Between first final root s.homes
  good s l := s.ComesTo root l
  covers _ := True
  leads := Leads

section Lawful

variable {anonymous : Nat} {way : List Location} {inner : Location} {members : List (Scalar × Value)}
  {homes : List (String × Home)} {uri name : String}
  (halone : ∀ uri home, final.homes.lookup uri = some home → home.document = d)
  (hown : ∀ uri, d.uri = some uri → (first.homes.lookup uri).isSome)
  (hnames : ∀ {l name uri}, final.ComesTo root l → l.Declares name uri → name.startsWith "#" = false →
    (first.homes.lookup uri).isSome)

include hnames in
/-- To file what a name comes to adds nothing, unless the name is plain. -/
theorem Between.addHome (h : Between first final root homes)
    (hl : ∀ u : Session, Extends homes u.homes → u.ComesTo root l) (hdeclares : l.Declares name uri) :
    Between first final root (addHome uri ⟨l.document, l.pointer⟩ homes) := by
  have hext := extends_addHome uri ⟨l.document, l.pointer⟩ homes
  refine ⟨h.1.trans hext, fun hfinal u home hlookup => ?_⟩
  have hcomes := hl final (hext.trans hfinal)
  rcases eq_of_lookup_addHome hlookup with hold | ⟨rfl, rfl⟩
  · exact h.2 (hext.trans hfinal) u home hold
  · cases hname : name.startsWith "#" with
    | true => exact .inr ⟨l, name, hcomes, hdeclares, hname, rfl⟩
    | false =>
      obtain ⟨known, hknown⟩ := Option.isSome_iff_exists.1 (hnames hcomes hdeclares hname)
      have hsame := h.1.trans hext u known hknown
      rw [hlookup] at hsame
      cases hsame
      exact .inl hknown

include halone hown in
/-- Where the document is alone in the end, nothing is filed for another one meanwhile. -/
private theorem Between.loads {homes' : List (String × Home)} {v : Value} (h : Between first final root homes)
    (hunknown : homes.lookup uri = none) (hext : Extends homes homes')
    (hnew : ∀ u home, homes'.lookup u = some home →
      homes.lookup u = some home ∨ home.document = ⟨uri, some uri, v⟩) : Between first final root homes' := by
  refine ⟨h.1.trans hext, fun hfinal u home hlookup => ?_⟩
  rcases hnew u home hlookup with hold | hdocument
  · exact h.2 (hext.trans hfinal) u home hold
  · -- The other document would be the one that is registered, whose URI is known.
    have hd : d = ⟨uri, some uri, v⟩ := (halone u home (hfinal u home hlookup)).symm.trans hdocument
    have hknown := h.1.isSome (hown uri (by rw [hd]))
    rw [hunknown] at hknown
    cases hknown

include halone hown in
private theorem runs_home_between {descend : Location → Compiling Node} (huri : '#' ∉ uri.toList) :
    Runs ((betweenSurvey setup first final root anonymous).course (l :: way))
      (fun s => (betweenSurvey setup first final root anonymous).Pending way s l)
      ((inner.scope setup descend members).home uri) fun home s => s.Names inner.document uri home := by
  refine runs_home_names huri (fun ht => ht) (fun s x t hin _ hloads => ?_) fun _ s e t hin _ hfails => ?_
  · have hext : Extends s.homes t.homes := hloads.registers.extend
    have hstock : Between first final root t.homes := Between.loads halone hown hin.stock hloads.unknown hext
      fun u home hlookup => (hloads.registers.new hlookup).imp_right fun hclaims => hclaims.document_eq
    obtain ⟨loader, homes, rfl⟩ := hloads.rest
    exact ⟨⟨hin.anonymous, hstock, fun hn u hu => hin.nodes hn u (hext.trans hu), hin.compiling⟩, hext⟩
  · cases hfails with
    | missed => exact hin.stock
    | misnamed hunknown _ _ hext hnew =>
      exact Between.loads halone hown hin.stock hunknown hext fun u home hlookup =>
        (hnew u home hlookup).imp_right fun hclaims => hclaims.document_eq

include halone hown hnames in
theorem lawful_betweenSurvey : (betweenSurvey setup first final root anonymous).Lawful where
  fails_registry h _ := h
  recursion hin _ _ _ := hin.stock
  refused hin _ _ _ := hin.stock
  sample hin _ _ _ _ := hin.stock
  good_part _ hl hvalue hreplaced hinner hpart := hl.tail (.part hvalue hreplaced hinner hpart)
  uncovered _ h := absurd trivial h
  name {way s l members name uri} hin hgood hvalue hreplaced hid huri hne :=
    ⟨Between.addHome hnames hin.stock hgood ⟨members, hvalue, hreplaced, hid, huri, hne⟩, extends_addHome _ _ _⟩
  target := by
    intro way l members inner ref hvalue hinner href descend
    refine (Scope.runs_target (fun s => s.Names inner.document)
      (fun full uri fragment _ hsplit => runs_home_between halone hown (Uri.not_mem_of_splitFragment hsplit))
      fun s e hin _ _ _ => hin.stock).weaken (fun _ h => h) fun t s hP ht => ?_
    exact ⟨ht, hP.1.tail (.reference hvalue hinner href ht)⟩

include halone hown hnames in
/-- What the compilation of a registered document files, whether it fails or not, has been registered or is the home of a
plain name. -/
theorem between_of_compile {fuel : Nat} {result : Except Failure Node} (hentries : first.registry.entries = [])
    (h : (compile setup fuel root).run.run first = (result, final)) : Between first final root final.homes := by
  have hlawful : (betweenSurvey setup first final root first.registry.anonymous).Lawful :=
    lawful_betweenSurvey halone hown hnames
  have hin : (betweenSurvey setup first final root first.registry.anonymous).InOrder [] first :=
    .of_entries hentries rfl ⟨.refl _, fun _ _ _ hlookup => .inl hlookup⟩
  have hcompile : Runs ((betweenSurvey setup first final root first.registry.anonymous).course [])
      (fun s => (betweenSurvey setup first final root first.registry.anonymous).Pending [] s root)
      (compile setup fuel root)
      fun n s => (betweenSurvey setup first final root first.registry.anonymous).filed s root.place n :=
    hlawful.runs_compile (fun way s _ _ hin _ => hin.stock) fuel List.nodup_nil (Nat.zero_add fuel)
  have hrun := hcompile first hin fun t _ => ⟨.refl, fun x hx => by cases hx⟩
  rw [h] at hrun
  cases result with
  | error e => exact hrun
  | ok n => exact hrun.1.stock

include halone hown hnames in
theorem between_of_compileAt {result : Except Failure Schema} (hentries : first.registry.entries = [])
    (hroot : d.LocatedAt .root root) (hregistered : (Compiling.registerDocument d).run.run s = (.ok (), first))
    (h : (Schema.compileAt setup d .root).run.run s = (result, final)) : Between first final root final.homes := by
  cases ended_compileAt h with
  | unregistered hfails => cases hregistered.symm.trans hfails
  | unlocated he => exact absurd he hroot.not_unlocated
  | compiled hregistered' hroot' hrun =>
    cases hregistered.symm.trans hregistered'
    cases hroot.eq hroot'
    exact between_of_compile halone hown hnames hentries hrun

end Lawful

/-- A reference leads to the same in two sessions in which its URI names the same. -/
theorem leads_iff {u : Session} {ref full uri : String} {fragment : Option String} (hfull : resolveUri l.base ref = .ok full)
    (hsplit : Uri.splitFragment full = (uri, fragment)) (hsame : u.homes.lookup uri = first.homes.lookup uri)
    (x : Location) (fragment' : Option String) : u.Leads l ref x fragment' ↔ first.Leads l ref x fragment' := by
  have hgo : ∀ {s t : Session}, s.homes.lookup uri = t.homes.lookup uri → s.Leads l ref x fragment' →
      t.Leads l ref x fragment' := by
    rintro s t hst ⟨full', uri', home, hfull', hsplit', hhome, hrest⟩
    cases hfull.symm.trans hfull'
    cases hsplit.symm.trans hsplit'
    refine ⟨full, uri, home, hfull, hsplit, hhome.imp_right fun ⟨hne, hlookup⟩ => ⟨hne, ?_⟩, hrest⟩
    exact hst.symm.trans hlookup
  exact ⟨hgo hsame, hgo hsame.symm⟩

end Session

namespace Schema

/-- Where a session that had compiled nothing registers a document, all objects of which have texts for keys, and
compiles it at its root, and comes to no other document and by references to no objects but its schema objects, what it
has registered foresees what it comes to; if the compilation fails, then as long as no object of schemas under names
has a name. -/
theorem foresees_of_compileAt {setup : Setup} {d : Document} {s first t : Session} {root : Location}
    {result : Except Failure Schema} (hd : d.content.every Value.isKeyed = true) (hfresh : s.Fresh)
    (halone : ∀ uri home, t.homes.lookup uri = some home → home.document = d)
    (hregistered : (Compiling.registerDocument d).run.run s = (.ok (), first)) (hroot : d.LocatedAt .root root)
    (h : (compileAt setup d .root).run.run s = (result, t)) (hrefs : t.RefersWithin d root)
    (hmaps : ∀ e, result = .error e → ∀ l, t.ComesTo root l → l.NamelessMaps) : d.Foresees first t root := by
  obtain ⟨homes, hregisters, hfirst⟩ := hfresh.registers hregistered
  have hlookups : first.homes = homes := congrArg Session.homes hfirst
  have hfiled : d.IsFiled first.homes := hlookups ▸ hregisters.filed
  have hinside := Session.inside_of_locatedAt hroot
  have hdocument : ∀ {l}, t.ComesTo root l → l.document = d := fun hl => (hinside.comesTo hd halone hl).document
  have hmem : ∀ {l}, t.ComesTo root l → ∀ ms, l.value = .obj ms → (l.pointer, .obj ms) ∈ schemaObjects .root d.content :=
    fun hl ms hvalue => Session.mem_schemaObjects_of_comesTo hrefs hroot hl hvalue
  -- The base of a part is that of its place in the document: a compilation that ends well has seen to it, for one that
  -- fails it is assumed of the maps.
  have hbased : ∀ {l}, t.ComesTo root l → l.Based := by
    intro l hl
    cases result with
    | error e => exact Session.based_of_comesTo hd halone hroot (hmaps e rfl) hl
    | ok schema =>
      obtain ⟨root', hroot', -, -, hlocations, -⟩ := bases_of_compileAt hd hfresh halone h
      cases hroot.eq hroot'
      obtain ⟨hdocument, hbase, -⟩ := hlocations l hl
      rwa [Location.Based, hdocument]
  have hclaims : ∀ {l name uri}, t.ComesTo root l → l.Declares name uri → name.startsWith "#" = false →
      d.Claims uri ⟨d, l.pointer⟩ :=
    fun hl hdeclares hname => hdeclares.claims (hdocument hl) (hbased hl) (hmem hl) hname
  have hentries : first.registry.entries = [] := by
    rw [hfirst]
    exact hfresh.entries
  have hbetween := Session.between_of_compileAt halone (fun uri huri => hfiled uri _ (.document huri))
    (fun hl hdeclares hname => hfiled _ _ (hclaims hl hdeclares hname)) hentries hroot hregistered h
  refine ⟨nodup_schemaObjects hd, fun hl hvalue => ⟨hdocument hl, hmem hl _ hvalue⟩,
    fun {l name uri} hl hdeclares hname => ?_, hbetween.1, fun hlookup => hbetween.2 (.refl _) _ _ hlookup, fun {u} hu => ?_⟩
  · have hknown := hfiled uri _ (hclaims hl hdeclares hname)
    refine ⟨hknown, fun honly => ?_⟩
    obtain ⟨home, hhome⟩ := Option.isSome_iff_exists.1 hknown
    rw [hhome, honly home (hregisters.claims (hlookups ▸ hhome))]
  · intro l ref full uri home fragment hfull hsplit hclaims
    obtain ⟨known, hknown⟩ := Option.isSome_iff_exists.1 (hfiled uri home hclaims)
    exact Session.leads_iff hfull hsplit ((hu uri known hknown).trans hknown.symm)

/-- References that are all one URI without a fragment lead to schema objects, if it stands by itself and is that of a
schema object. -/
private theorem refersWithin_of_standsAlone {d : Document} {t : Session} {root : Location} {uri : String} {home : Home}
    {v : Value} (hjson : d.content.isJson = true) (halone : ∀ uri home, t.homes.lookup uri = some home → home.document = d)
    (hroot : d.LocatedAt .root root) (huri : Uri.StandsAlone uri) (hne : uri.isEmpty = false)
    (hsplit : Uri.splitFragment uri = (uri, none))
    (hrefs : d.content.every (fun v => (v.member? "$ref").all (·.text? == some uri)) = true)
    (hhome : t.homes.lookup uri = some home) (hv : (home.origin, v) ∈ schemaObjects .root d.content) :
    t.RefersWithin d root := by
  intro l members inner ref x fragment ms hl hvalue hinner href htarget hms
  have hkeyed := Value.every_isKeyed hjson
  have hinside := (Session.inside_of_locatedAt hroot).comesTo hkeyed halone hl
  have hlies := hinside.lies
  rw [Location.Lies, hinside.document, hvalue] at hlies
  have hlookup := lookupKey_of_nodup (isKeyed_obj_iff.1 (Value.of_every (hinside.keyed hkeyed hvalue))).1 href
  have href := Pointer.of_every hrefs hlies
  rw [Value.member?, hlookup] at href
  have href : ref = uri := Option.some.inj (beq_iff_eq.1 href)
  subst href
  have hx := TargetOf.lies htarget
  obtain ⟨full, short, home', hfull, hsplit', hhome', hpointer, -, hdocument, -⟩ := htarget
  cases Uri.eq_of_resolve_of_standsAlone huri (mapError_eq_ok.1 hfull)
  cases hsplit.symm.trans hsplit'
  have hhome' : home' = home := by
    rcases hhome' with ⟨hempty, -⟩ | ⟨-, hlookup⟩
    · rw [hne] at hempty
      cases hempty
    · exact Option.some.inj (hlookup.symm.trans hhome)
  subst hhome'
  have horigin : x.pointer = home'.origin := (Option.some.inj (Except.ok.inj hpointer)).symm
  rw [Location.Lies, hdocument, halone _ _ hhome, horigin, hms] at hx
  have hv' := eval_of_mem_schemaObjects hjson hv
  rw [hx] at hv'
  cases hv'
  rw [horigin]
  exact hv

/-- A document in which a part refers to another one by its name. -/
def embeddedName : String :=
  r#"{"$id": "http://x/a/", "allOf": [{"$ref": "http://x/a/b"}], "# ++
    r#""$defs": {"p": {"$id": "b", "type": "string"}}}"#

/-- The part is registered under what its name comes to, and so the reference finds it before it is compiled. -/
theorem foresees_of_compileAt_embedded : ∃ (D : Value) (s first t : Session) (schema : Schema) (root : Location)
    (home : Home), decodeText embeddedName = .ok D ∧ D.every Value.isKeyed = true ∧ s.Fresh ∧
    (∀ uri home, t.homes.lookup uri = some home → home.document = ⟨"urn:anonymous:1", none, D⟩) ∧
    (Compiling.registerDocument ⟨"urn:anonymous:1", none, D⟩).run.run s = (.ok (), first) ∧
    (⟨"urn:anonymous:1", none, D⟩ : Document).LocatedAt .root root ∧
    (compileAt { world := .ofTable [] } ⟨"urn:anonymous:1", none, D⟩ .root).run.run s = (.ok schema, t) ∧
    t.RefersWithin ⟨"urn:anonymous:1", none, D⟩ root ∧ first.homes.lookup "http://x/a/b" = some home ∧
    home.origin = ⟨["$defs", "p"]⟩ ∧ (⟨"urn:anonymous:1", none, D⟩ : Document).Foresees first t root := by
  let s : Session := { registry := { anonymous := 1 } }
  obtain ⟨D, hD, h⟩ := exists_eq_ok_of_any (x := decodeText embeddedName)
    (p := fun D =>
      let d : Document := ⟨"urn:anonymous:1", none, D⟩
      let isPart (home : Home) := home.origin == ⟨["$defs", "p"]⟩
      D.every (fun v => (v.member? "$ref").all (·.text? == some "http://x/a/b")) &&
        ((schemaObjects .root D).any (fun entry => entry.1 == ⟨["$defs", "p"]⟩) &&
          endsWith (fun _ first => endsWith (fun _ t => (first.homes.lookup "http://x/a/b").any isPart &&
            (t.homes.lookup "http://x/a/b").any isPart)
            ((compileAt { world := .ofTable [] } d .root).run.run s))
            ((Compiling.registerDocument d).run.run s)))
    (by decide +kernel)
  obtain ⟨hrefs, h⟩ := Bool.and_eq_true_iff.1 h
  obtain ⟨hparts, h⟩ := Bool.and_eq_true_iff.1 h
  obtain ⟨⟨⟩, first, hregistered, h⟩ := exists_of_endsWith h
  obtain ⟨schema, t, hcompile, h⟩ := exists_of_endsWith h
  obtain ⟨hfirst, hlast⟩ := Bool.and_eq_true_iff.1 h
  obtain ⟨home, hhome, horigin⟩ := (Option.any_eq_true _ _).1 hfirst
  obtain ⟨home', hhome', horigin'⟩ := (Option.any_eq_true _ _).1 hlast
  obtain ⟨⟨p, v⟩, hv, hp⟩ := List.any_eq_true.1 hparts
  obtain rfl : p = home'.origin := (beq_iff_eq.1 hp).trans (beq_iff_eq.1 horigin').symm
  have hfresh : s.Fresh := ⟨rfl, rfl⟩
  have hjson := isJson_of_decodeText hD
  have hkeyed := Value.every_isKeyed hjson
  have hworld : ∀ uri v, ¬(.ofTable [] : World).Gives uri v := by
    rintro uri v ⟨r, hr, -⟩
    cases (Loader.serves_table rfl).1 hr
  have hbase : IsBase (none : Option String) := by rintro _ ⟨⟩
  have halone : ∀ uri home, t.homes.lookup uri = some home → home.document = ⟨"urn:anonymous:1", none, D⟩ :=
    fun uri home hhome =>
      Library.eq_of_atHand hworld (Session.atHand_of_compileAt hbase hfresh (by rintro _ _ ⟨⟩) hcompile hhome)
  obtain ⟨root, hroot, -⟩ := Session.descends_of_compileAt hfresh hcompile
  have hstands : Uri.StandsAlone "http://x/a/b" :=
    ⟨by decide +kernel, _, rfl, .inr ⟨by decide +kernel, by decide +kernel⟩⟩
  have hwithin := refersWithin_of_standsAlone hjson halone hroot hstands (by decide) (by decide +kernel) hrefs hhome' hv
  exact ⟨D, s, first, t, schema, root, home, hD, hkeyed, hfresh, halone, hregistered, hroot, hcompile, hwithin, hhome,
    beq_iff_eq.1 horigin, foresees_of_compileAt hkeyed hfresh halone hregistered hroot hcompile hwithin (by rintro _ ⟨⟩)⟩

/-- A document in which the object of the properties seems to have a name. -/
def namedProperties : String :=
  r#"{"properties": {"a": {"$id": "x"}, "$id": "y/"}}"#

/-- A compilation that fails can have filed what nothing has been registered under, if an object of schemas under names
has a name: the document has this in force above the schemas, but they are compiled without it. -/
theorem not_foreseen_named : ∃ (D : Value) (first t : Session) (e : Failure) (home : Home),
    decodeText namedProperties = .ok D ∧
    (Compiling.registerDocument ⟨"http://x/r", some "http://x/r", D⟩).run.run {} = (.ok (), first) ∧
    (compileAt { world := .ofTable [] } ⟨"http://x/r", some "http://x/r", D⟩ .root).run.run {} =
      (.error e, t) ∧
    first.homes.lookup "http://x/x" = none ∧ t.homes.lookup "http://x/x" = some home ∧
    home.origin = ⟨["properties", "a"]⟩ := by
  obtain ⟨D, hD, h⟩ := exists_eq_ok_of_any (x := decodeText namedProperties)
    (p := fun D =>
      let d : Document := ⟨"http://x/r", some "http://x/r", D⟩
      let compiled := (compileAt { world := .ofTable [] } d .root).run.run {}
      endsWith (fun _ first => compiled.1.toOption.isNone && ((first.homes.lookup "http://x/x").isNone &&
        (compiled.2.homes.lookup "http://x/x").any fun home => home.origin == ⟨["properties", "a"]⟩))
        ((Compiling.registerDocument d).run.run {}))
    (by decide +kernel)
  obtain ⟨⟨⟩, first, hregistered, h⟩ := exists_of_endsWith h
  obtain ⟨hfails, h⟩ := Bool.and_eq_true_iff.1 h
  obtain ⟨hnone, hsome⟩ := Bool.and_eq_true_iff.1 h
  obtain ⟨home, hhome, horigin⟩ := (Option.any_eq_true _ _).1 hsome
  generalize hcompile : (compileAt { world := .ofTable [] } ⟨"http://x/r", some "http://x/r", D⟩
    .root).run.run {} = compiled at hfails hhome
  obtain ⟨result, t⟩ := compiled
  cases result with
  | ok schema => cases hfails
  | error e =>
    exact ⟨D, first, t, e, home, hD, hregistered, hcompile, Option.isNone_iff_eq_none.1 hnone, hhome,
      beq_iff_eq.1 horigin⟩

/-- Below the property that goes by a number a schema is compiled under a name that nothing has been registered under: the
document has another base in force there. -/
theorem not_foreseen_numbered : ∃ (D : Value) (first t : Session) (schema : Schema) (home : Home),
    Resource.decode Yaml.read ⟨.text numberedProperty, none⟩ "http://x/s.yaml" = .ok D ∧
    D.every (fun v => (v.member? "$ref").isNone) = true ∧
    (Compiling.registerDocument ⟨"http://x/s.yaml", some "http://x/s.yaml", D⟩).run.run {} = (.ok (), first) ∧
    (compileAt { world := .ofTable [] } ⟨"http://x/s.yaml", some "http://x/s.yaml", D⟩ .root).run.run {} =
      (.ok schema, t) ∧
    first.homes.lookup "http://x/a/e" = none ∧ t.homes.lookup "http://x/a/e" = some home ∧
    home.document.uri = some "http://x/s.yaml" ∧ home.origin = ⟨["properties", "1", "properties", "p"]⟩ := by
  obtain ⟨D, hD, h⟩ := exists_eq_ok_of_any (x := Resource.decode Yaml.read ⟨.text numberedProperty, none⟩ "http://x/s.yaml")
    (p := fun D =>
      let d : Document := ⟨"http://x/s.yaml", some "http://x/s.yaml", D⟩
      D.every (fun v => (v.member? "$ref").isNone) &&
        endsWith (fun _ first => endsWith (fun _ t => (first.homes.lookup "http://x/a/e").isNone &&
          (t.homes.lookup "http://x/a/e").any fun home => home.document.uri == some "http://x/s.yaml" &&
            home.origin == ⟨["properties", "1", "properties", "p"]⟩)
          ((compileAt { world := .ofTable [] } d .root).run.run {}))
          ((Compiling.registerDocument d).run.run {}))
    (by decide +kernel)
  obtain ⟨hrefs, h⟩ := Bool.and_eq_true_iff.1 h
  obtain ⟨⟨⟩, first, hregistered, h⟩ := exists_of_endsWith h
  obtain ⟨schema, t, hcompile, h⟩ := exists_of_endsWith h
  obtain ⟨hnone, hsome⟩ := Bool.and_eq_true_iff.1 h
  obtain ⟨home, hhome, h⟩ := (Option.any_eq_true _ _).1 hsome
  obtain ⟨hdocument, horigin⟩ := Bool.and_eq_true_iff.1 h
  exact ⟨D, first, t, schema, home, hD, hrefs, hregistered, hcompile, Option.isNone_iff_eq_none.1 hnone, hhome,
    beq_iff_eq.1 hdocument, beq_iff_eq.1 horigin⟩

end Schema

end Conform
