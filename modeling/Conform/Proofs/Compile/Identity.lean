import Conform.Proofs.Compile.Ledger

/-!
# The names of loaded documents

A document that names itself is kept under the URI that it is loaded from and under its name as it is written, without a
fragment; it is compiled under its name as it is resolved against that URI.  What a load makes of the cache is told URI by
URI (`Loader.Load.lookup_after`), and from that exactly when the loader knows the document by the name that it is compiled
under and by no other (`Loader.known_of_loads`).  It does wherever the name stands alone, and loses the document where the
name is a relative one (`Loader.astray_of_relative_name`).
-/

namespace Conform

namespace Loader

variable {w : World} {uri : String} {d : Loaded} {l l' : Loader}

/-! ### What is kept -/

/-- What becomes of the cache where a document is kept. -/
theorem cache_of_keep {r : Resource} (h : (keep w uri r).run.run l = (.ok d, l')) : d.contentType = r.contentType ∧
    ((∀ name, d.value.member? "$id" ≠ some (.str name)) ∧ l'.cache = put uri d l.cache ∨
      ∃ name short, d.value.member? "$id" = some (.str name) ∧ Uri.dropFragment name = .ok short ∧
        l'.cache = putNew short d (put uri d l.cache)) := by
  unfold keep at h
  cases hv : r.decode w.yaml uri with
  | error e =>
    rw [hv] at h
    cases h
  | ok v =>
    rw [hv] at h
    dsimp only at h
    obtain ⟨u, m, hremember, hpure⟩ := exists_of_run_bind h
    cases hpure
    refine ⟨rfl, ?_⟩
    unfold remember at hremember
    obtain ⟨u', m, hput, hname⟩ := exists_of_run_bind hremember
    cases hput
    dsimp only at hname
    -- A document with a name is put under it as well, where the name is new.
    split at hname
    · rename_i name hid
      obtain ⟨short, m, hdrop, hnew⟩ := exists_of_run_bind hname
      rw [run_dropFragment] at hdrop
      have hshort : Uri.dropFragment name = .ok short := mapError_eq_ok.1 (Prod.mk.inj hdrop).1
      obtain rfl := (Prod.mk.inj hdrop).2
      cases hnew
      exact .inr ⟨name, short, hid, hshort, rfl⟩
    · rename_i hid
      cases hname
      exact .inl ⟨fun name hname => hid name hname, rfl⟩

/-- A document that is fetched and has not been in the cache is kept. -/
theorem keep_of_fetch {short : String} (hshort : Uri.dropFragment uri = .ok short) (hmiss : l.cache.lookup short = none)
    (h : (fetch w uri).run.run l = (.ok d, l')) :
    ∃ r m, m.cache = l.cache ∧ (keep w short r).run.run m = (.ok d, l') := by
  rw [run_fetch_eq w hshort, hmiss] at h
  obtain ⟨r, m, hresource, hkeep⟩ := exists_of_run_bind h
  have hcache : ((resource w short).run.run l).2.cache = l.cache := (keeps_resource (J := (· = l.cache)) l rfl).1
  rw [hresource] at hcache
  exact ⟨r, m, hcache, hkeep⟩

/-- A document that is read from a file is kept. -/
theorem keep_of_loadFile {p : Path} {v : Value} (h : (loadFile w p).run.run l = (.ok (uri, v), l')) :
    ∃ r m, m.cache = l.cache ∧ (keep w uri r).run.run m = (.ok ⟨v, none⟩, l') := by
  unfold loadFile at h
  obtain ⟨u, m, hconsult, hread⟩ := exists_of_run_bind h
  cases hconsult
  split at hread
  · cases hread
  · cases hread
  · rename_i bytes hbytes
    obtain ⟨d, m, hkeep, hpure⟩ := exists_of_run_bind hread
    cases hpure
    have htype : d.contentType = none := (cache_of_keep hkeep).1
    have hd : d = ⟨d.value, none⟩ := by rw [← htype]
    rw [hd] at hkeep
    exact ⟨_, { l with consulted := .path p :: l.consulted }, rfl, hkeep⟩

theorem alias?_of_member? {v : Value} {name short : String} (hname : v.member? "$id" = some (.str name))
    (hshort : Uri.dropFragment name = .ok short) : v.alias? = some short := by
  unfold Value.alias?
  rw [hname]
  dsimp only
  rw [hshort]
  rfl

/-- After a document has been fetched it is in the cache. -/
theorem Fetched.lookup_eq {cache cache' : List (String × Loaded)} (h : Fetched w uri cache (.ok d) cache') :
    cache'.lookup uri = some d := by
  cases h with
  | cached h => exact h
  | kept => simp [Library.lookup_put]
  | named => simp [Library.lookup_putNew, Library.lookup_put]

/-- A document is fetched without a change to the loader exactly if it is in the cache. -/
theorem run_fetch_eq_self_iff : (fetch w uri).run.run l = (.ok d, l) ↔
    ∃ short, Uri.dropFragment uri = .ok short ∧ l.cache.lookup short = some d := by
  constructor
  · intro h
    cases hshort : Uri.dropFragment uri with
    | error fault =>
      unfold fetch at h
      rw [run_bind, run_dropFragment, hshort] at h
      cases h
    | ok short =>
      have hfetched := run_fetch (w := w) hshort l
      rw [h] at hfetched
      exact ⟨short, rfl, hfetched.lookup_eq⟩
  · rintro ⟨short, hshort, hlookup⟩
    rw [run_fetch_eq w hshort, hlookup]

/-! ### Loads -/

/-- A load of a document: the loader before it, the URI and the document, and the loader after it. -/
structure Load where
  before : Loader
  uri : String
  document : Loaded
  after : Loader

/-- There is a document under the URI in the cache. -/
def Has (l : Loader) (uri : String) : Prop := (l.cache.lookup uri).isSome

namespace Load

variable {load : Load}

/-- The document of the load is kept. -/
def Keeps (load : Load) (w : World) : Prop :=
  ∃ r m, m.cache = load.before.cache ∧ (keep w load.uri r).run.run m = (.ok load.document, load.after)

/-- After the load the loader has a document under the URI, without asking for one: this document, or the one that it had
before. -/
def Finds (w : World) (load : Load) (uri : String) : Prop :=
  ∃ d, (fetch w uri).run.run load.after = (.ok d, load.after) ∧
    (d = load.document ∨ load.before.cache.lookup uri = some d)

/-- The load adds documents to the cache under the URI that it loads from and under this one only. -/
def AddsOnly (load : Load) (uri : String) : Prop :=
  ∀ key, load.after.Has key → load.before.Has key ∨ key = load.uri ∨ key = uri

/-- What the cache has under a URI after a load: the document, if that is where it is loaded from, or what it has had
before, or the document under the URI that its name comes to as it is written. -/
theorem lookup_after (h : load.Keeps w) (key : String) : load.after.cache.lookup key =
    (if key = load.uri then some load.document else load.before.cache.lookup key).or
      (if load.document.value.alias? = some key then some load.document else none) := by
  obtain ⟨r, m, hcache, hkeep⟩ := h
  obtain ⟨-, ⟨hnameless, hafter⟩ | ⟨name, short, hname, hshort, hafter⟩⟩ := cache_of_keep hkeep
  · have halias : load.document.value.alias? = none := by
      unfold Value.alias?
      split
      · exact absurd ‹_› (hnameless _)
      · rfl
    rw [hafter, Library.lookup_put, hcache, halias]
    simp
  · have halias : load.document.value.alias? = some short := alias?_of_member? hname hshort
    rw [hafter, Library.lookup_putNew, Library.lookup_put, hcache, halias]
    simp only [Option.some.injEq, eq_comm]

theorem alias?_of_name (h : load.Keeps w) {name : String} (hname : load.document.value.member? "$id" = some (.str name)) :
    ∃ short, Uri.dropFragment name = .ok short ∧ load.document.value.alias? = some short := by
  obtain ⟨r, m, hcache, hkeep⟩ := h
  obtain ⟨-, ⟨hnameless, -⟩ | ⟨name', short, hname', hshort, -⟩⟩ := cache_of_keep hkeep
  · exact absurd hname (hnameless name)
  · cases hname.symm.trans hname'
    exact ⟨short, hshort, alias?_of_member? hname hshort⟩

/-- After a load there are documents under the URIs that had one, under that of the load, and under what the name of the
document comes to as it is written. -/
theorem has_after (h : load.Keeps w) {key : String} : load.after.Has key ↔
    key = load.uri ∨ load.before.Has key ∨ load.document.value.alias? = some key := by
  unfold Has
  rw [lookup_after h]
  by_cases hkey : key = load.uri
  · simp [hkey]
  · by_cases halias : load.document.value.alias? = some key
    · simp [hkey, halias]
    · simp [hkey, halias]

/-- Where a document is found after a load, it is the one that was loaded unless another one was there before. -/
theorem finds_iff (h : load.Keeps w) {id : String} (hid : '#' ∉ id.toList) : load.Finds w id ↔
    id = load.uri ∨ load.before.Has id ∨ load.document.value.alias? = some id := by
  have hdrop : Uri.dropFragment id = .ok id := Uri.dropFragment_of_not_mem hid
  rw [← has_after h]
  constructor
  · rintro ⟨d, hrun, -⟩
    obtain ⟨short, hshort, hlookup⟩ := run_fetch_eq_self_iff.1 hrun
    cases hdrop.symm.trans hshort
    exact Option.isSome_iff_exists.2 ⟨d, hlookup⟩
  · intro hhas
    obtain ⟨d, hlookup⟩ := Option.isSome_iff_exists.1 hhas
    refine ⟨d, run_fetch_eq_self_iff.2 ⟨id, hdrop, hlookup⟩, ?_⟩
    -- Under its URI the document takes the place of the one before; under its name it leaves that where it is.
    rw [lookup_after h] at hlookup
    by_cases huri : id = load.uri
    · left
      simpa [huri, eq_comm] using hlookup
    · rw [if_neg huri] at hlookup
      cases hbefore : load.before.cache.lookup id with
      | some known =>
        right
        simpa [hbefore] using hlookup
      | none =>
        left
        rw [hbefore, Option.none_or] at hlookup
        split at hlookup
        · exact (Option.some.inj hlookup).symm
        · cases hlookup

/-- A load adds nothing elsewhere exactly if the name of the document, as it is written, comes to one of the two URIs or to one
that was taken. -/
theorem addsOnly_iff (h : load.Keeps w) {short id : String} (halias : load.document.value.alias? = some short) :
    load.AddsOnly id ↔ short = load.uri ∨ load.before.Has short ∨ short = id := by
  constructor
  · intro honly
    have hafter : load.after.Has short := (has_after h).2 (.inr (.inr halias))
    rcases honly short hafter with hbefore | huri | hid
    · exact .inr (.inl hbefore)
    · exact .inl huri
    · exact .inr (.inr hid)
  · intro hshort key hafter
    rcases (has_after h).1 hafter with huri | hbefore | hkey
    · exact .inr (.inl huri)
    · exact .inl hbefore
    · cases halias.symm.trans hkey
      rcases hshort with huri | hbefore | hid
      · exact .inr (.inl huri)
      · exact .inl hbefore
      · exact .inr (.inr hid)

/-- Let the name of the document come to `short` as it is written, and to `id` where the document is compiled.  Under `id` a
document is found exactly if that is the URI of the load, was taken before, or is `short`; and nothing is added under
further URIs exactly if `short` is the URI of the load, was taken before, or is `id`.  A name that stands alone comes to one
URI both ways. -/
def KnownByName (w : World) (load : Load) : Prop :=
  ∀ name id, load.document.value.member? "$id" = some (.str name) → resolveName (some load.uri) name = .ok id →
    ∃ short, Uri.dropFragment name = .ok short ∧
      (load.Finds w id ↔ id = load.uri ∨ load.before.Has id ∨ short = id) ∧
      (load.AddsOnly id ↔ short = load.uri ∨ load.before.Has short ∨ short = id) ∧
      (Uri.StandsAlone name → short = id)

theorem Keeps.knownByName (h : load.Keeps w) : load.KnownByName w := by
  intro name id hname hid
  obtain ⟨short, hshort, halias⟩ := alias?_of_name h hname
  obtain ⟨full, hfull, hdrop⟩ := bind_eq_ok.1 hid
  have hdrop : Uri.dropFragment full = .ok id := mapError_eq_ok.1 hdrop
  have hmark : '#' ∉ id.toList := Uri.not_mem_of_dropFragment hdrop
  refine ⟨short, hshort, ?_, addsOnly_iff h halias, ?_⟩
  · rw [finds_iff h hmark, halias, Option.some.injEq]
  · intro halone
    have hself : full = name := Uri.eq_of_resolve_of_standsAlone halone (mapError_eq_ok.1 hfull)
    rw [hself, hshort] at hdrop
    exact Except.ok.inj hdrop

end Load

/-! ### Files one after the other -/

/-- Files are loaded one after the other. -/
inductive FilesLoaded (w : World) : Loader → List Load → Loader → Prop where
  | nil (l : Loader) : FilesLoaded w l [] l
  | cons {l m l' : Loader} {p : Path} {uri : String} {v : Value} {loads : List Load}
      (h : (loadFile w p).run.run l = (.ok (uri, v), m)) (hrest : FilesLoaded w m loads l') :
    FilesLoaded w l (⟨l, uri, ⟨v, none⟩, m⟩ :: loads) l'

namespace FilesLoaded

variable {loads : List Load} {load : Load}

theorem keeps (h : FilesLoaded w l loads l') (hload : load ∈ loads) : load.Keeps w := by
  induction h with
  | nil => cases hload
  | cons hfile hrest ih =>
    rcases List.mem_cons.1 hload with rfl | hload
    · exact keep_of_loadFile hfile
    · exact ih hload

/-- What the loader has it still has at the end. -/
theorem has (h : FilesLoaded w l loads l') {key : String} (hkey : l.Has key) : l'.Has key := by
  induction h with
  | nil => exact hkey
  | cons hfile hrest ih =>
    have hkeeps : Load.Keeps ⟨_, _, _, _⟩ w := keep_of_loadFile hfile
    exact ih ((Load.has_after hkeeps).2 (.inr (.inl hkey)))

theorem has_of_mem (h : FilesLoaded w l loads l') (hload : load ∈ loads) {key : String} (hkey : load.after.Has key) :
    l'.Has key := by
  induction h with
  | nil => cases hload
  | cons hfile hrest ih =>
    rcases List.mem_cons.1 hload with rfl | hload
    · exact hrest.has hkey
    · exact ih hload

theorem of_mapM {p : Path} {names : List (List String)} {uris : List String}
    (h : (names.mapM fun names => return (← loadFile w (p.append names)).1).run.run l = (.ok uris, l')) :
    ∃ loads : List Load, loads.map (·.uri) = uris ∧ FilesLoaded w l loads l' := by
  induction names generalizing l uris with
  | nil =>
    rw [List.mapM_nil] at h
    cases h
    exact ⟨[], rfl, .nil _⟩
  | cons name names ih =>
    rw [List.mapM_cons] at h
    obtain ⟨uri, m, hfirst, hothers⟩ := exists_of_run_bind h
    obtain ⟨⟨uri', v⟩, m', hfile, hpure⟩ := exists_of_run_bind hfirst
    cases hpure
    obtain ⟨uris', m', hrest, hpure⟩ := exists_of_run_bind hothers
    cases hpure
    obtain ⟨loads, huris, hloads⟩ := ih hrest
    exact ⟨_, by rw [List.map_cons, huris], .cons hfile hloads⟩

/-- To load what lies at a path is to load files one after the other, under the URIs that are told. -/
theorem of_preLoad {p : Path} {uris : List String} (h : (preLoad w p).run.run l = (.ok uris, l')) :
    ∃ m, ∃ loads : List Load, m.cache = l.cache ∧ loads.map (·.uri) = uris ∧ FilesLoaded w m loads l' := by
  unfold preLoad at h
  obtain ⟨b, m, hisFile, h⟩ := exists_of_run_bind h
  have hcache : ((isFile w p).run.run l).2.cache = l.cache := (keeps_isFile (J := (· = l.cache)) l rfl).1
  rw [hisFile] at hcache
  cases b with
  | true =>
    obtain ⟨⟨uri, v⟩, m', hfile, hpure⟩ := exists_of_run_bind h
    cases hpure
    exact ⟨m, [_], hcache, rfl, .cons hfile (.nil _)⟩
  | false =>
    obtain ⟨b, m', hisDirectory, h⟩ := exists_of_run_bind h
    have hcache' : ((isDirectory w p).run.run m).2.cache = l.cache :=
      (keeps_isDirectory (J := (· = l.cache)) m hcache).1
    rw [hisDirectory] at hcache'
    cases b with
    | true =>
      obtain ⟨loads, huris, hloads⟩ := of_mapM h
      exact ⟨m', loads, hcache', huris, hloads⟩
    | false => cases h

end FilesLoaded

/-- Each document that is loaded, under its URI, from a file or with others from a path, is known by its name as far as
`Load.KnownByName` tells.  What is found after one of several loads is found after all of them. -/
theorem known_of_loads (w : World) (l : Loader) :
    (∀ uri short d l', Uri.dropFragment uri = .ok short → l.cache.lookup short = none →
      (fetch w uri).run.run l = (.ok d, l') → (Load.mk l short d l').KnownByName w) ∧
    (∀ p uri v l', (loadFile w p).run.run l = (.ok (uri, v), l') → (Load.mk l uri ⟨v, none⟩ l').KnownByName w) ∧
    ∀ p uris l', (preLoad w p).run.run l = (.ok uris, l') →
      ∃ m, ∃ loads : List Load, m.cache = l.cache ∧ loads.map (·.uri) = uris ∧ FilesLoaded w m loads l' ∧
        ∀ load ∈ loads, load.KnownByName w ∧
          ∀ id, load.Finds w id → ∃ d, (fetch w id).run.run l' = (.ok d, l') := by
  refine ⟨?_, ?_, ?_⟩
  · intro uri short d l' hshort hmiss hfetch
    exact Load.Keeps.knownByName (keep_of_fetch hshort hmiss hfetch)
  · intro p uri v l' hfile
    exact Load.Keeps.knownByName (keep_of_loadFile hfile)
  · intro p uris l' hload
    obtain ⟨m, loads, hcache, huris, hloads⟩ := FilesLoaded.of_preLoad hload
    refine ⟨m, loads, hcache, huris, hloads, ?_⟩
    intro load hmem
    refine ⟨(hloads.keeps hmem).knownByName, ?_⟩
    rintro id ⟨d, hfinds, -⟩
    obtain ⟨short, hshort, hlookup⟩ := run_fetch_eq_self_iff.1 hfinds
    -- What one load has put into the cache is not taken out by the loads after it.
    obtain ⟨d', hd'⟩ := Option.isSome_iff_exists.1 (hloads.has_of_mem hmem (Option.isSome_iff_exists.2 ⟨d, hlookup⟩))
    exact ⟨d', run_fetch_eq_self_iff.2 ⟨short, hshort, hd'⟩⟩

/-- Two documents: one has an absolute name with a fragment, the other a relative name. -/
def nameAnswers : List (String × Answer) :=
  [("http://x/a", .found ⟨.text r#"{"$id": "http://y/s#top"}"#, none⟩),
    ("http://x/b", .found ⟨.text r#"{"$id": "s"}"#, none⟩)]

/-- A document with an absolute name is found under it, and nowhere else but under its URI. -/
theorem known_of_loads_absolute : ∃ d l',
    (fetch (.ofTable nameAnswers) "http://x/a#/x").run.run {} = (.ok d, l') ∧
    d.value.member? "$id" = some (.str "http://y/s#top") ∧
    resolveName (some "http://x/a") "http://y/s#top" = .ok "http://y/s" ∧ Uri.StandsAlone "http://y/s#top" ∧
    (Load.mk {} "http://x/a" d l').Finds (.ofTable nameAnswers) "http://y/s" ∧
    (Load.mk {} "http://x/a" d l').AddsOnly "http://y/s" := by
  obtain ⟨d, l', hrun, hname⟩ := exists_of_endsWith
    (x := (fetch (.ofTable nameAnswers) "http://x/a#/x").run.run {})
    (p := fun d _ => (d.value.member? "$id").bind Value.text? == some "http://y/s#top") (by decide +kernel)
  obtain ⟨v, hv, htext⟩ := Option.bind_eq_some_iff.1 (beq_iff_eq.1 hname)
  have hname : d.value.member? "$id" = some (.str "http://y/s#top") := by rw [hv, Value.eq_str_of_text? htext]
  have hresolved : resolveName (some "http://x/a") "http://y/s#top" = .ok "http://y/s" :=
    toOption_eq_some.1 (by decide +kernel)
  have halone : Uri.StandsAlone "http://y/s#top" :=
    ⟨by decide +kernel, _, rfl, .inr ⟨by decide +kernel, by decide +kernel⟩⟩
  obtain ⟨short, hshort, hfinds, honly, hsame⟩ := (known_of_loads (.ofTable nameAnswers) {}).1
    "http://x/a#/x" "http://x/a" d l' (by decide +kernel) rfl hrun "http://y/s#top" "http://y/s" hname hresolved
  have hsame : short = "http://y/s" := hsame halone
  exact ⟨d, l', hrun, hname, hresolved, halone, hfinds.2 (.inr (.inr hsame)), honly.2 (.inr (.inr hsame))⟩

/-- A document with a relative name is not found under what the name comes to, but it is under the name as it is written. -/
theorem astray_of_relative_name : ∃ d l',
    (fetch (.ofTable nameAnswers) "http://x/b").run.run {} = (.ok d, l') ∧
    d.value.member? "$id" = some (.str "s") ∧ resolveName (some "http://x/b") "s" = .ok "http://x/s" ∧
    ¬(Load.mk {} "http://x/b" d l').Finds (.ofTable nameAnswers) "http://x/s" ∧
    ¬(Load.mk {} "http://x/b" d l').AddsOnly "http://x/s" := by
  obtain ⟨d, l', hrun, hname⟩ := exists_of_endsWith
    (x := (fetch (.ofTable nameAnswers) "http://x/b").run.run {})
    (p := fun d _ => (d.value.member? "$id").bind Value.text? == some "s") (by decide +kernel)
  obtain ⟨v, hv, htext⟩ := Option.bind_eq_some_iff.1 (beq_iff_eq.1 hname)
  have hname : d.value.member? "$id" = some (.str "s") := by rw [hv, Value.eq_str_of_text? htext]
  have hshort : Uri.dropFragment "http://x/b" = .ok "http://x/b" := by decide +kernel
  have hkeeps : (Load.mk {} "http://x/b" d l').Keeps (.ofTable nameAnswers) := keep_of_fetch hshort rfl hrun
  have halias : d.value.alias? = some "s" := alias?_of_member? hname (by decide +kernel)
  have hresolved : resolveName (some "http://x/b") "s" = .ok "http://x/s" := toOption_eq_some.1 (by decide +kernel)
  refine ⟨d, l', hrun, hname, hresolved, ?_, ?_⟩
  · rw [Load.finds_iff hkeeps (by decide)]
    simp [halias, Has]
  · rw [Load.addsOnly_iff hkeeps halias]
    simp [Has]

end Loader

end Conform
