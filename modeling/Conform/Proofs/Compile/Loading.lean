import Conform.Proofs.Compile.Memo

/-!
# Loading within a session

What the loader gives, and what becomes of its cache: it changes only where a document is kept, so whatever else is
asked of the world leaves a session sound.
-/

namespace Conform

namespace Loader

variable {w : World} {uri : String} {J : List (String × Loaded) → Prop} {α β : Type}

/-! ### What leaves the cache alone -/

theorem keeps_consult {c : Consultation} : Keeps (fun l => J l.cache) (consult c) fun _ => True :=
  .modify fun _ h => h

theorem keeps_isFile {p : Path} : Keeps (fun l => J l.cache) (isFile w p) fun _ => True := by
  unfold isFile
  refine keeps_consult.andThen ?_
  split
  · exact .pure trivial
  · exact .throw _

theorem keeps_isDirectory {p : Path} : Keeps (fun l => J l.cache) (isDirectory w p) fun _ => True := by
  unfold isDirectory
  refine keeps_consult.andThen ?_
  split
  · exact .pure trivial
  · exact .throw _

theorem keeps_readFile {p : Path} : Keeps (fun l => J l.cache) (readFile w p) fun _ => True := by
  unfold readFile
  refine keeps_consult.andThen ?_
  split
  · exact .pure trivial
  · exact .throw _

theorem keeps_fileAnswer : Keeps (fun l => J l.cache) (fileAnswer w uri) fun _ => True := by
  unfold fileAnswer
  split
  · exact .throw _
  · split
    · refine keeps_isFile.bind fun b _ => ?_
      split
      · exact keeps_readFile.bind fun _ _ => .pure trivial
      · exact .pure trivial
    · exact .pure trivial

private theorem keeps_ask :
    Keeps (fun l => J l.cache) (modify fun l => { l with asked := uri :: l.asked } : Loading Unit) fun _ => True :=
  .modify fun _ h => h

theorem keeps_answer : Keeps (fun l => J l.cache) (answer w uri) fun _ => True := by
  unfold answer
  refine keeps_ask.andThen ?_
  split
  · exact .pure trivial
  · exact keeps_fileAnswer

theorem keeps_resource : Keeps (fun l => J l.cache) (resource w uri) fun _ => True := by
  unfold resource
  refine keeps_answer.bind fun a _ => ?_
  split
  · exact .pure trivial
  · exact .throw _
  · exact .throw _

/-- Reading a text asks for a resource, and keeps nothing. -/
theorem keeps_readText : Keeps (fun l => J l.cache) (readText w uri) fun _ => True := by
  unfold readText
  refine keeps_resource.bind fun r _ => ?_
  split
  · exact .pure trivial
  · exact .throw _

/-! ### What does not depend on the loader -/

/-- What the computation gives does not depend on the state of the loader. -/
def Settled (x : Loading α) : Prop := ∀ l l', (x.run.run l).1 = (x.run.run l').1

namespace Settled

protected theorem pure (a : α) : Settled (pure a) := fun _ _ => rfl

protected theorem throw (e : Failure) : Settled (throw e : Loading α) := fun _ _ => rfl

protected theorem modify (f : Loader → Loader) : Settled (modify f : Loading PUnit) := fun _ _ => rfl

protected theorem bind {x : Loading α} {f : α → Loading β} (hx : Settled x) (hf : ∀ a, Settled (f a)) :
    Settled (x >>= f) := by
  intro l l'
  have h := hx l l'
  rw [run_bind, run_bind]
  generalize x.run.run l = r at h
  generalize x.run.run l' = r' at h
  obtain ⟨r, m⟩ := r
  obtain ⟨r', m'⟩ := r'
  cases h
  cases r with
  | error e => rfl
  | ok a => exact hf a m m'

end Settled

theorem settled_isFile {p : Path} : Settled (isFile w p) := by
  unfold isFile
  refine (Settled.modify _).bind fun _ => ?_
  split
  · exact .pure _
  · exact .throw _

theorem settled_readFile {p : Path} : Settled (readFile w p) := by
  unfold readFile
  refine (Settled.modify _).bind fun _ => ?_
  split
  · exact .pure _
  · exact .throw _

theorem settled_fileAnswer : Settled (fileAnswer w uri) := by
  unfold fileAnswer
  split
  · exact .throw _
  · split
    · refine settled_isFile.bind fun b => ?_
      split
      · exact settled_readFile.bind fun _ => .pure _
      · exact .pure _
    · exact .pure _

theorem settled_resource : Settled (resource w uri) := by
  have hanswer : Settled (answer w uri) := by
    unfold answer
    refine (Settled.modify _).bind fun _ => ?_
    split
    · exact .pure _
    · exact settled_fileAnswer
  unfold resource
  refine hanswer.bind fun a => ?_
  split
  · exact .pure _
  · exact .throw _
  · exact .throw _

/-- A text is read in the same way whatever has been loaded. -/
theorem settled_readText : Settled (readText w uri) := by
  unfold readText
  refine settled_resource.bind fun r => ?_
  split
  · exact .pure _
  · exact .throw _

/-! ### Documents that are kept -/

/-- The resource is one that the loader finds under the URI. -/
def Serves (w : World) (uri : String) (r : Resource) : Prop := ∃ l, ((resource w uri).run.run l).1 = .ok r

/-- The loader finds no resource under the URI. -/
def Misses (w : World) (uri : String) (e : Failure) : Prop := ∃ l, ((resource w uri).run.run l).1 = .error e

theorem Serves.unique {r r' : Resource} (h : Serves w uri r) (h' : Serves w uri r') : r = r' := by
  obtain ⟨l, hl⟩ := h
  obtain ⟨l', hl'⟩ := h'
  rw [settled_resource l l', hl'] at hl
  exact (Except.ok.inj hl).symm

/-- What a table has to say, it says whatever the state of the loader. -/
theorem run_resource_table {answers : List (String × Answer)} (hw : w.resolver = .table answers) (l : Loader) :
    ((resource w uri).run.run l).1 =
      match (answers.lookup uri).getD .missing with
      | .found r => .ok r
      | .missing => .error (.missingSchema uri)
      | .failed origin text => .error (.server origin text) := by
  have hanswer : (answer w uri).run.run l =
      (.ok ((answers.lookup uri).getD .missing), { l with asked := uri :: l.asked }) := by
    unfold answer
    rw [hw]
    rfl
  unfold resource
  rw [run_bind, hanswer]
  dsimp only
  cases (answers.lookup uri).getD .missing <;> rfl

theorem serves_table {answers : List (String × Answer)} (hw : w.resolver = .table answers) {r : Resource} :
    Serves w uri r ↔ answers.lookup uri = some (.found r) := by
  have hanswer : ∀ a : Answer, (match a with
      | .found r => .ok r
      | .missing => .error (.missingSchema uri)
      | .failed origin text => .error (.server origin text) : Except Failure Resource) = .ok r ↔ a = .found r := by
    intro a
    cases a <;> simp
  -- A table answers in the same way in all states of the loader, and so in the first one.
  constructor
  · rintro ⟨l, h⟩
    rw [run_resource_table hw, hanswer] at h
    cases hlookup : answers.lookup uri with
    | none =>
      rw [hlookup] at h
      cases h
    | some a =>
      rw [hlookup] at h
      exact congrArg some h
  · intro h
    refine ⟨{}, ?_⟩
    rw [run_resource_table hw, h]
    rfl

/-- What comes of asking for the document under a URI, which is in the cache or is looked for, and the cache
afterwards. -/
inductive Fetched (w : World) (uri : String) (cache : List (String × Loaded)) :
    Except Failure Loaded → List (String × Loaded) → Prop where
  | cached {d : Loaded} (h : cache.lookup uri = some d) : Fetched w uri cache (.ok d) cache
  | missed {e : Failure} (h : cache.lookup uri = none) (he : Misses w uri e) : Fetched w uri cache (.error e) cache
  | undecoded {r : Resource} {e : Failure} (h : cache.lookup uri = none) (hr : Serves w uri r)
      (he : r.decode w.yaml uri = .error e) : Fetched w uri cache (.error e) cache
  | kept {r : Resource} {v : Value} (h : cache.lookup uri = none) (hr : Serves w uri r) (hv : r.decode w.yaml uri = .ok v)
      (hname : ∀ name, v.member? "$id" ≠ some (.str name)) :
    Fetched w uri cache (.ok ⟨v, r.contentType⟩) (put uri ⟨v, r.contentType⟩ cache)
  | named {r : Resource} {v : Value} {name short : String} (h : cache.lookup uri = none) (hr : Serves w uri r)
      (hv : r.decode w.yaml uri = .ok v) (hname : v.member? "$id" = some (.str name)) (hshort : Uri.dropFragment name = .ok short) :
    Fetched w uri cache (.ok ⟨v, r.contentType⟩) (putNew short ⟨v, r.contentType⟩ (put uri ⟨v, r.contentType⟩ cache))
  | misnamed {r : Resource} {v : Value} {name : String} {fault : UriFault} (h : cache.lookup uri = none)
      (hr : Serves w uri r) (hv : r.decode w.yaml uri = .ok v) (hname : v.member? "$id" = some (.str name))
      (hfault : Uri.dropFragment name = .error fault) :
    Fetched w uri cache (.error (.uri fault)) (put uri ⟨v, r.contentType⟩ cache)

theorem run_dropFragment (uri : String) (l : Loader) :
    (dropFragment uri).run.run l = ((Uri.dropFragment uri).mapError .uri, l) := by
  unfold dropFragment
  cases Uri.dropFragment uri <;> rfl

theorem fetched_of_keep {r : Resource} {l : Loader} (h : l.cache.lookup uri = none) (hr : Serves w uri r) :
    Fetched w uri l.cache ((keep w uri r).run.run l).1 ((keep w uri r).run.run l).2.cache := by
  unfold keep
  cases hv : r.decode w.yaml uri with
  | error e => exact .undecoded h hr hv
  | ok v =>
    dsimp only
    unfold remember
    have hput : (modify fun l => { l with cache := put uri ⟨v, r.contentType⟩ l.cache } : Loading PUnit).run.run l =
      (.ok ⟨⟩, { l with cache := put uri ⟨v, r.contentType⟩ l.cache }) := rfl
    rw [run_bind, run_bind, hput]
    dsimp only
    -- Only a name that is a text is looked at, and only one without a fault is cached under.
    cases hid : v.member? "$id" with
    | none => exact .kept h hr hv (by simp [hid])
    | some id =>
      cases id with
      | arr | obj | set => exact .kept h hr hv (by simp [hid])
      | scalar id =>
        cases id with
        | null | bool | num | bytes => exact .kept h hr hv (by simp [hid])
        | str name =>
          dsimp only
          rw [run_bind, run_dropFragment]
          cases hshort : Uri.dropFragment name with
          | error fault => exact .misnamed h hr hv hid hshort
          | ok short => exact .named h hr hv hid hshort

/-- To fetch a document is to take it from the cache, or to look for it and to keep it. -/
theorem run_fetch_eq (w : World) {short : String} (hshort : Uri.dropFragment uri = .ok short) (l : Loader) :
    (fetch w uri).run.run l =
      match l.cache.lookup short with
      | some d => (.ok d, l)
      | none => (resource w short >>= keep w short).run.run l := by
  have hget : (get : Loading Loader).run.run l = (.ok l, l) := rfl
  unfold fetch
  rw [run_bind, run_dropFragment, hshort]
  simp only [Except.mapError]
  rw [run_bind, hget]
  dsimp only
  cases l.cache.lookup short <;> rfl

/-- A document that is asked for comes from the cache, or from the world and into the cache. -/
theorem run_fetch {short : String} (hshort : Uri.dropFragment uri = .ok short) (l : Loader) :
    Fetched w short l.cache ((fetch w uri).run.run l).1 ((fetch w uri).run.run l).2.cache := by
  rw [run_fetch_eq w hshort]
  cases hlookup : l.cache.lookup short with
  | some d => exact .cached hlookup
  | none =>
    dsimp only
    -- To ask the world leaves the cache alone, so the lookup that missed still counts when the answer is kept.
    have hcache : ((resource w short).run.run l).2.cache = l.cache := (keeps_resource (J := (· = l.cache)) l rfl).1
    rw [run_bind]
    generalize hrun : (resource w short).run.run l = result at hcache
    obtain ⟨result, l'⟩ := result
    have hcache : l'.cache = l.cache := hcache
    cases result with
    | error e =>
      dsimp only
      rw [hcache]
      exact .missed hlookup ⟨l, by rw [hrun]⟩
    | ok r =>
      dsimp only
      rw [← hcache] at hlookup
      have hfetched := fetched_of_keep hlookup ⟨l, by rw [hrun]⟩
      rwa [hcache] at hfetched

end Loader

namespace Compiling

variable {stock : Stock} {means : Place → Node → Prop} {α : Type} {Q : α → Prop}

theorem run_ofLoading (x : Loading α) (s : Session) :
    (ofLoading x).run.run s = ((x.run.run s.loader).1, { s with loader := (x.run.run s.loader).2 }) := by
  have hget : (get : Compiling Session).run.run s = (.ok s, s) := rfl
  unfold ofLoading
  rw [run_bind, hget]
  dsimp only
  generalize x.run.run s.loader = r
  obtain ⟨result, loader⟩ := r
  cases result <;> rfl

/-- What the loader does is what becomes of the session. -/
theorem runs_ofLoading {C : Course Failure Session} {P : Session → Prop} {Q : α → Session → Prop} {x : Loading α}
    (hx : ∀ s, C.inv s → C.Always s P →
      C.Ends s Q ((x.run.run s.loader).1, { s with loader := (x.run.run s.loader).2 })) :
    Runs C P (ofLoading x) Q := by
  intro s hs hP
  rw [run_ofLoading]
  exact hx s hs hP

/-- What the loader does to its cache is what becomes of the documents of a session. -/
theorem keeps_ofLoading {x : Loading α} (hx : ∀ homes, Keeps (fun l => stock l.cache homes) x Q) :
    Keeps (Session.Sound stock means) (ofLoading x) Q := by
  intro s hs
  obtain ⟨hstock, hQ⟩ := hx s.homes s.loader hs.stock
  rw [run_ofLoading]
  exact ⟨⟨hstock, hs.nodes⟩, hQ⟩

/-- A failure to get the document under a URI, as it is told. -/
def unresolved (uri : String) (e : Failure) : Failure :=
  match e with
  | .schema .. => e
  | e => if e.origin = .calculation then e else .schema (.unresolved uri e) (some uri) none

theorem run_resolve (w : World) (uri : String) (s : Session) : (resolve w uri).run.run s =
    ((((Loader.fetch w uri).run.run s.loader).1.map (·.value)).mapError (unresolved uri),
      { s with loader := ((Loader.fetch w uri).run.run s.loader).2 }) := by
  unfold resolve
  rw [run_tryCatch, run_bind, run_ofLoading]
  cases hresult : ((Loader.fetch w uri).run.run s.loader).1 with
  | ok d => rfl
  | error e =>
    dsimp only
    split
    · rfl
    · rename_i hschema
      have htold : unresolved uri e = if e.origin = .calculation then e else .schema (.unresolved uri e) (some uri) none := by
        unfold unresolved
        split
        · exact (hschema _ _ _ rfl).elim
        · rfl
      simp only [Except.map, Except.mapError, htold]
      cases horigin : e.origin <;> simp only [reduceCtorEq, ↓reduceIte] <;> rfl

theorem keeps_resolve {w : World} {uri : String} {P : Value → Prop}
    (hfetch : ∀ homes, Keeps (fun l => stock l.cache homes) (Loader.fetch w uri) fun d => P d.value) :
    Keeps (Session.Sound stock means) (resolve w uri) P := by
  unfold resolve
  refine Keeps.tryCatch ((keeps_ofLoading hfetch).bind fun d hd => .pure hd) fun e => ?_
  split
  · exact .throw _
  · split
    · exact .throw _
    · exact .throw _

end Compiling

end Conform
