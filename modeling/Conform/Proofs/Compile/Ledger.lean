import Conform.Proofs.Compile.Library
import Mathlib.Data.List.Nodup

/-!
# What a session has done

A `Ledger` lists the documents that a session has fetched and the locations that it has compiled, each with its node.  As
long as schemas under URIs are compiled without a failure the ledger is only added to, and it accounts for all of the
session: the cache of the loader, the entries of the registry, and what the self-checks have found (`Ledger.Of`).
-/

namespace Conform

/-! ### Entries of the registry -/

/-- The node of an entry of the registry, if its location has been compiled. -/
def Progress.node? : Place × Progress → Option (Place × Node)
  | (_, .compiling) => none
  | (p, .done n) => some (p, n)

namespace Registry

/-- The nodes of the locations that have been compiled, last first. -/
def nodes (r : Registry) : List (Place × Node) := r.entries.filterMap Progress.node?

/-- There is one entry to a location. -/
def IsSingle (r : Registry) : Prop := (r.entries.map (·.1)).Nodup

variable {r : Registry} {p : Place} {n : Node} {entries : List (Place × Progress)}

private theorem without_cons (p : Place) (e : Place × Progress) (entries : List (Place × Progress)) :
    without p (e :: entries) = if e.1 = p then without p entries else e :: without p entries := by
  by_cases h : e.1 = p <;> simp [without, h]

private theorem without_of_not_mem (h : p ∉ entries.map (·.1)) : without p entries = entries := by
  induction entries with
  | nil => rfl
  | cons e entries ih =>
    rw [List.map_cons, List.mem_cons, not_or] at h
    rw [without_cons, if_neg (Ne.symm h.1), ih h.2]

private theorem not_mem_of_lookup_eq_none (h : entries.lookup p = none) : p ∉ entries.map (·.1) := by
  intro hmem
  obtain ⟨e, he, rfl⟩ := List.mem_map.1 hmem
  have hne := List.lookup_eq_none_iff.1 h e he
  simp at hne

private theorem map_without (p : Place) (entries : List (Place × Progress)) :
    (without p entries).map (·.1) = (entries.map (·.1)).filter (· != p) := by
  rw [without, List.filter_map]
  rfl

theorem isSingle_set (h : r.IsSingle) (state : Progress) : (r.set p state).IsSingle := by
  show (p :: (without p r.entries).map (·.1)).Nodup
  rw [map_without, List.nodup_cons]
  exact ⟨by simp, List.Pairwise.filter _ h⟩

theorem isSingle_discard (h : r.IsSingle) : (r.discard p).IsSingle := by
  show ((without p r.entries).map (·.1)).Nodup
  rw [map_without]
  exact List.Pairwise.filter _ h

theorem nodes_mark (h : r.find? p = none) : (r.mark p).nodes = r.nodes := by
  show List.filterMap Progress.node? ((p, .compiling) :: without p r.entries) = r.nodes
  rw [without_of_not_mem (not_mem_of_lookup_eq_none h)]
  rfl

private theorem filterMap_without (hsingle : (entries.map (·.1)).Nodup) (h : entries.lookup p = some .compiling) :
    (without p entries).filterMap Progress.node? = entries.filterMap Progress.node? := by
  induction entries with
  | nil => rfl
  | cons e entries ih =>
    obtain ⟨q, state⟩ := e
    rw [List.map_cons, List.nodup_cons] at hsingle
    rw [List.lookup_cons] at h
    rw [without_cons]
    by_cases hq : q = p
    · -- This is the mark, and no other entry is one of the location.
      subst hq
      obtain rfl : state = .compiling := by simpa using h
      rw [if_pos rfl, without_of_not_mem hsingle.1]
      rfl
    · have hrest := ih hsingle.2 (by simpa [beq_eq_false_iff_ne.2 (Ne.symm hq)] using h)
      rw [if_neg hq, List.filterMap_cons, List.filterMap_cons, hrest]

/-- Where the mark of a location was there is its node now, and nothing else has changed. -/
theorem nodes_store (hsingle : r.IsSingle) (h : r.find? p = some .compiling) : (r.store p n).nodes = (p, n) :: r.nodes := by
  show (p, n) :: (without p r.entries).filterMap Progress.node? = (p, n) :: r.nodes
  rw [filterMap_without hsingle h]
  rfl

/-- To take the mark of a location away changes none of the nodes. -/
theorem nodes_discard (hsingle : r.IsSingle) (h : r.find? p = some .compiling) : (r.discard p).nodes = r.nodes :=
  filterMap_without hsingle h

/-- Where nothing is being compiled, the entries are those of the nodes. -/
theorem entries_eq (h : ∀ e ∈ r.entries, e.2 ≠ .compiling) : r.entries = r.nodes.map fun e => (e.1, .done e.2) := by
  unfold nodes
  generalize r.entries = entries at h
  induction entries with
  | nil => rfl
  | cons e entries ih =>
    obtain ⟨q, state⟩ := e
    have hrest := ih fun e he => h e (by simp [he])
    cases state with
    | compiling => exact absurd rfl (h (q, .compiling) (by simp))
    | done n =>
      show _ = (q, Progress.done n) :: (entries.filterMap Progress.node?).map _
      rw [← hrest]

/-- There is one node to a location. -/
theorem nodup_nodes (hsingle : r.IsSingle) : (r.nodes.map (·.1)).Nodup := by
  refine List.Sublist.nodup ?_ hsingle
  unfold nodes
  induction r.entries with
  | nil => exact .slnil
  | cons e entries ih =>
    obtain ⟨q, state⟩ := e
    cases state with
    | compiling => exact ih.cons q
    | done n => exact ih.cons_cons q

theorem find?_of_mem {state : Progress} (hsingle : r.IsSingle) (h : (p, state) ∈ r.entries) : r.find? p = some state := by
  unfold IsSingle at hsingle
  unfold find?
  generalize r.entries = entries at hsingle h
  induction entries with
  | nil => cases h
  | cons e entries ih =>
    rw [List.map_cons, List.nodup_cons] at hsingle
    rcases List.mem_cons.1 h with rfl | h
    · simp
    · have hne : (p == e.1) = false := beq_eq_false_iff_ne.2 fun heq => hsingle.1 (heq ▸ List.mem_map_of_mem h)
      rw [List.lookup_cons, hne]
      exact ih hsingle.2 h

end Registry

/-! ### Samples -/

namespace Location

/-- The examples of a location that are checked, with their own locations. -/
def examples (setup : Setup) (l : Location) : List (Pointer × Value) :=
  match l.value with
  | .obj members =>
    if setup.options.checkExamples && !l.isReplaced members then
      (l.scope setup (fun _ => throw .endless) members).samples
    else []
  | _ => []

/-- The default of a location, if it is checked, with its own location. -/
def defaults (setup : Setup) (l : Location) : List (Pointer × Value) :=
  match l.value with
  | .obj members =>
    if setup.options.checkDefaults && !l.isReplaced members then
      ((lookupKey (.str "default") members).map fun v => (l.pointer.child "default", v)).toList
    else []
  | _ => []

end Location

/-- What is wrong with samples of a schema. -/
def Node.faultsIn (n : Node) (samples : List (Pointer × Value)) : List Entry :=
  samples.flatMap fun (location, sample) =>
    match n.findings sample n.site.path location with
    | .ok f => f.faults
    | .error _ => []

/-- The session after what is wrong with the samples of a location has been noted. -/
def Session.noting (s : Session) (setup : Setup) (l : Location) (n : Node) : Session :=
  { s with
    examples := s.examples ++ n.faultsIn (l.examples setup)
    defaults := s.defaults ++ n.faultsIn (l.defaults setup) }

namespace Scope

private theorem run_sampleFindings {n : Node} {sample : Value} {location : Pointer} {s t : Session} {entries : List Entry}
    (h : (sampleFindings n sample location).run.run s = (.ok entries, t)) :
    t = s ∧ entries = n.faultsIn [(location, sample)] := by
  unfold sampleFindings Compiling.ofExcept at h
  unfold Node.faultsIn
  cases hfindings : n.findings sample n.site.path location with
  | error fault =>
    rw [hfindings] at h
    cases h
  | ok f =>
    rw [hfindings] at h
    cases h
    simp [hfindings]

private theorem run_examples {n : Node} {samples : List (Pointer × Value)} {s t : Session} {u : PUnit}
    (h : (forIn samples PUnit.unit fun sample _ => do
      let entries ← sampleFindings n sample.2 sample.1
      modify fun session => { session with examples := session.examples ++ entries }
      pure (ForInStep.yield PUnit.unit) : Compiling PUnit).run.run s = (.ok u, t)) :
    t = { s with examples := s.examples ++ n.faultsIn samples } := by
  induction samples generalizing s with
  | nil =>
    cases h
    simp [Node.faultsIn]
  | cons sample samples ih =>
    rw [List.forIn_cons, run_bind, run_bind] at h
    generalize hfindings : (sampleFindings n sample.2 sample.1).run.run s = result at h
    obtain ⟨result, s'⟩ := result
    cases result with
    | error e => cases h
    | ok entries =>
      obtain ⟨rfl, rfl⟩ := run_sampleFindings hfindings
      have hrest := ih h
      rw [hrest]
      simp [Node.faultsIn]

private theorem run_defaultCheck (setup : Setup) {l : Location} {members : List (Scalar × Value)} {n : Node} {s t : Session}
    {u : Unit} (hvalue : l.value = .obj members) (hreplaced : l.isReplaced members = false)
    (h : (do
      if setup.options.checkDefaults then
        match lookupKey (.str "default") members with
        | some sample =>
          let entries ← sampleFindings n sample (l.pointer.child "default")
          modify fun session => { session with defaults := session.defaults ++ entries }
        | none => return : Compiling Unit).run.run s = (.ok u, t)) :
    t = { s with defaults := s.defaults ++ n.faultsIn (l.defaults setup) } := by
  have hdefaults : l.defaults setup = if setup.options.checkDefaults then
      ((lookupKey (.str "default") members).map fun v => (l.pointer.child "default", v)).toList else [] := by
    simp only [Location.defaults, hvalue, hreplaced, Bool.not_false, Bool.and_true]
  rw [hdefaults]
  split at h
  · rename_i hon
    rw [if_pos hon]
    split at h
    · rename_i sample hsample
      rw [run_bind] at h
      generalize hfindings : (sampleFindings n sample (l.pointer.child "default")).run.run s = result at h
      obtain ⟨result, s'⟩ := result
      cases result with
      | error e => cases h
      | ok entries =>
        obtain ⟨rfl, rfl⟩ := run_sampleFindings hfindings
        cases h
        rw [hsample]
        rfl
    · rename_i hnone
      cases h
      rw [hnone]
      simp [Node.faultsIn]
  · rename_i hoff
    cases h
    rw [if_neg hoff]
    simp [Node.faultsIn]

/-- The self-checks note what is wrong with the samples, and nothing else. -/
theorem run_selfCheck {setup : Setup} {l : Location} {descend : Location → Compiling Node}
    {members : List (Scalar × Value)} {n : Node} {s t : Session} {u : Unit} (hvalue : l.value = .obj members)
    (hreplaced : l.isReplaced members = false)
    (h : ((l.scope setup descend members).selfCheck n).run.run s = (.ok u, t)) : t = s.noting setup l n := by
  have hexamples : l.examples setup = if setup.options.checkExamples then (l.scope setup descend members).samples else [] := by
    simp only [Location.examples, hvalue, hreplaced, Bool.not_false, Bool.and_true]
    rfl
  unfold selfCheck at h
  cases hon : setup.options.checkExamples with
  | true =>
    have hon' : (l.scope setup descend members).setup.options.checkExamples = true := hon
    rw [hon', if_pos rfl, run_bind] at h
    generalize hloop : (forIn (l.scope setup descend members).samples PUnit.unit _ : Compiling PUnit).run.run s = result at h
    obtain ⟨result, s'⟩ := result
    cases result with
    | error e => cases h
    | ok _ =>
      obtain rfl := run_examples hloop
      rw [run_defaultCheck setup hvalue hreplaced h, Session.noting, hexamples, if_pos hon]
  | false =>
    have hon' : (l.scope setup descend members).setup.options.checkExamples = false := hon
    rw [hon'] at h
    rw [run_defaultCheck setup hvalue hreplaced h, Session.noting, hexamples, hon]
    simp [Node.faultsIn]

end Scope

/-! ### Ledgers -/

/-- The URI that the name of a document comes to, as the loader takes it. -/
def Value.alias? (v : Value) : Option String :=
  match v.member? "$id" with
  | some (.str name) => (Uri.dropFragment name).toOption
  | _ => none

/-- The document at hand is in the cache of the loader, under what its locations are filed under. -/
def Session.Caches (s : Session) (d : Document) : Prop :=
  ∃ loaded, s.loader.cache.lookup d.key = some loaded ∧ loaded.value = d.content

/-- The documents that a session has fetched, first to last, each under the URI that it was fetched from; and the locations
that it has compiled, last to first, each with its node. -/
structure Ledger where
  fetched : List (String × Loaded)
  compiled : List (Location × Node)

namespace Ledger

/-- A fetched document goes by the URI that it was fetched from, and by the name that it gives itself. -/
def goesBy (uri : String) (e : String × Loaded) : Bool := e.1 == uri || e.2.value.alias? == some uri

/-- The document that a URI stands for: the first that goes by it. -/
def document? (r : Ledger) (uri : String) : Option (String × Loaded) := r.fetched.find? (goesBy uri)

/-- The later ledger has been added to only. -/
def Extends (r r' : Ledger) : Prop := r.fetched <+: r'.fetched ∧ r.compiled <:+ r'.compiled

/-- The ledger accounts for a session in which the locations on the way are being compiled. -/
structure Of (r : Ledger) (setup : Setup) (way : List Place) (s : Session) : Prop where
  /-- Every document has been fetched once. -/
  once : (r.fetched.map (·.1)).Nodup
  /-- Every document is what the world gives under its URI. -/
  given : ∀ e ∈ r.fetched, setup.world.Gives e.1 e.2.value
  cache : ∀ uri, s.loader.cache.lookup uri = (r.document? uri).map (·.2)
  homes : ∀ {uri home}, s.homes.lookup uri = some home → s.Caches home.document
  single : s.registry.IsSingle
  nodes : s.registry.nodes = r.compiled.map fun b => (b.1.place, b.2)
  compiling : ∀ p, s.registry.find? p = some .compiling ↔ p ∈ way
  /-- Every location that has been compiled lies in a document that has been fetched. -/
  sits : ∀ b ∈ r.compiled, s.Caches b.1.document ∧ b.1.Sits
  /-- The examples of every location have been checked once, when the location was compiled. -/
  examples : s.examples = r.compiled.reverse.flatMap fun b => b.2.faultsIn (b.1.examples setup)
  /-- The default of every location has been checked once, when the location was compiled. -/
  defaults : s.defaults = r.compiled.reverse.flatMap fun b => b.2.faultsIn (b.1.defaults setup)

variable {r r' r'' : Ledger} {setup : Setup} {way : List Place} {s : Session}

theorem Extends.refl (r : Ledger) : r.Extends r := ⟨List.prefix_refl _, List.suffix_refl _⟩

theorem Extends.trans (h : r.Extends r') (h' : r'.Extends r'') : r.Extends r'' :=
  ⟨h.1.trans h'.1, h.2.trans h'.2⟩

theorem of_start (setup : Setup) : Of ⟨[], []⟩ setup [] {} where
  once := List.nodup_nil
  given e he := by cases he
  cache uri := rfl
  homes h := by cases h
  single := List.nodup_nil
  nodes := rfl
  compiling p := by
    constructor
    · intro h
      cases h
    · intro h
      cases h
  sits b hb := by cases hb
  examples := rfl
  defaults := rfl

/-- What is in the cache stays there. -/
def Keeps (s t : Session) : Prop := ∀ uri d, s.loader.cache.lookup uri = some d → t.loader.cache.lookup uri = some d

theorem Keeps.caches {t : Session} {d : Document} (h : Keeps s t) (hd : s.Caches d) : t.Caches d := by
  obtain ⟨loaded, hloaded, hvalue⟩ := hd
  exact ⟨loaded, h _ _ hloaded, hvalue⟩

/-- What leaves the cache alone changes nothing. -/
theorem Of.quiet {loader : Loader} (h : r.Of setup way s) (hcache : loader.cache = s.loader.cache) :
    r.Of setup way { s with loader } ∧ Keeps s { s with loader } := by
  have hkeeps : Keeps s { s with loader } := by
    intro u d hd
    show loader.cache.lookup u = some d
    rw [hcache]
    exact hd
  refine ⟨⟨h.once, h.given, fun u => ?_, fun hhome => hkeeps.caches (h.homes hhome), h.single, h.nodes, h.compiling,
    fun b hb => ⟨hkeeps.caches (h.sits b hb).1, (h.sits b hb).2⟩, h.examples, h.defaults⟩, hkeeps⟩
  show loader.cache.lookup u = _
  rw [hcache, h.cache]

/-- A document that goes by a URI is the one that the URI stands for, unless an earlier one goes by it. -/
private theorem document?_concat (r : Ledger) (e : String × Loaded) (compiled : List (Location × Node)) (uri : String) :
    (Ledger.mk (r.fetched ++ [e]) compiled).document? uri =
      (r.document? uri).or (if goesBy uri e then some e else none) := by
  unfold document?
  rw [List.find?_append]
  by_cases h : goesBy uri e = true <;> simp [h]

/-- A document that is new is added to the ledger, and goes by the URIs that nothing has gone by before. -/
private theorem Of.add {uri : String} {d : Loaded} (h : r.Of setup way s) (loader : Loader)
    (hunknown : s.loader.cache.lookup uri = none) (hgiven : setup.world.Gives uri d.value)
    (hcache : ∀ u, loader.cache.lookup u = (s.loader.cache.lookup u).or (if goesBy u (uri, d) then some d else none)) :
    Of ⟨r.fetched ++ [(uri, d)], r.compiled⟩ setup way { s with loader } ∧ Keeps s { s with loader } ∧
      loader.cache.lookup uri = some d := by
  have hkeeps : Keeps s { s with loader } := by
    intro u e he
    show loader.cache.lookup u = some e
    rw [hcache, he]
    rfl
  refine ⟨⟨?_, ?_, fun u => ?_, fun hhome => ?_, h.single, h.nodes, h.compiling, fun b hb => ?_, h.examples, h.defaults⟩,
    hkeeps, ?_⟩
  · rw [List.map_append, List.nodup_append]
    refine ⟨h.once, by simp, fun u hu v hv => ?_⟩
    obtain ⟨e, he, rfl⟩ := List.mem_map.1 hu
    obtain rfl : v = uri := by simpa using hv
    -- What has been fetched under the URI would be in the cache.
    rintro rfl
    have hsome : (r.document? e.1).isSome := List.find?_isSome.2 ⟨e, he, by simp [goesBy]⟩
    rw [h.cache, Option.map_eq_none_iff] at hunknown
    rw [hunknown] at hsome
    cases hsome
  · intro e he
    rcases List.mem_append.1 he with he | he
    · exact h.given e he
    · obtain rfl : e = (uri, d) := by simpa using he
      exact hgiven
  · show loader.cache.lookup u = _
    rw [hcache, h.cache, document?_concat]
    cases r.document? u with
    | some e => rfl
    | none => by_cases hgoes : goesBy u (uri, d) = true <;> simp [hgoes]
  · exact hkeeps.caches (h.homes hhome)
  · exact ⟨hkeeps.caches (h.sits b hb).1, (h.sits b hb).2⟩
  · rw [hcache, hunknown, if_pos (by simp [goesBy])]
    rfl

/-- A document that is asked for is in the ledger, or it is new. -/
theorem Of.fetch {uri : String} {d : Loaded} {loader : Loader} (h : r.Of setup way s)
    (hfetched : Loader.Fetched setup.world uri s.loader.cache (.ok d) loader.cache) :
    (∃ r', r.Extends r' ∧ r'.Of setup way { s with loader }) ∧ Keeps s { s with loader } ∧
      loader.cache.lookup uri = some d := by
  have hextends : r.Extends ⟨r.fetched ++ [(uri, d)], r.compiled⟩ := ⟨List.prefix_append _ _, List.suffix_refl _⟩
  generalize hcache : loader.cache = cache at hfetched
  -- A document that is cached is in the ledger; one that is served goes to its end, with the name it is cached under.
  cases hfetched with
  | cached hlookup =>
    obtain ⟨hof, hkeeps⟩ := h.quiet hcache
    exact ⟨⟨r, .refl r, hof⟩, hkeeps, hcache ▸ hlookup⟩
  | @kept response v hlookup hr hv hname =>
    have halias : v.alias? = none := by
      unfold Value.alias?
      split
      · exact absurd ‹_› (hname _)
      · rfl
    obtain ⟨hof, hkeeps, hfound⟩ := h.add (d := ⟨v, response.contentType⟩) loader hlookup ⟨response, hr, hv⟩ fun u => by
      rw [hcache, Library.lookup_put]
      by_cases hu : u = uri
      · subst hu
        simp [hlookup, goesBy]
      · simp [hu, Ne.symm hu, goesBy, halias]
    exact ⟨⟨_, hextends, hof⟩, hkeeps, hcache ▸ hfound⟩
  | @named response v name short hlookup hr hv hname hshort =>
    have halias : v.alias? = some short := by
      unfold Value.alias?
      rw [hname]
      dsimp only
      rw [hshort]
      rfl
    obtain ⟨hof, hkeeps, hfound⟩ := h.add (d := ⟨v, response.contentType⟩) loader hlookup ⟨response, hr, hv⟩ fun u => by
      rw [hcache, Library.lookup_putNew, Library.lookup_put]
      by_cases hu : u = uri
      · subst hu
        simp [hlookup, goesBy]
      · by_cases hs : u = short
        · subst hs
          simp [hu, goesBy, halias]
        · simp [hu, hs, Ne.symm hu, Ne.symm hs, goesBy, halias]
    exact ⟨⟨_, hextends, hof⟩, hkeeps, hcache ▸ hfound⟩

/-- Documents that have been fetched can be registered. -/
theorem Of.register {d : Document} {homes : List (String × Home)} (h : r.Of setup way s) (hd : s.Caches d)
    (hnew : ∀ uri home, homes.lookup uri = some home → s.homes.lookup uri = some home ∨ home.document = d) :
    r.Of setup way { s with homes } where
  once := h.once
  given := h.given
  cache := h.cache
  homes {uri home} hhome := by
    rcases hnew uri home hhome with hold | rfl
    · exact h.homes hold
    · exact hd
  single := h.single
  nodes := h.nodes
  compiling := h.compiling
  sits := h.sits
  examples := h.examples
  defaults := h.defaults

theorem Of.mark {p : Place} (h : r.Of setup way s) (hp : s.registry.find? p = none) :
    r.Of setup (p :: way) { s with registry := s.registry.mark p } where
  once := h.once
  given := h.given
  cache := h.cache
  homes := h.homes
  single := Registry.isSingle_set h.single .compiling
  nodes := (Registry.nodes_mark hp).trans h.nodes
  compiling q := by
    show (s.registry.set p .compiling).find? q = some .compiling ↔ q ∈ p :: way
    rw [Registry.find?_set, List.mem_cons]
    by_cases hq : q = p
    · simp [hq]
    · simp [hq, h.compiling q]
  sits := h.sits
  examples := h.examples
  defaults := h.defaults

/-- A location whose samples have been checked is compiled. -/
theorem Of.store {l : Location} {n : Node} (h : r.Of setup (l.place :: way) s) (hl : s.Caches l.document ∧ l.Sits)
    (hway : l.place ∉ way) :
    Of ⟨r.fetched, (l, n) :: r.compiled⟩ setup way
      { s.noting setup l n with registry := s.registry.store l.place n } where
  once := h.once
  given := h.given
  cache := h.cache
  homes := h.homes
  single := Registry.isSingle_set h.single _
  nodes := by
    show (s.registry.store l.place n).nodes = _
    rw [Registry.nodes_store h.single ((h.compiling _).2 List.mem_cons_self), h.nodes, List.map_cons]
  compiling q := by
    show (s.registry.set l.place (.done n)).find? q = some .compiling ↔ q ∈ way
    rw [Registry.find?_set]
    by_cases hq : q = l.place
    · subst hq
      simp [hway]
    · simp [hq, h.compiling q]
  sits := by
    intro b hb
    rcases List.mem_cons.1 hb with rfl | hb
    · exact hl
    · exact h.sits b hb
  examples := by
    show s.examples ++ _ = _
    rw [h.examples, List.reverse_cons, List.flatMap_append, List.flatMap_singleton]
  defaults := by
    show s.defaults ++ _ = _
    rw [h.defaults, List.reverse_cons, List.flatMap_append, List.flatMap_singleton]

/-! ### Compiling -/

/-- The course of computations that add to a ledger, while the locations on the way are being compiled. -/
def course (setup : Setup) (r : Ledger) (way : List Place) : Course Failure Session where
  inv s := ∃ r', r.Extends r' ∧ r'.Of setup way s
  later := Keeps
  fails _ _ := True
  refl _ _ _ h := h
  trans h h' uri d hd := h' uri d (h uri d hd)

/-- The location lies in a document that has been fetched. -/
def Held (l : Location) (s : Session) : Prop := s.Caches l.document ∧ l.Sits

variable {l : Location} {members : List (Scalar × Value)} {descend : Location → Compiling Node}

private theorem refuses {P : Session → Prop} {kind : Failure → Session → Prop} {can : Session → Prop} :
    (course setup r way).Refuses P kind can := fun _ _ _ _ _ _ => trivial

private theorem inv_quiet (s : Session) (loader : Loader) (hs : (course setup r way).inv s)
    (hcache : loader.cache = s.loader.cache) :
    (course setup r way).inv { s with loader } ∧ (course setup r way).later s { s with loader } := by
  obtain ⟨r', hr', hof⟩ := hs
  obtain ⟨hof', hkeeps⟩ := hof.quiet hcache
  exact ⟨⟨r', hr', hof'⟩, hkeeps⟩

theorem runs_home {uri : String} (huri : '#' ∉ uri.toList) :
    Runs (course setup r way) (Held l) ((l.scope setup descend members).home uri) fun home s =>
      s.Caches home.document := by
  refine Scope.runs_home huri (fun _ s hs => hs.1) (fun _ s home hs _ hhome t ht => ?_)
    (fun _ s loaded t hs _ hload => ?_) fun _ _ _ _ _ _ _ => trivial
  · obtain ⟨r', -, hr'⟩ := hs
    exact ht.caches (hr'.homes hhome)
  · obtain ⟨-, hfetched, ⟨-, hnew, -⟩, loader, homes, rfl⟩ := hload
    obtain ⟨r', hr', hof⟩ := hs
    obtain ⟨⟨r'', hr'', hof⟩, hkeeps, hlookup⟩ := hof.fetch hfetched
    have hcaches : Session.Caches { s with loader } ⟨uri, some uri, loaded.value⟩ := ⟨loaded, hlookup, rfl⟩
    refine ⟨⟨r'', hr'.trans hr'', ?_⟩, hkeeps, fun u hu => hu.caches hcaches⟩
    exact hof.register hcaches fun u home h => (hnew h).imp_right fun hclaims => hclaims.document_eq

theorem runs_target {ref : String} {path : Pointer} :
    Runs (course setup r way) (Held l) ((l.scope setup descend members).target ref path) fun t s => Held t.1 s := by
  refine (Scope.runs_target (fun s _ home => s.Caches home.document) (fun full uri fragment _ hsplit => ?_)
    refuses).weaken (fun _ h => h) fun t s _ ht => ?_
  · exact runs_home (Uri.not_mem_of_splitFragment hsplit)
  · have hlies := ht.lies
    obtain ⟨full, uri, home, -, -, hhome, -, -, hdocument, -⟩ := ht
    exact ⟨hdocument ▸ hhome, hlies.sits⟩

/-- From the session the node has been built for the location, and what is wrong with the samples has been noted last. -/
def Notes (setup : Setup) (r : Ledger) (way : List Place) (l : Location) (s : Session) : Except Failure Node × Session → Prop
  | (.ok n, t) => ∃ u, (course setup r way).inv u ∧ Keeps s u ∧ Held l u ∧ t = u.noting setup l n
  | (.error _, _) => True

section Build

variable {P : Session → Prop} {α : Type} {Q : α → Session → Prop} {x : Compiling α} {f : α → Compiling Node}

private theorem notes_bind (hx : Runs (course setup r way) P x Q)
    (hf : ∀ a s, (course setup r way).inv s → (course setup r way).Always s (fun s => P s ∧ Q a s) →
      Notes setup r way l s ((f a).run.run s))
    (hs : (course setup r way).inv s) (hP : (course setup r way).Always s P) :
    Notes setup r way l s ((x >>= f).run.run s) := by
  have h := hx s hs hP
  rw [run_bind]
  generalize x.run.run s = result at h
  obtain ⟨result, t⟩ := result
  cases result with
  | error e => exact trivial
  | ok a =>
    obtain ⟨ht, hst, hQ⟩ := h
    have hrest := hf a t ht fun u hu => ⟨hP.on hst u hu, hQ u hu⟩
    dsimp only
    generalize (f a).run.run t = result at hrest
    obtain ⟨result, t'⟩ := result
    cases result with
    | error e => exact trivial
    | ok n =>
      obtain ⟨u, hu, htu, hheld, rfl⟩ := hrest
      exact ⟨u, hu, (course setup r way).trans hst htu, hheld, rfl⟩

private theorem notes_ite {c : Prop} [Decidable c] {x y : Compiling Node} (hx : c → Notes setup r way l s (x.run.run s))
    (hy : ¬c → Notes setup r way l s (y.run.run s)) : Notes setup r way l s ((if c then x else y).run.run s) := by
  split
  · exact hx ‹_›
  · exact hy ‹_›

/-- Where a location has no samples there is nothing to note. -/
private theorem notes_pure {n : Node} (hexamples : l.examples setup = []) (hdefaults : l.defaults setup = [])
    (hs : (course setup r way).inv s) (hl : Held l s) : Notes setup r way l s ((pure n : Compiling Node).run.run s) := by
  refine ⟨s, hs, fun _ _ h => h, hl, ?_⟩
  simp [Session.noting, hexamples, hdefaults, Node.faultsIn]

variable (hd : ∀ t, Runs (course setup r way) (Held t) (descend t) fun _ _ => True)
include hd

private theorem runs_reference {value : Value} (hmem : (.str "$ref", value) ∈ members) : Runs (course setup r way) (Held l)
    ((l.scope setup descend members).reference value) fun n _ => ReferenceOf anything anywhere l value n := by
  refine Scope.runs_reference (fun _ => anything) (fun _ => anywhere) (fun s t => Held t s) hmem refuses (fun ref _ => ?_)
    fun ref t fragment _ => ?_
  · exact runs_target.weaken (fun _ h => h) fun _ _ _ h => ⟨trivial, h⟩
  · exact (hd t).weaken (fun _ h => h.2.2) fun _ _ _ _ => trivial

/-- Whatever a schema object is built to, its samples are noted last. -/
private theorem notes_group (base : Option String) (hvalue : l.value = .obj members)
    (hreplaced : l.isReplaced members = false) (hs : (course setup r way).inv s)
    (hl : (course setup r way).Always s (Held l)) :
    Notes setup r way l s ((({ l with base } : Location).scope setup descend members).group.run.run s) := by
  have hunchecked : Runs (course setup r way) (Held l)
      (({ l with base } : Location).scope setup descend members).unchecked fun _ _ => True := by
    refine (Scope.runs_unchecked (fun _ => anything) (fun _ => anywhere) inv_quiet refuses (fun part hpart => ?_)
      fun value hmem => ?_).weaken (fun _ h => h) fun _ _ _ _ => trivial
    · refine (hd part).weaken (fun s hl => ?_) fun _ _ _ _ => trivial
      have hsits : ({ l with base } : Location).Sits := hl.2
      exact ⟨(Location.of_mem_subschemas hpart).1 ▸ hl.1, hsits.part hvalue hpart⟩
    · exact runs_reference (l := { l with base }) hd hmem
  rw [Scope.group_eq]
  refine notes_bind hunchecked (fun n s hs hP => ?_) hs hl
  rw [run_bind]
  generalize hcheck : (Scope.selfCheck _ n).run.run s = result
  obtain ⟨result, t⟩ := result
  cases result with
  | error e => exact trivial
  | ok u => exact ⟨s, hs, fun _ _ h => h, hP.self.1, Scope.run_selfCheck (l := { l with base }) hvalue hreplaced hcheck⟩

private theorem notes_object (hvalue : l.value = .obj members) (hs : (course setup r way).inv s)
    (hl : (course setup r way).Always s (Held l)) :
    Notes setup r way l s ((l.scope setup descend members).object.run.run s) := by
  have hmain : Notes setup r way l s ((Scope.objectAt setup descend l members).run.run s) := by
    unfold Scope.objectAt
    split
    · rename_i ref hdialect href
      have hreplaced : l.isReplaced members = true := by simp [Location.isReplaced, hasKey, hdialect, href]
      refine notes_bind (runs_reference hd (mem_of_lookupKey href)) (fun n s hs hP => ?_) hs hl
      exact notes_pure (by simp [Location.examples, hvalue, hreplaced]) (by simp [Location.defaults, hvalue, hreplaced])
        hs hP.self.1
    · rename_i hne
      have hreplaced : l.isReplaced members = false := Location.isReplaced_eq_false hne
      refine notes_bind (Scope.runs_enter (fun s name uri hs hP _ _ _ => ?_) refuses) (fun inner s hs hP => ?_) hs hl
      · obtain ⟨r', hr', hof⟩ := hs
        refine ⟨⟨r', hr', hof.register hP.self.1 fun u home h => ?_⟩, fun _ _ hu => hu⟩
        exact (eq_of_lookup_addHome h).imp_right fun h => by rw [h.2]
      · obtain ⟨-, base, -, rfl⟩ := hP.self
        exact notes_group hd base hvalue hreplaced hs fun t ht => (hP t ht).1
  unfold Scope.object
  exact notes_ite (fun _ => trivial) fun _ => hmain

private theorem notes_build (hs : (course setup r way).inv s) (hl : (course setup r way).Always s (Held l)) :
    Notes setup r way l s ((build setup descend l).run.run s) := by
  unfold build
  split
  · rename_i hvalue
    exact notes_pure (by simp [Location.examples, hvalue]) (by simp [Location.defaults, hvalue]) hs hl.self
  · rename_i members hvalue
    exact notes_object hd hvalue hs hl
  · exact trivial

end Build

/-- Whatever is compiled, the ledger is added to. -/
theorem runs_compile (fuel : Nat) (way : List Place) (l : Location) :
    Runs (course setup r way) (Held l) (compile setup fuel l) fun _ _ => True := by
  induction fuel generalizing way l with
  | zero => exact .throw fun _ _ _ => trivial
  | succ fuel ih =>
    intro s hs hl
    obtain ⟨r', hr', hof⟩ := hs
    show (course setup r way).Ends s _ ((Compiling.getOrCreate l.place (build setup (compile setup fuel) l)).run.run s)
    rw [Compiling.run_getOrCreate_place]
    cases hfind : s.registry.find? l.place with
    | some state =>
      cases state with
      | compiling => exact trivial
      | done n => exact ⟨⟨r', hr', hof⟩, fun _ _ h => h, fun _ _ => trivial⟩
    | none =>
      dsimp only
      have hway : l.place ∉ way := fun h => by
        rw [(hof.compiling l.place).2 h] at hfind
        cases hfind
      have hnotes := notes_build (ih (l.place :: way)) (l := l) ⟨r', hr', hof.mark hfind⟩ hl
      generalize (build setup (compile setup fuel) l).run.run { s with registry := s.registry.mark l.place } = result at hnotes
      obtain ⟨result, t⟩ := result
      cases result with
      | error e => exact trivial
      | ok n =>
        obtain ⟨u, ⟨r'', hr'', hof''⟩, hkeeps, hheld, rfl⟩ := hnotes
        have hextends : r''.Extends ⟨r''.fetched, (l, n) :: r''.compiled⟩ := ⟨List.prefix_refl _, List.suffix_cons _ _⟩
        exact ⟨⟨_, hr''.trans hextends, hof''.store hheld hway⟩, hkeeps, fun _ _ => trivial⟩

/-- A schema that is compiled under a URI adds to the ledger. -/
theorem runs_compileUri (uri : String) :
    Runs (course setup r []) (fun _ => True) (Schema.compileUri setup uri) fun _ _ => True := by
  unfold Schema.compileUri
  split
  rename_i key fragment hsplit
  refine Runs.bind (Q := fun content s => s.Caches (.under key content)) (fun s hs _ => ?_) fun content => ?_
  · rw [Compiling.run_resolve]
    have hfetched := Loader.run_fetch (w := setup.world) (Uri.dropFragment_of_splitFragment hsplit) s.loader
    generalize (Loader.fetch setup.world key).run.run s.loader = result at hfetched
    obtain ⟨result, loader⟩ := result
    cases result with
    | error e => exact trivial
    | ok d =>
      obtain ⟨r', hr', hof⟩ := hs
      obtain ⟨⟨r'', hr'', hof⟩, hkeeps, hlookup⟩ := hof.fetch hfetched
      exact ⟨⟨r'', hr'.trans hr'', hof⟩, hkeeps, fun u hu => hu.caches ⟨d, hlookup, rfl⟩⟩
  refine (Compiling.runs_ofExcept (Q := fun _ _ => True) (fun _ _ _ _ => trivial) fun _ _ _ _ _ => trivial).bindStatic
    fun p _ => ?_
  unfold Schema.compileAt
  -- The registration changes what URIs name, but no document and no node.
  refine Runs.andThen (Q := fun _ _ => True) (fun s hs hP => ?_) ?_
  · generalize hregistered : (Compiling.registerDocument (.under key content)).run.run s = result
    obtain ⟨result, t⟩ := result
    cases result with
    | error e => exact trivial
    | ok _ =>
      obtain ⟨homes, hregisters, rfl⟩ := Compiling.registers_of_registerDocument hregistered
      obtain ⟨r', hr', hof⟩ := hs
      refine ⟨⟨r', hr', hof.register hP.self.2 fun u home h => ?_⟩, fun _ _ h => h, fun _ _ => trivial⟩
      exact (hregisters.new h).imp_right fun hclaims => hclaims.document_eq
  refine (Compiling.runs_ofExcept (Q := fun value _ => Scope.valueAt? content p = .ok value) (fun _ h _ _ => h)
    fun _ _ _ _ _ => trivial).bindStatic fun value hvalue => ?_
  split
  · exact .throw fun _ _ _ => trivial
  · rename_i value
    refine (Compiling.runs_ofExcept (Q := fun _ _ => True) (fun _ _ _ _ => trivial) fun _ _ _ _ _ => trivial).bindStatic
      fun dialect _ => ?_
    refine (Compiling.runs_ofExcept (Q := fun _ _ => True) (fun _ _ _ _ => trivial) fun _ _ _ _ _ => trivial).bindStatic
      fun base _ => ?_
    refine Runs.get.bind fun _ => ?_
    refine Runs.seq ((runs_compile _ [] ⟨.under key content, value, p, base, dialect⟩).strengthen fun s h => ?_) fun _ =>
      .pure fun _ _ _ => trivial
    exact ⟨h.1.2, Pointer.leads_of_eval (Scope.eval_of_valueAt? hvalue)⟩

/-- Every location lies in a document that has been fetched, and has been compiled once under each of the URIs that the
document has been asked for by: the one that it was fetched from, and the one that its name comes to. -/
def Once (r : Ledger) : Prop :=
  ∀ b ∈ r.compiled, ∃ e ∈ r.fetched, r.document? b.1.document.key = some e ∧ e.2.value = b.1.document.content ∧
    ∀ b' ∈ r.compiled, r.document? b'.1.document.key = some e → b'.1.pointer = b.1.pointer → b' = b ∨
      ∃ name, e.2.value.alias? = some name ∧ name ≠ e.1 ∧
        (b.1.document.key = e.1 ∧ b'.1.document.key = name ∨ b.1.document.key = name ∧ b'.1.document.key = e.1)

theorem Of.isOnce (h : r.Of setup way s) : r.Once := by
  intro b hb
  obtain ⟨loaded, hloaded, hvalue⟩ := (h.sits b hb).1
  rw [h.cache, Option.map_eq_some_iff] at hloaded
  obtain ⟨e, he, rfl⟩ := hloaded
  refine ⟨e, List.mem_of_find?_eq_some he, he, hvalue, fun b' hb' he' hpointer => ?_⟩
  by_cases hkey : b.1.document.key = b'.1.document.key
  · -- There is one entry to a place.
    refine .inl (List.inj_on_of_nodup_map (f := fun b : Location × Node => b.1.place) ?_ hb' hb ?_)
    · have hplaces := Registry.nodup_nodes h.single
      rw [h.nodes, List.map_map] at hplaces
      exact hplaces
    · exact congrArg₂ Place.mk hkey.symm (congrArg Pointer.codes hpointer)
  · have hgoes : goesBy b.1.document.key e = true := List.find?_some he
    have hgoes' : goesBy b'.1.document.key e = true := List.find?_some he'
    simp only [goesBy, Bool.or_eq_true, beq_iff_eq] at hgoes hgoes'
    -- Two locations of different documents share an entry only if one goes by its URI and the other by its name.
    rcases hgoes with hown | hname
    · rcases hgoes' with hown' | hname'
      · exact absurd (hown.symm.trans hown') hkey
      · exact .inr ⟨_, hname', fun heq => hkey (hown.symm.trans heq.symm), .inl ⟨hown.symm, rfl⟩⟩
    · rcases hgoes' with hown' | hname'
      · exact .inr ⟨_, hname, fun heq => hkey (heq.trans hown'), .inr ⟨rfl, hown'.symm⟩⟩
      · rw [hname] at hname'
        exact absurd (Option.some.inj hname') hkey

/-- Where nothing is being compiled, the registry holds the nodes of the ledger. -/
theorem Of.entries (h : r.Of setup [] s) : s.registry.entries = r.compiled.map fun b => (b.1.place, .done b.2) := by
  have hdone : ∀ e ∈ s.registry.entries, e.2 ≠ .compiling := by
    intro e he hcompiling
    have hmark : (e.1, .compiling) ∈ s.registry.entries := hcompiling ▸ he
    have hfind := Registry.find?_of_mem h.single hmark
    have hmem := (h.compiling e.1).1 hfind
    cases hmem
  rw [Registry.entries_eq hdone, h.nodes, List.map_map]
  rfl

end Ledger

namespace Schema

/-- Whatever schemas are compiled under URIs, all without a failure, each location is compiled once: it has one entry of the
registry, which later compilations leave alone, and its examples and its default are checked once.  Two entries are of
one pointer of one document only where the document has been asked for by both of its URIs. -/
theorem compiled_once {setup : Setup} {uris more : List String} {schemas others : List Schema} {s t : Session}
    (hs : (uris.mapM (compileUri setup)).run.run {} = (.ok schemas, s))
    (ht : (more.mapM (compileUri setup)).run.run s = (.ok others, t)) :
    ∃ before after : Ledger, before.Of setup [] s ∧ after.Of setup [] t ∧ before.Extends after ∧
      t.registry.entries = after.compiled.map (fun b => (b.1.place, .done b.2)) ∧ after.Once := by
  have hruns : ∀ (r : Ledger) (uris : List String),
      Runs (r.course setup []) (fun _ => True) (uris.mapM (compileUri setup)) fun _ _ => True :=
    fun r uris => (Runs.mapM fun uri _ => Ledger.runs_compileUri uri).weaken (fun _ h => h) fun _ _ _ _ => trivial
  have hfirst := hruns ⟨[], []⟩ uris {} ⟨_, .refl _, Ledger.of_start setup⟩ fun _ _ => trivial
  rw [hs] at hfirst
  obtain ⟨⟨before, -, hbefore⟩, -⟩ := hfirst
  have hsecond := hruns before more s ⟨before, .refl _, hbefore⟩ fun _ _ => trivial
  rw [ht] at hsecond
  obtain ⟨⟨after, hextends, hafter⟩, -⟩ := hsecond
  exact ⟨before, after, hbefore, hafter, hextends, hafter.entries, hafter.isOnce⟩

/-- Two documents, one of which refers to the other, which has an example that it does not accept. -/
def exampleAnswers : List (String × Answer) :=
  [("http://x/a", .found ⟨.text r#"{"items": {"$ref": "b"}, "not": {"$ref": "b"}}"#, none⟩),
    ("http://x/b", .found ⟨.text r#"{"type": "string", "examples": ["x", 1]}"#, none⟩)]

/-- However often the document is referred to and asked for, its examples are checked once. -/
theorem compiled_once_referring : ∃ schemas others s t,
    (["http://x/a"].mapM (compileUri { world := .ofTable exampleAnswers, options := ⟨false, true, true⟩ })).run.run
      {} = (.ok schemas, s) ∧
    (["http://x/b", "http://x/a#/items", "http://x/b#"].mapM
      (compileUri { world := .ofTable exampleAnswers, options := ⟨false, true, true⟩ })).run.run s = (.ok others, t) ∧
    t.registry.size = 4 ∧ t.examples.length = 2 ∧
    ∃ before after : Ledger,
      before.Of { world := .ofTable exampleAnswers, options := ⟨false, true, true⟩ } [] s ∧
      after.Of { world := .ofTable exampleAnswers, options := ⟨false, true, true⟩ } [] t ∧ before.Extends after ∧
      t.registry.entries = after.compiled.map (fun b => (b.1.place, .done b.2)) ∧ after.Once := by
  obtain ⟨schemas, s, hs, h⟩ := exists_of_endsWith
    (x := (["http://x/a"].mapM
      (compileUri { world := .ofTable exampleAnswers, options := ⟨false, true, true⟩ })).run.run {})
    (p := fun _ s => endsWith (fun _ t => t.registry.size == 4 && t.examples.length == 2)
      ((["http://x/b", "http://x/a#/items", "http://x/b#"].mapM
        (compileUri { world := .ofTable exampleAnswers, options := ⟨false, true, true⟩ })).run.run s))
    (by decide +kernel)
  obtain ⟨others, t, ht, h⟩ := exists_of_endsWith h
  obtain ⟨hsize, hlength⟩ := Bool.and_eq_true_iff.1 h
  exact ⟨schemas, others, s, t, hs, ht, beq_iff_eq.1 hsize, beq_iff_eq.1 hlength, compiled_once hs ht⟩

/-- A document that names itself, with an example that it does not accept. -/
def namedAnswers : List (String × Answer) :=
  [("http://x/a", .found ⟨.text r#"{"$id": "http://x/b", "type": "string", "examples": [1]}"#, none⟩)]

/-- A document that is fetched once, and asked for by both of its URIs, is compiled twice, and its example is checked twice. -/
theorem compiled_twice_renamed : ∃ schemas s,
    (["http://x/a", "http://x/b"].mapM
      (compileUri { world := .ofTable namedAnswers, options := ⟨false, true, false⟩ })).run.run {} = (.ok schemas, s) ∧
    s.loader.asked = ["http://x/a"] ∧ s.registry.contains ⟨"http://x/a", Pointer.root⟩ = true ∧
    s.registry.contains ⟨"http://x/b", Pointer.root⟩ = true ∧
    s.examples.map (·.location) = List.replicate 4 ((Pointer.root.child "examples").item 0) := by
  obtain ⟨schemas, s, hs, h⟩ := exists_of_endsWith
    (x := (["http://x/a", "http://x/b"].mapM
      (compileUri { world := .ofTable namedAnswers, options := ⟨false, true, false⟩ })).run.run {})
    (p := fun _ s => s.loader.asked == ["http://x/a"] && (s.registry.contains ⟨"http://x/a", Pointer.root⟩ &&
      (s.registry.contains ⟨"http://x/b", Pointer.root⟩ &&
        s.examples.map (·.location) == List.replicate 4 ((Pointer.root.child "examples").item 0))))
    (by decide +kernel)
  obtain ⟨hasked, h⟩ := Bool.and_eq_true_iff.1 h
  obtain ⟨hfirst, h⟩ := Bool.and_eq_true_iff.1 h
  obtain ⟨hsecond, hexamples⟩ := Bool.and_eq_true_iff.1 h
  exact ⟨schemas, s, hs, beq_iff_eq.1 hasked, hfirst, hsecond, beq_iff_eq.1 hexamples⟩

end Schema

end Conform
