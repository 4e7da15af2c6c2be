import Conform.Proofs.Compile.Congruence
import Conform.Proofs.Compile.Reached

/-!
# Computations that run alike

One compilation is run from two sessions that hold the same, but for the URIs and places of a `Frame`.  `Alike B P x y`:
where `P` holds, `x` from the first session and `y` from the second give the same result and end in sessions that hold the
same again; unless the first fails in a way that the frame forgives, or the second strays to what the sessions differ in.
Whether it strays is told by the session that it ends in at last, so each computation has to leave what is known under
URIs (`Session.Before`).
-/

namespace Conform

/-! ### What only notes something -/

/-- The session holds the same documents and nodes afterwards: something may have been noted, no more. -/
structure Session.Idle (s t : Session) : Prop where
  cache : t.loader.cache = s.loader.cache
  homes : t.homes = s.homes
  registry : t.registry = s.registry

theorem Session.Idle.refl (s : Session) : s.Idle s := ⟨rfl, rfl, rfl⟩

theorem Session.Idle.trans {s t u : Session} (h : s.Idle t) (h' : t.Idle u) : s.Idle u :=
  ⟨h'.cache.trans h.cache, h'.homes.trans h.homes, h'.registry.trans h.registry⟩

/-- What is known under URIs stays known, and no place is left marked that was not. -/
structure Session.Before (s t : Session) : Prop where
  homes : Extends s.homes t.homes
  unmarked : ∀ p, t.registry.find? p = some .compiling → s.registry.find? p = some .compiling

theorem Session.Before.refl (s : Session) : s.Before s := ⟨.refl _, fun _ h => h⟩

theorem Session.Before.trans {s t u : Session} (h : s.Before t) (h' : t.Before u) : s.Before u :=
  ⟨h.homes.trans h'.homes, fun p hp => h.unmarked p (h'.unmarked p hp)⟩

theorem Session.Idle.before {s t : Session} (h : s.Idle t) : s.Before t where
  homes := by
    rw [h.homes]
    exact .refl _
  unmarked p hp := by rwa [h.registry] at hp

/-- The computation gives the same from every session, and only notes something. -/
def Quiet {α : Type} (x : Compiling α) : Prop := ∃ r, ∀ s, (x.run.run s).1 = r ∧ s.Idle (x.run.run s).2

namespace Quiet

variable {α β : Type} {x : Compiling α}

protected theorem pure (a : α) : Quiet (pure a) := ⟨.ok a, fun s => ⟨rfl, .refl s⟩⟩

protected theorem throw (e : Failure) : Quiet (throw e : Compiling α) := ⟨.error e, fun s => ⟨rfl, .refl s⟩⟩

protected theorem bind {f : α → Compiling β} (hx : Quiet x) (hf : ∀ a, Quiet (f a)) : Quiet (x >>= f) := by
  obtain ⟨r, hr⟩ := hx
  cases r with
  | error e =>
    refine ⟨.error e, fun s => ?_⟩
    obtain ⟨hfails, hidle⟩ := hr s
    rw [run_bind]
    generalize x.run.run s = result at hfails hidle
    obtain ⟨result, t⟩ := result
    cases hfails
    exact ⟨rfl, hidle⟩
  | ok a =>
    obtain ⟨r', hr'⟩ := hf a
    refine ⟨r', fun s => ?_⟩
    obtain ⟨hok, hidle⟩ := hr s
    rw [run_bind]
    generalize x.run.run s = result at hok hidle
    obtain ⟨result, t⟩ := result
    cases hok
    exact ⟨(hr' t).1, hidle.trans (hr' t).2⟩

protected theorem tryCatch {f : Failure → Compiling α} (hx : Quiet x) (hf : ∀ e, Quiet (f e)) : Quiet (tryCatch x f) := by
  obtain ⟨r, hr⟩ := hx
  cases r with
  | ok a =>
    refine ⟨.ok a, fun s => ?_⟩
    obtain ⟨hok, hidle⟩ := hr s
    rw [run_tryCatch]
    generalize x.run.run s = result at hok hidle
    obtain ⟨result, t⟩ := result
    cases hok
    exact ⟨rfl, hidle⟩
  | error e =>
    obtain ⟨r', hr'⟩ := hf e
    refine ⟨r', fun s => ?_⟩
    obtain ⟨hfails, hidle⟩ := hr s
    rw [run_tryCatch]
    generalize x.run.run s = result at hfails hidle
    obtain ⟨result, t⟩ := result
    cases hfails
    exact ⟨(hr' t).1, hidle.trans (hr' t).2⟩

protected theorem modify {f : Session → Session} (h : ∀ s : Session, s.Idle (f s)) : Quiet (modify f : Compiling PUnit) :=
  ⟨.ok ⟨⟩, fun s => ⟨rfl, h s⟩⟩

protected theorem ofExcept (x : Except Failure α) : Quiet (Compiling.ofExcept x) :=
  ⟨x, fun s => by
    rw [Compiling.run_ofExcept]
    exact ⟨rfl, .refl s⟩⟩

protected theorem forIn {f : β → PUnit → Compiling (ForInStep PUnit)} {l : List β} (hf : ∀ b u, Quiet (f b u)) :
    Quiet (forIn l PUnit.unit f) := by
  induction l with
  | nil =>
    rw [List.forIn_nil]
    exact .pure _
  | cons b l ih =>
    rw [List.forIn_cons]
    refine (hf b _).bind fun step => ?_
    cases step with
    | done => exact .pure _
    | yield => exact ih

/-- What the loader gives from every state without a change to its cache. -/
protected theorem ofLoading {x : Loading α} (hx : Loader.Settled x)
    (hcache : ∀ cache, Keeps (fun l => l.cache = cache) x fun _ => True) : Quiet (Compiling.ofLoading x) := by
  refine ⟨(x.run.run {}).1, fun s => ?_⟩
  rw [Compiling.run_ofLoading]
  exact ⟨hx _ _, (hcache s.loader.cache s.loader rfl).1, rfl, rfl⟩

end Quiet

/-! ### Loading -/

namespace Loader

variable {α β : Type}

/-- The computation gives the same from every state of the loader and makes the same of every cache, URI by URI. -/
def Steady (x : Loading α) : Prop :=
  ∃ r, ∃ after : List (String × Loaded) → List (String × Loaded),
    (∀ l, (x.run.run l).1 = r ∧ (x.run.run l).2.cache = after l.cache) ∧
      ∀ cache cache' uri, cache.lookup uri = cache'.lookup uri → (after cache).lookup uri = (after cache').lookup uri

namespace Steady

protected theorem pure (a : α) : Steady (pure a) := ⟨.ok a, id, fun _ => ⟨rfl, rfl⟩, fun _ _ _ h => h⟩

protected theorem throw (e : Failure) : Steady (throw e : Loading α) :=
  ⟨.error e, id, fun _ => ⟨rfl, rfl⟩, fun _ _ _ h => h⟩

protected theorem bind {x : Loading α} {f : α → Loading β} (hx : Steady x) (hf : ∀ a, Steady (f a)) :
    Steady (x >>= f) := by
  obtain ⟨r, after, hr, hafter⟩ := hx
  cases r with
  | error e =>
    refine ⟨.error e, after, fun l => ?_, hafter⟩
    obtain ⟨hfails, hcache⟩ := hr l
    rw [run_bind]
    generalize x.run.run l = result at hfails hcache
    obtain ⟨result, l'⟩ := result
    cases hfails
    exact ⟨rfl, hcache⟩
  | ok a =>
    obtain ⟨r', after', hr', hafter'⟩ := hf a
    refine ⟨r', after' ∘ after, fun l => ?_, fun cache cache' uri h => hafter' _ _ _ (hafter _ _ _ h)⟩
    obtain ⟨hok, hcache⟩ := hr l
    rw [run_bind]
    generalize x.run.run l = result at hok hcache
    obtain ⟨result, l'⟩ := result
    cases hok
    refine ⟨(hr' l').1, (hr' l').2.trans ?_⟩
    exact congrArg after' hcache

/-- A change to the cache, URI by URI. -/
protected theorem modify (after : List (String × Loaded) → List (String × Loaded))
    (hafter : ∀ cache cache' uri, cache.lookup uri = cache'.lookup uri → (after cache).lookup uri = (after cache').lookup uri) :
    Steady (modify fun l => { l with cache := after l.cache } : Loading PUnit) :=
  ⟨.ok ⟨⟩, after, fun _ => ⟨rfl, rfl⟩, hafter⟩

end Steady

theorem steady_resource (w : World) (uri : String) : Steady (resource w uri) :=
  ⟨((resource w uri).run.run {}).1, id,
    fun l => ⟨settled_resource _ _, (keeps_resource (J := (· = l.cache)) l rfl).1⟩, fun _ _ _ h => h⟩

theorem steady_remember (uri : String) (d : Loaded) : Steady (remember uri d) := by
  unfold remember
  refine (Steady.modify (put uri d) fun cache cache' u h => ?_).bind fun _ => ?_
  · rw [Library.lookup_put, Library.lookup_put, h]
  split
  · rename_i name hname
    have hdrop : Steady (dropFragment name) := by
      unfold dropFragment
      split
      · exact .pure _
      · exact .throw _
    refine hdrop.bind fun short => .modify (putNew short d) fun cache cache' u h => ?_
    rw [Library.lookup_putNew, Library.lookup_putNew, h]
  · exact .pure _

/-- A document that has been loaded is not loaded again. -/
theorem run_fetch_of_known (w : World) {uri : String} (huri : '#' ∉ uri.toList) {l : Loader} {d : Loaded}
    (h : l.cache.lookup uri = some d) : (fetch w uri).run.run l = (.ok d, l) := by
  rw [run_fetch_eq w (Uri.dropFragment_of_not_mem huri), h]

theorem run_fetch_of_unknown (w : World) {uri : String} (huri : '#' ∉ uri.toList) {l : Loader}
    (h : l.cache.lookup uri = none) : (fetch w uri).run.run l = (resource w uri >>= keep w uri).run.run l := by
  rw [run_fetch_eq w (Uri.dropFragment_of_not_mem huri), h]

/-- From caches that agree on a URI the same is fetched under it, and they agree afterwards wherever they did. -/
theorem fetch_agree (w : World) {uri : String} (huri : '#' ∉ uri.toList) {l l' : Loader}
    (h : l.cache.lookup uri = l'.cache.lookup uri) :
    ((fetch w uri).run.run l).1 = ((fetch w uri).run.run l').1 ∧ ∀ u, l.cache.lookup u = l'.cache.lookup u →
      ((fetch w uri).run.run l).2.cache.lookup u = ((fetch w uri).run.run l').2.cache.lookup u := by
  cases hlookup : l.cache.lookup uri with
  | some d =>
    rw [run_fetch_of_known w huri hlookup, run_fetch_of_known w huri (h.symm.trans hlookup)]
    exact ⟨rfl, fun u hu => hu⟩
  | none =>
    rw [run_fetch_of_unknown w huri hlookup, run_fetch_of_unknown w huri (h.symm.trans hlookup)]
    have hkeep : ∀ r, Steady (keep w uri r) := by
      intro r
      unfold keep
      split
      · exact .throw _
      · exact (steady_remember uri _).bind fun _ => .pure _
    obtain ⟨r, after, hr, hafter⟩ := (steady_resource w uri).bind hkeep
    refine ⟨(hr l).1.trans (hr l').1.symm, fun u hu => ?_⟩
    rw [(hr l).2, (hr l').2]
    exact hafter _ _ u hu

end Loader

/-! ### Frames -/

/-- How two sessions may differ, and what two runs from them need not agree on. -/
structure Frame where
  /-- The sessions may know different things under the URI. -/
  uri : String → Prop
  /-- The sessions may hold different entries for the place. -/
  place : Place → Prop
  /-- The first run is compiling the place. -/
  marked : Place → Prop
  /-- The locations that the second run comes to. -/
  reached : Location → Prop
  /-- The first run may fail in this way. -/
  forgives : Failure → Prop
  /-- The second run comes to what the sessions differ in. -/
  stray : Prop
  /-- The session that the second run ends in at last. -/
  final : Session

namespace Frame

variable {α : Type} (B : Frame) (s t : Session)

/-- The sessions hold the same, but for the URIs and places of the frame. -/
structure Matches : Prop where
  cache : ∀ u, ¬B.uri u → s.loader.cache.lookup u = t.loader.cache.lookup u
  homes : ∀ u, ¬B.uri u → s.homes.lookup u = t.homes.lookup u
  entries : ∀ p, ¬B.place p → s.registry.find? p = t.registry.find? p
  marked : ∀ p, B.marked p → s.registry.find? p = some .compiling

/-- What the first session knows under a URI that is not of the frame, the second knows too. -/
def Within : Prop := ∀ u home, ¬B.uri u → s.homes.lookup u = some home → t.homes.lookup u = some home

/-- Two runs have ended alike. -/
inductive Agrees : Except Failure α × Session → Except Failure α × Session → Prop where
  | same {r : Except Failure α} {s t : Session} (h : B.Matches s t) : Agrees (r, s) (r, t)
  | forgiven {e : Failure} {r : Except Failure α} {s t : Session} (he : B.forgives e) (h : B.Within s t) :
    Agrees (.error e, s) (r, t)
  | stray {x y : Except Failure α × Session} (h : B.stray) : Agrees x y

variable {B s t}

theorem Matches.within (h : B.Matches s t) : B.Within s t := fun u _ hu hhome => h.homes u hu ▸ hhome

theorem Within.on {u : Session} (h : B.Within s t) (hext : Extends t.homes u.homes) : B.Within s u :=
  fun v home hv hhome => hext v home (h v home hv hhome)

theorem Matches.idle {s' t' : Session} (h : B.Matches s t) (hs : s.Idle s') (ht : t.Idle t') : B.Matches s' t' where
  cache u hu := by
    rw [hs.cache, ht.cache]
    exact h.cache u hu
  homes u hu := by
    rw [hs.homes, ht.homes]
    exact h.homes u hu
  entries p hp := by
    rw [hs.registry, ht.registry]
    exact h.entries p hp
  marked p hp := by
    rw [hs.registry]
    exact h.marked p hp

/-- A change to the entry of a place that is not of the frame. -/
theorem Matches.registry {r r' : Registry} {p : Place} (h : B.Matches s t) (hp : ¬B.marked p)
    (hother : ∀ q, q ≠ p → r.find? q = s.registry.find? q ∧ r'.find? q = t.registry.find? q) (hown : r.find? p = r'.find? p) :
    B.Matches { s with registry := r } { t with registry := r' } where
  cache := h.cache
  homes := h.homes
  entries q hq := by
    by_cases hqp : q = p
    · subst hqp
      exact hown
    · obtain ⟨hs, ht⟩ := hother q hqp
      show r.find? q = r'.find? q
      rw [hs, ht]
      exact h.entries q hq
  marked q hq := by
    have hqp : q ≠ p := by
      rintro rfl
      exact hp hq
    exact (hother q hqp).1.trans (h.marked q hq)

end Frame

/-! ### Running alike -/

/-- Where this holds, the computations run alike from sessions that match. -/
structure Alike {α : Type} (B : Frame) (P : Prop) (x y : Compiling α) : Prop where
  before : ∀ t : Session, t.Before (y.run.run t).2
  agrees : P → ∀ s t, B.Matches s t → Extends (y.run.run t).2.homes B.final.homes →
    B.Agrees (x.run.run s) (y.run.run t)

namespace Alike

variable {α β : Type} {B : Frame} {P P' : Prop} {x y : Compiling α} {f g : α → Compiling β}

theorem weaken (h : Alike B P x y) (hP : P' → P) : Alike B P' x y := ⟨h.before, fun hp => h.agrees (hP hp)⟩

theorem of_quiet (hx : Quiet x) : Alike B P x x := by
  obtain ⟨r, hr⟩ := hx
  refine ⟨fun t => (hr t).2.before, fun _ s t h _ => ?_⟩
  · obtain ⟨hs, hidle⟩ := hr s
    obtain ⟨ht, hidle'⟩ := hr t
    generalize x.run.run s = a at hs hidle
    generalize x.run.run t = b at ht hidle'
    obtain ⟨_, s'⟩ := a
    obtain ⟨_, t'⟩ := b
    subst hs ht
    exact .same (h.idle hidle hidle')

protected theorem pure (a : α) : Alike B P (pure a) (pure a) := .of_quiet (.pure a)

/-- A first run that may fail so agrees with every other. -/
theorem forgiven {e : Failure} (he : P → B.forgives e) (hy : ∀ t : Session, t.Before (y.run.run t).2) :
    Alike B P (throw e) y :=
  ⟨hy, fun hP _ t h _ => .forgiven (he hP) (h.within.on (hy t).homes)⟩

/-- One computation after another: the second rests on what the first can give, and on what it has given at last. -/
theorem bindWith (hx : Alike B P x y) (hf : ∀ a, (∃ t, (y.run.run t).1 = .ok a) → Alike B
      (P ∧ ∃ t t', y.run.run t = (.ok a, t') ∧ Extends t'.homes B.final.homes) (f a) (g a)) :
    Alike B P (x >>= f) (y >>= g) := by
  refine ⟨fun t => ?_, fun hP s t h hext => ?_⟩
  · rw [run_bind]
    have hbefore := hx.before t
    generalize hr : y.run.run t = r at hbefore
    obtain ⟨r, t'⟩ := r
    cases r with
    | error e => exact hbefore
    | ok a => exact hbefore.trans ((hf a ⟨t, congrArg Prod.fst hr⟩).before t')
  · rw [run_bind] at hext ⊢
    rw [run_bind]
    have hagrees := hx.agrees hP s t h
    generalize hr : y.run.run t = r at hext hagrees
    obtain ⟨r, t'⟩ := r
    cases r with
    | error e =>
      specialize hagrees hext
      generalize x.run.run s = r at hagrees
      cases hagrees with
      | same hmatches => exact .same hmatches
      | forgiven he hwithin => exact .forgiven he hwithin
      | stray hstray => exact .stray hstray
    | ok a =>
      -- What is known after the first is known in the end, since the second only adds to it.
      have hrest := hf a ⟨t, congrArg Prod.fst hr⟩
      have hbefore := hrest.before t'
      specialize hagrees (hbefore.homes.trans hext)
      generalize x.run.run s = r at hagrees
      cases hagrees with
      | same hmatches => exact hrest.agrees ⟨hP, t, t', hr, hbefore.homes.trans hext⟩ _ t' hmatches hext
      | forgiven he hwithin => exact .forgiven he (hwithin.on hbefore.homes)
      | stray hstray => exact .stray hstray

/-- The second computation rests on what the first can give. -/
theorem bindOf (hx : Alike B P x y) (hf : ∀ a, (∃ t, (y.run.run t).1 = .ok a) → Alike B P (f a) (g a)) :
    Alike B P (x >>= f) (y >>= g) := hx.bindWith fun a ha => (hf a ha).weaken And.left

protected theorem bind (hx : Alike B P x y) (hf : ∀ a, Alike B P (f a) (g a)) : Alike B P (x >>= f) (y >>= g) :=
  hx.bindOf fun a _ => hf a

protected theorem modify {f : Session → Session} (hbefore : ∀ t : Session, t.Before (f t))
    (h : ∀ s t, B.Matches s t → B.Matches (f s) (f t)) : Alike B P (modify f : Compiling PUnit) (modify f) :=
  ⟨hbefore, fun _ s t hmatches _ => .same (h s t hmatches)⟩

/-! ### Documents -/

theorem register (uri : String) (home : Home) : Alike B P (Compiling.register uri home) (Compiling.register uri home) := by
  refine .modify (fun t => ⟨extends_addHome uri home t.homes, fun _ h => h⟩) fun s t h => ⟨h.cache, fun u hu => ?_, h.entries, h.marked⟩
  rw [lookup_addHome, lookup_addHome, h.homes u hu]

/-- To run alike is kept by the steps of a compilation. -/
theorem congruence (B : Frame) (P : Prop) : Congruence (fun {_} => Alike B P) where
  ofPure := .pure
  ofThrow e := .of_quiet (.throw e)
  bindOf := bindOf
  register := register
  readText w uri f hf := by
    refine .of_quiet (.tryCatch (.ofLoading Loader.settled_readText fun cache =>
      Loader.keeps_readText (J := (· = cache))) fun e => ?_)
    obtain ⟨told, h⟩ := hf e
    rw [h]
    exact .throw told

theorem registerDocument (d : Document) : Alike B P (Compiling.registerDocument d) (Compiling.registerDocument d) :=
  (congruence B P).registerDocument d

theorem resolve (w : World) {uri : String} (huri : '#' ∉ uri.toList) (h : P → B.uri uri → B.stray) :
    Alike B P (Compiling.resolve w uri) (Compiling.resolve w uri) := by
  refine ⟨fun t => ?_, fun hP s t hmatches _ => ?_⟩
  · rw [Compiling.run_resolve]
    exact ⟨.refl _, fun _ h => h⟩
  by_cases hframe : B.uri uri
  · exact .stray (h hP hframe)
  · obtain ⟨hresult, hcache⟩ := Loader.fetch_agree w huri (hmatches.cache uri hframe)
    rw [Compiling.run_resolve, Compiling.run_resolve, hresult]
    exact .same ⟨fun u hu => hcache u (hmatches.cache u hu), hmatches.homes, hmatches.entries, hmatches.marked⟩

/-- What a URI names in the second session it names in the first, unless it is one of the frame. -/
theorem home {sc : Scope} {uri : String} (huri : '#' ∉ uri.toList) (h : P → uri.isEmpty = false → B.uri uri → B.stray) :
    Alike B P (sc.home uri) (sc.home uri) := by
  by_cases hempty : uri.isEmpty = true
  · unfold Scope.home
    rw [if_pos hempty]
    exact .pure _
  have hne : uri.isEmpty = false := by simpa using hempty
  obtain ⟨load, hload⟩ : ∃ load : Compiling Home, load = do
      let content ← Compiling.resolve sc.setup.world uri
      Compiling.registerDocument (.under uri content)
      return ⟨.under uri content, .root⟩ := ⟨_, rfl⟩
  have hnew : ∀ s : Session, s.homes.lookup uri = none → (sc.home uri).run.run s = load.run.run s := by
    intro s hunknown
    rw [sc.run_home_of_unknown hne hunknown, hload]
  have hloads : Alike B P load load := by
    rw [hload]
    refine (resolve _ huri fun hP hframe => h hP hne hframe).bind fun content => ?_
    exact (registerDocument _).bind fun _ => .pure _
  -- What is known is answered from the same entries; what is not is loaded by the same computation.
  refine ⟨fun t => ?_, fun hP s t hmatches hext => ?_⟩
  · cases hlookup : t.homes.lookup uri with
    | some home =>
      rw [sc.run_home_of_known hne hlookup]
      exact .refl _
    | none =>
      rw [hnew t hlookup]
      exact hloads.before t
  · by_cases hframe : B.uri uri
    · exact .stray (h hP hne hframe)
    have hsame := hmatches.homes uri hframe
    cases hlookup : t.homes.lookup uri with
    | some home =>
      rw [sc.run_home_of_known hne hlookup, sc.run_home_of_known hne (hsame.trans hlookup)]
      exact .same hmatches
    | none =>
      rw [hnew t hlookup] at hext ⊢
      rw [hnew s (hsame.trans hlookup)]
      exact hloads.agrees hP s t hmatches hext

/-! ### Getting a location or creating it -/

private theorem find?_mark_of_ne {q p : Place} (r : Registry) (hq : q ≠ p) : (r.mark p).find? q = r.find? q := by
  rw [Registry.mark, Registry.find?_set, if_neg hq]

/-- The mark of a place is taken back in the end, so no place is left marked that was not. -/
private theorem before_getOrCreate (p : Place) {y : Compiling Node} (hy : ∀ t : Session, t.Before (y.run.run t).2)
    (t : Session) : t.Before ((Compiling.getOrCreate p y).run.run t).2 := by
  rw [Compiling.run_getOrCreate]
  split
  · exact .refl _
  · exact .refl _
  · have h := hy { t with registry := t.registry.mark p }
    generalize y.run.run { t with registry := t.registry.mark p } = r at h
    obtain ⟨r, t'⟩ := r
    cases r with
    | ok n =>
      refine ⟨h.homes, fun q hq => ?_⟩
      replace hq : (t'.registry.set p (.done n)).find? q = some .compiling := hq
      rw [Registry.find?_set] at hq
      split at hq
      · cases hq
      · exact find?_mark_of_ne t.registry ‹_› ▸ h.unmarked q hq
    | error e =>
      refine ⟨h.homes, fun q hq => ?_⟩
      replace hq : (t'.registry.discard p).find? q = some .compiling := hq
      rw [Registry.find?_discard] at hq
      split at hq
      · cases hq
      · exact find?_mark_of_ne t.registry ‹_› ▸ h.unmarked q hq

theorem getOrCreate {p : Place} {x y : Compiling Node} (hbuild : Alike B P x y)
    (hmarked : B.marked p → B.place p ∧ B.forgives p.recursion)
    (hplace : P → B.place p → B.marked p ∨ B.stray) :
    Alike B P (Compiling.getOrCreate p x) (Compiling.getOrCreate p y) := by
  refine ⟨before_getOrCreate p hbuild.before, fun hP s t hmatches hext => ?_⟩
  by_cases hframe : B.place p
  -- At a place that the sessions differ in the first finds a mark and fails, as is forgiven, or the second has strayed.
  · rcases hplace hP hframe with h | h
    · have hwithin := hmatches.within.on (before_getOrCreate p hbuild.before t).homes
      rw [Compiling.run_getOrCreate p x, hmatches.marked p h]
      exact .forgiven (hmarked h).2 hwithin
    · exact .stray h
  rw [Compiling.run_getOrCreate] at hext ⊢
  rw [Compiling.run_getOrCreate, hmatches.entries p hframe]
  have hunmarked : ¬B.marked p := fun h => hframe (hmarked h).1
  cases hfind : t.registry.find? p with
  | some state =>
    cases state with
    | compiling => exact .same hmatches
    | done n => exact .same hmatches
  | none =>
    rw [hfind] at hext
    dsimp only at hext ⊢
    have hmatches' : B.Matches { s with registry := s.registry.mark p } { t with registry := t.registry.mark p } :=
      hmatches.registry hunmarked (fun q hq => ⟨find?_mark_of_ne _ hq, find?_mark_of_ne _ hq⟩)
        (by rw [Registry.mark, Registry.mark, Registry.find?_set, Registry.find?_set, if_pos rfl, if_pos rfl])
    have h := hbuild.agrees hP _ _ hmatches'
    generalize y.run.run { t with registry := t.registry.mark p } = r at h hext
    -- Whether the node is stored or the mark taken back, what is known under URIs is what the build leaves.
    have hext' : Extends r.2.homes B.final.homes := by
      obtain ⟨r, t'⟩ := r
      cases r <;> exact hext
    specialize h hext'
    generalize x.run.run { s with registry := s.registry.mark p } = r' at h
    cases h with
    | same hsame =>
      rename_i result s' t'
      cases result with
      | ok n =>
        refine .same (hsame.registry (p := p) hunmarked (fun q hq => ?_) ?_)
        · simp only [Registry.store, Registry.find?_set, if_neg hq, and_self]
        · simp only [Registry.store, Registry.find?_set, ↓reduceIte]
      | error e =>
        refine .same (hsame.registry (p := p) hunmarked (fun q hq => ?_) ?_)
        · simp only [Registry.find?_discard, if_neg hq, and_self]
        · simp only [Registry.find?_discard, ↓reduceIte]
    | forgiven he hwithin =>
      rename_i e result s' t'
      cases result with
      | ok n => exact .forgiven he hwithin
      | error e' => exact .forgiven he hwithin
    | stray hstray => exact .stray hstray

end Alike

end Conform
