import Conform.Proofs.Compile.Loading
import Conform.Proofs.Compile.Locations
import Conform.Proofs.Uri

/-!
# Documents of a session

What becomes of the documents of a session when one is registered or loaded.  Registering a document files it, and
each part of it that has a name, under the URIs that these claim (`Document.Claims`).
-/

namespace Conform

/-- Registering the document files this home under the URI, unless there is one. -/
inductive Document.Claims (d : Document) : String → Home → Prop where
  | document {uri : String} (huri : d.uri = some uri) : d.Claims uri ⟨d, .root⟩
  | part {p : Pointer} {schema : Value} {name uri : String} (hmem : (p, schema) ∈ schemaObjects .root d.content)
      (hname : schema.member? "$id" = some (.str name)) (hanchor : name.startsWith "#" = false)
      (huri : (d.baseAt p).bind (resolveName · name) = .ok uri) (hne : uri.isEmpty = false) : d.Claims uri ⟨d, p⟩

/-- A part of the document has a name that comes to no URI. -/
def Document.Misnamed (d : Document) (e : Failure) : Prop :=
  ∃ p schema name, (p, schema) ∈ schemaObjects .root d.content ∧ schema.member? "$id" = some (.str name) ∧
    name.startsWith "#" = false ∧ (d.baseAt p).bind (resolveName · name) = .error e

/-! ### Homes -/

/-- The homes that a document claims are filed, or others in their places. -/
def Document.IsFiled (d : Document) (homes : List (String × Home)) : Prop :=
  ∀ uri home, d.Claims uri home → (homes.lookup uri).isSome

/-- Whatever is filed under a URI stays there. -/
def Extends (homes homes' : List (String × Home)) : Prop :=
  ∀ uri home, homes.lookup uri = some home → homes'.lookup uri = some home

/-- What registering the document makes of the homes: it adds homes that the document claims, until these are filed. -/
structure Document.Registers (d : Document) (homes homes' : List (String × Home)) : Prop where
  extend : Extends homes homes'
  new : ∀ {uri home}, homes'.lookup uri = some home → homes.lookup uri = some home ∨ d.Claims uri home
  filed : d.IsFiled homes'
  own : ∀ {uri}, d.uri = some uri → homes.lookup uri = none → homes'.lookup uri = some ⟨d, .root⟩

section Homes

variable {homes homes' homes'' : List (String × Home)} {uri : String} {home : Home}

theorem Extends.refl (homes : List (String × Home)) : Extends homes homes := fun _ _ h => h

theorem Extends.trans (h : Extends homes homes') (h' : Extends homes' homes'') : Extends homes homes'' :=
  fun uri home hhome => h' uri home (h uri home hhome)

theorem Extends.isSome (h : Extends homes homes') (huri : (homes.lookup uri).isSome) : (homes'.lookup uri).isSome := by
  obtain ⟨home, hhome⟩ := Option.isSome_iff_exists.1 huri
  exact Option.isSome_iff_exists.2 ⟨home, h uri home hhome⟩

theorem lookup_addHome (uri : String) (home : Home) (homes : List (String × Home)) (u : String) :
    (addHome uri home homes).lookup u = (homes.lookup u).or (if u = uri then some home else none) := by
  unfold addHome
  split
  · rename_i h
    by_cases hu : u = uri
    · subst hu
      obtain ⟨known, hknown⟩ := Option.isSome_iff_exists.1 h
      simp [hknown]
    · simp [hu]
  · rw [List.lookup_append, List.lookup_cons]
    by_cases hu : u = uri
    · simp [hu]
    · simp [hu, beq_eq_false_iff_ne.2 hu]

theorem extends_addHome (uri : String) (home : Home) (homes : List (String × Home)) :
    Extends homes (addHome uri home homes) := by
  intro u known hknown
  rw [lookup_addHome, hknown]
  rfl

theorem isSome_lookup_addHome (uri : String) (home : Home) (homes : List (String × Home)) :
    ((addHome uri home homes).lookup uri).isSome := by
  rw [lookup_addHome, if_pos rfl]
  cases homes.lookup uri <;> rfl

/-- What is filed is the addition, or was filed before. -/
theorem eq_of_lookup_addHome {u : String} {known : Home} (h : (addHome uri home homes).lookup u = some known) :
    homes.lookup u = some known ∨ u = uri ∧ known = home := by
  rw [lookup_addHome] at h
  cases hlookup : homes.lookup u with
  | some other =>
    rw [hlookup] at h
    exact .inl h
  | none =>
    rw [hlookup] at h
    split at h
    · cases h
      exact .inr ⟨‹_›, rfl⟩
    · cases h

/-- Where nothing has been filed, all that is filed is what the document claims. -/
theorem Document.Registers.claims {d : Document} (h : d.Registers [] homes) (hlookup : homes.lookup uri = some home) :
    d.Claims uri home :=
  (h.new hlookup).resolve_left (by rintro ⟨⟩)

theorem Document.IsFiled.on {d : Document} (h : d.IsFiled homes) (hext : Extends homes homes') : d.IsFiled homes' :=
  fun uri home hclaims => hext.isSome (h uri home hclaims)

end Homes

namespace Compiling

variable {stock : Stock} {filed : Place → Node → Prop} {d : Document}

/-! ### Registering -/

/-- Registering a document from a session on only adds homes that the document claims, and fails where a part has a name
that comes to no URI. -/
def registering (d : Document) (s₀ : Session) : Course Failure Session where
  inv s := (∃ homes, s = { s₀ with homes }) ∧ Extends s₀.homes s.homes ∧
    ∀ uri home, s.homes.lookup uri = some home → s₀.homes.lookup uri = some home ∨ d.Claims uri home
  later s t := Extends s.homes t.homes
  fails e s := d.Misnamed e ∧ Extends s₀.homes s.homes ∧
    ∀ uri home, s.homes.lookup uri = some home → s₀.homes.lookup uri = some home ∨ d.Claims uri home
  refl s := .refl s.homes
  trans := .trans

private theorem runs_register {s₀ : Session} {P : Session → Prop} {uri : String} {home : Home}
    (hclaims : d.Claims uri home) :
    Runs (registering d s₀) P (register uri home) fun _ s => (s.homes.lookup uri).isSome := by
  intro s hs _
  refine ⟨⟨?_, ?_, ?_⟩, extends_addHome uri home s.homes, fun t ht => ht.isSome (isSome_lookup_addHome _ _ _)⟩
  · obtain ⟨⟨homes, rfl⟩, -⟩ := hs
    exact ⟨_, rfl⟩
  · exact hs.2.1.trans (extends_addHome uri home s.homes)
  · intro u known hknown
    rcases eq_of_lookup_addHome hknown with h | ⟨rfl, rfl⟩
    · exact hs.2.2 u known h
    · exact .inr hclaims

private theorem runs_registerPart {s₀ : Session} {p : Pointer} {schema : Value}
    (hmem : (p, schema) ∈ schemaObjects .root d.content) :
    Runs (registering d s₀) (fun s => ∀ uri, d.uri = some uri → (s.homes.lookup uri).isSome) (registerPart d p schema)
      fun _ s => ∀ name uri, schema.member? "$id" = some (.str name) → name.startsWith "#" = false →
        (d.baseAt p).bind (resolveName · name) = .ok uri → uri.isEmpty = false → (s.homes.lookup uri).isSome := by
  unfold registerPart
  split
  · rename_i name hname
    split
    · rename_i hanchor
      refine .pure fun s _ name' uri hname' hanchor' => ?_
      rw [hname] at hname'
      cases hname'
      rw [hanchor] at hanchor'
      cases hanchor'
    · rename_i hanchor
      have hanchor : name.startsWith "#" = false := by simpa using hanchor
      refine (runs_ofExcept (C := registering d s₀)
        (Q := fun uri _ => (d.baseAt p).bind (resolveName · name) = .ok uri) (fun _ h _ _ => h)
        fun e he s hs hP => ⟨⟨p, schema, name, hmem, hname, hanchor, he⟩, hs.2⟩).bindStatic fun uri huri => ?_
      split
      · rename_i hne
        have hne : uri.isEmpty = false := by simpa using hne
        refine (runs_register (.part hmem hname hanchor huri hne)).weaken (fun _ h => h) fun _ s _ h => ?_
        intro name' uri' hname' _ huri' _
        rw [hname] at hname'
        cases hname'
        rw [huri] at huri'
        cases huri'
        exact h
      · rename_i hempty
        refine .pure fun s _ name' uri' hname' _ huri' hne => ?_
        rw [hname] at hname'
        cases hname'
        rw [huri] at huri'
        cases huri'
        simp [hne] at hempty
  · rename_i hnone
    exact .pure fun s _ name uri hname => absurd hname (hnone name)

private theorem runs_registerParts {s₀ : Session} :
    Runs (registering d s₀) (fun s => ∀ uri, d.uri = some uri → (s.homes.lookup uri).isSome) (do
      for (p, schema) in schemaObjects .root d.content do
        registerPart d p schema) fun _ s => d.IsFiled s.homes := by
  refine (Runs.forIn fun entry hmem _ => (runs_registerPart hmem).seq fun _ => .pure fun _ _ h => ⟨rfl, h⟩).bind
    fun _ => .pure fun s h => ?_
  rintro uri home (huri | ⟨hmem, hname, hanchor, huri, hne⟩)
  · exact h.1 uri huri
  · exact h.2 _ hmem _ uri hname hanchor huri hne

/-- What becomes of a session in which a document is registered.  It is filed under its own URI before its parts are. -/
theorem run_registerDocument (d : Document) (s : Session) :
    (registering d s).Ends s (fun _ t => d.IsFiled t.homes ∧ ∀ uri, d.uri = some uri → s.homes.lookup uri = none →
      t.homes.lookup uri = some ⟨d, .root⟩) ((registerDocument d).run.run s) := by
  unfold registerDocument
  split
  · rename_i uri huri
    have hext := extends_addHome uri ⟨d, .root⟩ s.homes
    have hown : ∀ t : Session, Extends (addHome uri ⟨d, .root⟩ s.homes) t.homes → ∀ u, d.uri = some u →
        (t.homes.lookup u).isSome ∧ (s.homes.lookup u = none → t.homes.lookup u = some ⟨d, .root⟩) := by
      intro t ht u hu
      rw [huri] at hu
      cases hu
      refine ⟨ht.isSome (isSome_lookup_addHome _ _ _), fun hnone => ht _ _ ?_⟩
      rw [lookup_addHome, hnone, if_pos rfl]
      rfl
    have h := (runs_registerParts : Runs (registering d s) _ _ _) { s with homes := addHome uri ⟨d, .root⟩ s.homes }
      ⟨⟨_, rfl⟩, hext, fun u known h => (eq_of_lookup_addHome h).imp_right fun ⟨hu, hknown⟩ => by
        rw [hu, hknown]
        exact .document huri⟩ fun t ht u hu => (hown t ht u hu).1
    rw [run_bind]
    show (registering d s).Ends s _ ((do
      for (p, schema) in schemaObjects .root d.content do
        registerPart d p schema : Compiling Unit).run.run { s with homes := addHome uri ⟨d, .root⟩ s.homes })
    generalize (do
      for (p, schema) in schemaObjects .root d.content do
        registerPart d p schema : Compiling Unit).run.run { s with homes := addHome uri ⟨d, .root⟩ s.homes } = r at h
    obtain ⟨r, t⟩ := r
    cases r with
    | error e => exact h
    | ok _ =>
      obtain ⟨ht, hlater, hfiled⟩ := h
      exact ⟨ht, hext.trans hlater, fun u hu => ⟨hfiled u hu, fun v hv => (hown u (hlater.trans hu) v hv).2⟩⟩
  · rename_i hnone
    refine (runs_registerParts.strengthen fun t _ uri huri => ?_ : Runs _ (fun _ => True) _ _).weaken (fun _ h => h)
      (fun _ t _ hfiled => ⟨hfiled, fun uri huri => ?_⟩) s ⟨⟨s.homes, rfl⟩, .refl _, fun _ _ h => .inl h⟩ fun _ _ => trivial
    · rw [hnone] at huri
      cases huri
    · rw [hnone] at huri
      cases huri

theorem registers_of_registerDocument {s t : Session} (h : (registerDocument d).run.run s = (.ok (), t)) :
    ∃ homes, d.Registers s.homes homes ∧ t = { s with homes } := by
  have hregistered := run_registerDocument d s
  rw [h] at hregistered
  obtain ⟨⟨⟨homes, rfl⟩, hext, hnew⟩, -, hfiled⟩ := hregistered
  obtain ⟨hfiled, hown⟩ := hfiled.self
  exact ⟨homes, ⟨hext, hnew _ _, hfiled, hown _⟩, rfl⟩

theorem misnamed_of_registerDocument {s t : Session} {e : Failure} (h : (registerDocument d).run.run s = (.error e, t)) :
    d.Misnamed e := by
  have hregistered := run_registerDocument d s
  rw [h] at hregistered
  exact hregistered.1

theorem keeps_register {uri : String} {home : Home}
    (hstock : ∀ cache homes, stock cache homes → stock cache (addHome uri home homes)) :
    Keeps (Session.Sound stock filed) (register uri home) fun _ => True :=
  .modify fun _ hs => ⟨hstock _ _ hs.stock, hs.nodes⟩

theorem keeps_registerPart {p : Pointer} {schema : Value} (hmem : (p, schema) ∈ schemaObjects .root d.content)
    (hstock : ∀ uri home, d.Claims uri home → ∀ cache homes, stock cache homes →
      stock cache (addHome uri home homes)) :
    Keeps (Session.Sound stock filed) (registerPart d p schema) fun _ => True := by
  unfold registerPart
  split
  · rename_i name hname
    split
    · exact .pure trivial
    · rename_i hanchor
      refine (keeps_ofExcept fun _ h => h).bind fun uri huri => ?_
      split
      · rename_i hne
        exact keeps_register (hstock uri _ (.part hmem hname (by simpa using hanchor) huri (by simpa using hne)))
      · exact .pure trivial
  · exact .pure trivial

theorem keeps_registerDocument (hstock : ∀ uri home, d.Claims uri home → ∀ cache homes, stock cache homes →
      stock cache (addHome uri home homes)) :
    Keeps (Session.Sound stock filed) (registerDocument d) fun _ => True := by
  have hparts : Keeps (Session.Sound stock filed) (do
      for (p, schema) in schemaObjects .root d.content do
        registerPart d p schema) fun _ => True := by
    refine (Keeps.forIn fun entry hmem _ => ?_).andThen (.pure trivial)
    exact (keeps_registerPart hmem hstock).andThen (.pure trivial)
  unfold registerDocument
  split
  · rename_i uri huri
    exact (keeps_register (hstock uri _ (.document huri))).andThen hparts
  · exact hparts

end Compiling

/-- What a session comes to when the document under a URI that names nothing yet has been asked for: the document is in the
cache of the loader or has come to it, and it is registered. -/
structure Session.Loads (w : World) (uri : String) (s t : Session) (d : Loaded) : Prop where
  unknown : s.homes.lookup uri = none
  fetched : Loader.Fetched w uri s.loader.cache (.ok d) t.loader.cache
  registers : Document.Registers ⟨uri, some uri, d.value⟩ s.homes t.homes
  rest : ∃ loader homes, t = { s with loader, homes }

/-- How asking for the document under a URI fails: it is not to be had, or a part of it has a name that comes to no URI. -/
inductive Session.LoadFails (w : World) (uri : String) (s : Session) : Failure → Session → Prop where
  | missed {e : Failure} {loader : Loader} (hunknown : s.homes.lookup uri = none)
      (hfetched : Loader.Fetched w uri s.loader.cache (.error e) loader.cache) :
    LoadFails w uri s (Compiling.unresolved uri e) { s with loader }
  | misnamed {d : Loaded} {e : Failure} {cache : List (String × Loaded)} {t : Session}
      (hunknown : s.homes.lookup uri = none) (hfetched : Loader.Fetched w uri s.loader.cache (.ok d) cache)
      (hmisnamed : Document.Misnamed ⟨uri, some uri, d.value⟩ e) (hextends : Extends s.homes t.homes)
      (hnew : ∀ uri' home, t.homes.lookup uri' = some home → s.homes.lookup uri' = some home ∨
        Document.Claims ⟨uri, some uri, d.value⟩ uri' home) : LoadFails w uri s e t

/-- The home that is known under a URI is its home. -/
theorem Scope.run_home_of_known (s : Scope) {uri : String} {t : Session} {home : Home} (hne : uri.isEmpty = false)
    (hknown : t.homes.lookup uri = some home) : (s.home uri).run.run t = (.ok home, t) := by
  have hget : (get : Compiling Session).run.run t = (.ok t, t) := rfl
  unfold Scope.home
  rw [if_neg (by simp [hne]), run_bind, hget]
  dsimp only
  rw [hknown]
  rfl

/-- A document under a URI that names nothing yet is loaded and registered. -/
theorem Scope.run_home_of_unknown (s : Scope) {uri : String} {t : Session} (hne : uri.isEmpty = false)
    (hunknown : t.homes.lookup uri = none) : (s.home uri).run.run t = (do
      let content ← Compiling.resolve s.setup.world uri
      Compiling.registerDocument ⟨uri, some uri, content⟩
      return ⟨⟨uri, some uri, content⟩, .root⟩ : Compiling Home).run.run t := by
  have hget : (get : Compiling Session).run.run t = (.ok t, t) := rfl
  unfold Scope.home
  rw [if_neg (by simp [hne]), run_bind, hget]
  dsimp only
  rw [hunknown]

/-- The home of a URI is the document at hand, one that is known, or a document that is loaded and registered. -/
theorem Scope.runs_home {C : Course Failure Session} {P : Session → Prop} {Q : Home → Session → Prop} {s : Scope}
    {uri : String} (huri : '#' ∉ uri.toList) (hown : uri.isEmpty = true → ∀ t, P t → Q ⟨s.document, .root⟩ t)
    (hknown : uri.isEmpty = false → ∀ t home, C.inv t → P t → t.homes.lookup uri = some home → C.Always t (Q home))
    (hload : uri.isEmpty = false → ∀ t d t', C.inv t → P t → t.Loads s.setup.world uri t' d →
      C.inv t' ∧ C.later t t' ∧ C.Always t' (Q ⟨⟨uri, some uri, d.value⟩, .root⟩))
    (hfails : uri.isEmpty = false → ∀ t e t', C.inv t → P t → t.LoadFails s.setup.world uri e t' → C.fails e t') :
    Runs C P (s.home uri) Q := by
  intro t ht hP
  by_cases hempty : uri.isEmpty = true
  · unfold home
    rw [if_pos hempty]
    exact ⟨ht, C.refl t, fun u hu => hown hempty u (hP u hu)⟩
  · have hempty : uri.isEmpty = false := by simpa using hempty
    -- A URI that is known needs no load; any other is fetched, and its document registered, and both may fail.
    cases hlookup : t.homes.lookup uri with
    | some home =>
      rw [s.run_home_of_known hempty hlookup]
      exact ⟨ht, C.refl t, hknown hempty t home ht hP.self hlookup⟩
    | none =>
      rw [s.run_home_of_unknown hempty hlookup, run_bind, Compiling.run_resolve]
      have hfetched := Loader.run_fetch (w := s.setup.world) (Uri.dropFragment_of_not_mem huri) t.loader
      generalize (Loader.fetch s.setup.world uri).run.run t.loader = result at hfetched
      obtain ⟨result, loader⟩ := result
      cases result with
      | error e => exact hfails hempty t _ _ ht hP.self (.missed hlookup hfetched)
      | ok d =>
        have hregistered := Compiling.run_registerDocument ⟨uri, some uri, d.value⟩ { t with loader }
        simp only [Except.map, Except.mapError]
        rw [run_bind]
        generalize (Compiling.registerDocument ⟨uri, some uri, d.value⟩).run.run { t with loader } = result at hregistered
        obtain ⟨result, t'⟩ := result
        cases result with
        | error e =>
          exact hfails hempty t e t' ht hP.self
            (.misnamed hlookup hfetched hregistered.1 hregistered.2.1 hregistered.2.2)
        | ok _ =>
          obtain ⟨⟨⟨homes, rfl⟩, hext, hnew⟩, -, hfiled⟩ := hregistered
          obtain ⟨hfiled, hown⟩ := hfiled.self
          exact hload hempty t d _ ht hP.self
            ⟨hlookup, hfetched, ⟨hext, hnew _ _, hfiled, hown _⟩, loader, homes, rfl⟩

/-- The home of a URI is the document at hand, one that is known, or a document that is loaded and registered. -/
theorem Scope.keeps_home {stock : Stock} {filed : Place → Node → Prop} {s : Scope} {uri : String} {Q : Home → Prop}
    {P : Value → Prop} (hown : uri.isEmpty = true → Q ⟨s.document, .root⟩)
    (hknown : ∀ cache homes home, stock cache homes → homes.lookup uri = some home → Q home)
    (hload : Keeps (Session.Sound stock filed) (Compiling.resolve s.setup.world uri) P)
    (hloaded : ∀ content, P content → Q ⟨⟨uri, some uri, content⟩, .root⟩ ∧ ∀ uri' home,
      Document.Claims ⟨uri, some uri, content⟩ uri' home → ∀ cache homes, stock cache homes →
        stock cache (addHome uri' home homes)) :
    Keeps (Session.Sound stock filed) (s.home uri) Q := by
  unfold home
  split
  · rename_i hempty
    exact .pure (hown hempty)
  · refine Keeps.get.bind fun session hsession => ?_
    split
    · rename_i home hhome
      exact .pure (hknown _ _ home hsession.stock hhome)
    · refine hload.bind fun content hcontent => ?_
      obtain ⟨hQ, hclaims⟩ := hloaded content hcontent
      exact (Compiling.keeps_registerDocument hclaims).andThen (.pure hQ)

end Conform
