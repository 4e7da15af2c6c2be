import Conform.Compile.Schema
import Conform.Proofs.Compile.Filed
import Mathlib.Logic.Relation

/-!
# Surveys of compilations

A `Survey` tells of a compilation which locations it comes to, where references lead, what the documents at hand are
like and how it may fail.  It is told from the locations that are being compiled, one inside the other: these are the
marked ones of the registry, each of them leads on to the next, and no two of them lie at one place.  A survey need not
tell of the parts of a location that cannot be compiled.  A lawful survey is right about every compilation, of whatever
depth (`Survey.Lawful.runs_compile`): what is compiled is filed, and if the compilation fails it fails as told.
-/

namespace Conform

/-! ### Checks at a location -/

/-- The checks at the location find nothing wrong with it, whatever other locations mean and wherever references
lead. -/
def Passes (setup : Setup) (l : Location) : Prop :=
  (∃ n, Built setup anything anywhere l n) ∧
    ∀ members, l.value = .obj members → l.isReplaced members = false → DescriptionAllowed setup members

/-- What the checks at a location fail with. -/
def Location.Tells (setup : Setup) (l : Location) (e : Failure) : Prop :=
  e = .schema .neither l.base (some l.pointer) ∨ ∃ members, l.value = .obj members ∧
    (Objection setup l members e ∨ ∃ inner, l.Inner members inner ∧ Objection setup inner members e)

/-! ### Surveys -/

/-- What is told of a compilation. -/
structure Survey (setup : Setup) where
  /-- The number of documents without a URI. -/
  anonymous : Nat
  /-- What the documents at hand are like. -/
  stock : Stock
  /-- What may become of the homes of URIs. -/
  grows : List (String × Home) → List (String × Home) → Prop
  grows_refl : ∀ homes, grows homes homes
  grows_trans : ∀ {a b c}, grows a b → grows b c → grows a c
  /-- How the compilation may fail, and in which session. -/
  fails : Failure → Session → Prop
  /-- The locations that the compilation comes to, as far as a session knows. -/
  good : Session → Location → Prop
  /-- The parts of the location are told of. -/
  covers : Location → Prop
  /-- Where references lead, as far as a session knows. -/
  leads : Session → Location → String → Location → Option String → Prop

namespace Survey

variable {setup : Setup} (A : Survey setup)

/-- The node can come to be filed under the place. -/
def filed (s : Session) : Place → Node → Prop := Filed setup (fun l => A.good s l ∧ A.covers l) (A.leads s)

/-- The location is compiled inside those on the way to it, which lead on to it. -/
def Pending (way : List Location) (s : Session) (l : Location) : Prop :=
  A.good s l ∧ ∀ x ∈ way, A.good s x ∧ Relation.TransGen (Location.Goes (A.leads s)) x l

/-- The session is as told, while the locations on the way are being compiled. -/
structure InOrder (way : List Location) (s : Session) : Prop where
  anonymous : s.registry.anonymous = A.anonymous
  stock : A.stock s.loader.cache s.homes
  nodes : ∀ {p n}, s.registry.node? p = some n → ∀ t : Session, A.grows s.homes t.homes → A.filed t p n
  compiling : ∀ p, s.registry.find? p = some .compiling ↔ ∃ x ∈ way, x.place = p

/-- The course of computations while the locations on the way are being compiled. -/
def course (way : List Location) : Course Failure Session where
  inv := A.InOrder way
  later s t := A.grows s.homes t.homes
  fails := A.fails
  refl s := A.grows_refl s.homes
  trans h h' := A.grows_trans h h'

/-- The survey is right about every step of a compilation. -/
structure Lawful : Prop where
  fails_registry : ∀ {e s}, A.fails e s → ∀ registry, A.fails e { s with registry }
  recursion : ∀ {way s l x}, A.InOrder way s → A.Pending way s l → x ∈ way → x.place = l.place →
    A.fails (.schema .recursion l.place.uri? (some l.place.pointer)) s
  refused : ∀ {way s l e}, A.InOrder (l :: way) s → A.Pending way s l → ¬Passes setup l → l.Tells setup e →
    A.fails e s
  sample : ∀ {way s l members n e}, A.InOrder (l :: way) s → A.Pending way s l → l.value = .obj members →
    A.filed s l.place n → Scope.SampleFails setup.options l.pointer members n e → A.fails e s
  good_part : ∀ {s l members inner part}, A.covers l → A.good s l → l.value = .obj members →
    l.isReplaced members = false → l.Inner members inner → part ∈ inner.subschemas members → A.good s part
  uncovered : ∀ {way l} fuel, ¬A.covers l → Runs (A.course (l :: way)) (fun s => A.Pending way s l)
    (build setup (compile setup fuel) l) fun n s => A.filed s l.place n
  name : ∀ {way s l members name uri}, A.InOrder (l :: way) s → (∀ t : Session, A.grows s.homes t.homes → A.good t l) →
    l.value = .obj members → l.isReplaced members = false → lookupKey (.str "$id") members = some (.str name) →
    resolveName l.base name = .ok uri → uri.isEmpty = false → A.stock s.loader.cache (addHome uri ⟨l.document, l.pointer⟩ s.homes) ∧
      A.grows s.homes (addHome uri ⟨l.document, l.pointer⟩ s.homes)
  target : ∀ {way l members inner ref}, l.value = .obj members → l.Inner members inner →
    (.str "$ref", .str ref) ∈ members → ∀ descend, Runs (A.course (l :: way)) (fun s => A.Pending way s l)
      ((inner.scope setup descend members).target ref (inner.pointer.child "$ref"))
      fun t s => A.leads s inner ref t.1 t.2 ∧ A.good s t.1

variable {A} {way : List Location} {l t : Location}

/-! ### The registry on the way -/

theorem InOrder.registry {s : Session} {registry : Registry} {way' : List Location} (hs : A.InOrder way s)
    (hanonymous : registry.anonymous = s.registry.anonymous)
    (hnodes : ∀ p n, registry.node? p = some n → s.registry.node? p = some n ∨
      ∀ t : Session, A.grows s.homes t.homes → A.filed t p n)
    (hcompiling : ∀ p, registry.find? p = some .compiling ↔ ∃ x ∈ way', x.place = p) :
    A.InOrder way' { s with registry } where
  anonymous := hanonymous.trans hs.anonymous
  stock := hs.stock
  nodes {p n} hn := (hnodes p n hn).elim hs.nodes fun h => h
  compiling := hcompiling

/-- While nothing has been compiled a session is in order if its stock is. -/
theorem InOrder.of_entries {s : Session} (h : s.registry.entries = []) (hanonymous : s.registry.anonymous = A.anonymous)
    (hstock : A.stock s.loader.cache s.homes) : A.InOrder [] s where
  anonymous := hanonymous
  stock := hstock
  nodes {p n} hn := by
    simp [Registry.node?, Registry.find?, h] at hn
  compiling p := by
    constructor
    · intro hfind
      simp [Registry.find?, h] at hfind
    · rintro ⟨x, hx, -⟩
      cases hx

theorem InOrder.mark {s : Session} (hs : A.InOrder way s) :
    A.InOrder (l :: way) { s with registry := s.registry.mark l.place } := by
  refine hs.registry rfl (fun p n hn => .inl (Registry.node?_of_mark hn)) fun p => ?_
  rw [Registry.mark, Registry.find?_set]
  constructor
  · intro h
    split at h
    · exact ⟨l, by simp, Eq.symm ‹_›⟩
    · obtain ⟨x, hx, hp⟩ := (hs.compiling p).1 h
      exact ⟨x, List.mem_cons_of_mem _ hx, hp⟩
  · rintro ⟨x, hx, rfl⟩
    split
    · rfl
    · rcases List.mem_cons.1 hx with rfl | hx
      · exact absurd rfl ‹_›
      · exact (hs.compiling _).2 ⟨x, hx, rfl⟩

theorem InOrder.store {s : Session} {n : Node} (hs : A.InOrder (l :: way) s) (hl : l.place ∉ way.map Location.place)
    (hn : ∀ t : Session, A.grows s.homes t.homes → A.filed t l.place n) :
    A.InOrder way { s with registry := s.registry.store l.place n } := by
  refine hs.registry rfl (fun p m hm => ?_) fun p => ?_
  · rw [Registry.node?_store] at hm
    split at hm
    · cases hm
      subst p
      exact .inr hn
    · exact .inl hm
  · rw [Registry.store, Registry.find?_set]
    constructor
    · intro h
      split at h
      · cases h
      · obtain ⟨x, hx, hp⟩ := (hs.compiling p).1 h
        rcases List.mem_cons.1 hx with rfl | hx
        · exact absurd hp.symm ‹_›
        · exact ⟨x, hx, hp⟩
    · rintro ⟨x, hx, rfl⟩
      -- The mark of `l` is gone, and no other location that is under way has its place.
      have hne : x.place ≠ l.place := fun h => hl (h ▸ List.mem_map_of_mem hx)
      rw [if_neg hne]
      exact (hs.compiling _).2 ⟨x, List.mem_cons_of_mem _ hx, rfl⟩

theorem InOrder.not_mem {s : Session} (hs : A.InOrder way s) {p : Place} (hp : s.registry.find? p = none) :
    p ∉ way.map Location.place := by
  intro h
  obtain ⟨x, hx, heq⟩ := List.mem_map.1 h
  rw [(hs.compiling p).2 ⟨x, hx, heq⟩] at hp
  cases hp

theorem Pending.on {s : Session} (h : A.Pending way s l) (hgo : l.Goes (A.leads s) t) (ht : A.good s t) :
    A.Pending (l :: way) s t := by
  refine ⟨ht, fun x hx => ?_⟩
  rcases List.mem_cons.1 hx with rfl | hx
  · exact ⟨h.1, .single hgo⟩
  · exact ⟨(h.2 x hx).1, (h.2 x hx).2.tail hgo⟩

end Survey

/-! ### Getting a location or creating it -/

theorem Compiling.run_compiled? (p : Place) (s : Session) : (compiled? p).run.run s =
    match s.registry.find? p with
    | some .compiling => (.error p.recursion, s)
    | some (.done n) => ((p.hit n).map some, s)
    | none => (.ok none, s) := by
  have hrun : (compiled? p).run.run s = (match s.registry.find? p with
      | some .compiling => throw p.recursion
      | some (.done node) => return some (← ofExcept (p.hit node))
      | none => return none : Compiling (Option Node)).run.run s := rfl
  rw [hrun]
  split
  · rfl
  · rename_i n _
    rw [run_bind, run_ofExcept]
    cases p.hit n <;> rfl
  · rfl

theorem Compiling.run_getOrCreate (p : Place) (build : Compiling Node) (s : Session) : (getOrCreate p build).run.run s =
    match s.registry.find? p with
    | some .compiling => (.error p.recursion, s)
    | some (.done n) => (p.hit n, s)
    | none =>
      match build.run.run { s with registry := s.registry.mark p } with
      | (.ok n, t) => (.ok n, { t with registry := t.registry.store p n })
      | (.error e, t) => (.error e, { t with registry := t.registry.discard p }) := by
  -- The case of a place with nothing filed: mark, build, and then discard the mark or store the node.
  have hcreate : ∀ s, (do
      modifyRegistry (·.mark p)
      let node ← tryCatch build fun e => do
        modifyRegistry (·.discard p)
        throw e
      modifyRegistry (·.store p node)
      return node : Compiling Node).run.run s =
      match build.run.run { s with registry := s.registry.mark p } with
      | (.ok n, t) => (.ok n, { t with registry := t.registry.store p n })
      | (.error e, t) => (.error e, { t with registry := t.registry.discard p }) := by
    intro s
    rw [run_bind]
    have hmark : (modifyRegistry (·.mark p)).run.run s = (.ok (), { s with registry := s.registry.mark p }) := rfl
    rw [hmark]
    dsimp only
    rw [run_bind, run_tryCatch]
    generalize build.run.run { s with registry := s.registry.mark p } = r
    obtain ⟨r, t⟩ := r
    cases r <;> rfl
  unfold getOrCreate
  rw [run_bind, run_compiled?]
  cases s.registry.find? p with
  | none => exact hcreate s
  | some state =>
    cases state with
    | compiling => rfl
    | done n =>
      dsimp only
      cases p.hit n <;> rfl

/-- A location that has been compiled gives its node, and one that refers to itself fails under its URI and pointer. -/
theorem Compiling.run_getOrCreate_place (l : Location) (build : Compiling Node) (s : Session) :
    (getOrCreate l.place build).run.run s =
    match s.registry.find? l.place with
    | some .compiling => (.error (.schema .recursion l.place.uri? (some l.place.pointer)), s)
    | some (.done n) => (.ok n, s)
    | none =>
      match build.run.run { s with registry := s.registry.mark l.place } with
      | (.ok n, t) => (.ok n, { t with registry := t.registry.store l.place n })
      | (.error e, t) => (.error e, { t with registry := t.registry.discard l.place }) := by
  rw [run_getOrCreate, Place.recursion_of_isPlain l.isPlain_place]
  simp only [Place.hit_of_isPlain l.isPlain_place]

namespace Survey.Lawful

variable {setup : Setup} {A : Survey setup} {way : List Location} {l : Location}

/-- A location that is asked for is found, or it is built and filed. -/
theorem runs_getOrCreate (hA : A.Lawful) {build : Compiling Node}
    (hbuild : l.place ∉ way.map Location.place → Runs (A.course (l :: way)) (fun s => A.Pending way s l) build
      fun n s => A.filed s l.place n) :
    Runs (A.course way) (fun s => A.Pending way s l) (Compiling.getOrCreate l.place build)
      fun n s => A.filed s l.place n := by
  intro s hs hP
  rw [Compiling.run_getOrCreate_place]
  cases hfind : s.registry.find? l.place with
  | some state =>
    cases state with
    | compiling =>
      obtain ⟨x, hx, hplace⟩ := (hs.compiling l.place).1 hfind
      exact hA.recursion hs hP.self hx hplace
    | done n => exact ⟨hs, A.grows_refl _, fun t ht => hs.nodes (Registry.find?_eq_done.1 hfind) t ht⟩
  | none =>
    have hl := hs.not_mem hfind
    have h := hbuild hl { s with registry := s.registry.mark l.place } hs.mark hP
    dsimp only
    generalize build.run.run { s with registry := s.registry.mark l.place } = r at h
    obtain ⟨r, t⟩ := r
    cases r with
    | error e => exact hA.fails_registry h _
    | ok n =>
      obtain ⟨ht, hgrows, hfiled⟩ := h
      exact ⟨ht.store hl hfiled, hgrows, hfiled⟩

/-! ### Compiling -/

theorem runs_build (hA : A.Lawful) {descend : Location → Compiling Node} (hl : A.covers l)
    (hd : ∀ t, Runs (A.course (l :: way)) (fun s => A.Pending (l :: way) s t) (descend t) fun n s => A.filed s t.place n) :
    Runs (A.course (l :: way)) (fun s => A.Pending way s l) (build setup descend l) fun n s => A.filed s l.place n := by
  unfold build
  split
  · rename_i allows hvalue
    refine .pure fun s hP => .of_built ⟨hP.1, hl⟩ ?_
    rw [Built, hvalue]
    rfl
  · rename_i members hvalue
    have hbuilt : ∀ {means leads n}, ObjectOf setup means leads l members n → Built setup means leads l n := by
      intro means leads n h
      rw [Built, hvalue]
      exact h
    refine (Scope.runs_object (fun s t m => A.filed s t.place m) A.leads (C := A.course (l :: way))
      (fun s loader hs hcache => ⟨⟨hs.anonymous, ?_, hs.nodes, hs.compiling⟩, A.grows_refl _⟩)
      (fun s examples defaults hs => ⟨⟨hs.anonymous, hs.stock, hs.nodes, hs.compiling⟩, A.grows_refl _⟩)
      (fun hreplaced s name uri hs hP hid huri hne => ?_) (fun s e hs hP hcan he => ?_) (fun s n e hs hP hn he => ?_)
      (fun hreplaced inner hinner part hpart => ?_) fun inner hinner value hmem href => ?_).weaken (fun _ h => h)
      fun n s hP hn => .of_built ⟨hP.1, hl⟩ (hbuilt hn)
    · rw [hcache]
      exact hs.stock
    · obtain ⟨hstock, hgrows⟩ := hA.name hs (fun t ht => (hP t ht).1) hvalue hreplaced hid huri hne
      refine ⟨⟨hs.anonymous, hstock, fun hn t ht => ?_, hs.compiling⟩, hgrows⟩
      exact hs.nodes hn t (A.grows_trans hgrows ht)
    · refine hA.refused hs hP (fun hpasses => hcan ?_) (.inr ⟨members, hvalue, he⟩)
      obtain ⟨⟨n, hn⟩, hallowed⟩ := hpasses
      rw [Built, hvalue] at hn
      exact ⟨⟨n, hn⟩, hallowed members hvalue⟩
    · exact hA.sample hs hP hvalue (.of_built ⟨hP.1, hl⟩ (hbuilt hn)) he
    · refine (hd part).strengthen fun s hP => hP.on (.part hvalue hreplaced hinner hpart) ?_
      exact hA.good_part hl hP.1 hvalue hreplaced hinner hpart
    · refine Scope.runs_reference _ _ A.good hmem href (fun ref href => ?_) fun ref t fragment href => ?_
      · subst href
        exact hA.target hvalue hinner hmem _
      · subst href
        exact (hd t).strengthen fun s hP => hP.1.on (.reference hvalue hinner hmem hP.2.1) hP.2.2
  · rename_i hbool hobj
    refine .throw fun s hs hP => hA.refused hs hP.self (fun hpasses => ?_) (.inl rfl)
    obtain ⟨⟨n, hn⟩, -⟩ := hpasses
    unfold Built at hn
    split at hn
    · exact hbool _ ‹_›
    · exact hobj _ ‹_›
    · exact hn

/-- What is compiled is filed, and a compilation fails as the survey tells.  It need not be allowed to go deeper than the
locations that can be on the way. -/
theorem runs_compile (hA : A.Lawful) {depth : Nat}
    (hdepth : ∀ way s, (way.map Location.place).Nodup → way.length = depth → A.InOrder way s →
      (∀ x ∈ way, A.good s x) → A.fails .endless s)
    (fuel : Nat) (hway : (way.map Location.place).Nodup) (hlength : way.length + fuel = depth) :
    Runs (A.course way) (fun s => A.Pending way s l) (compile setup fuel l) fun n s => A.filed s l.place n := by
  induction fuel generalizing way l with
  | zero =>
    refine .throw fun s hs hP => hdepth way s hway (by omega) hs fun x hx => (hP.self.2 x hx).1
  | succ fuel ih =>
    refine hA.runs_getOrCreate fun hl => ?_
    by_cases hcovers : A.covers l
    · refine hA.runs_build hcovers fun t => ih ?_ ?_
      · rw [List.map_cons, List.nodup_cons]
        exact ⟨hl, hway⟩
      · rw [List.length_cons]
        omega
    · exact hA.uncovered fuel hcovers

end Survey.Lawful

end Conform
