import Conform.Proofs.Compile.Kept
import Conform.Proofs.Compile.Ledger
import Conform.Proofs.Compile.Parallel

/-!
# Self-checks only observe

A compilation is run twice: as it is set up, and without self-checks (`Setup.unchecked`).  To build a location is to build
it without self-checks and to check its samples then (`build_eq`), so the two runs go side by side as long as the samples
can be evaluated (`Observes`): the second tells which locations are completed, and the first ends as the second does,
apart from what it has noted of the samples of these.  A location that is found in the registry is not completed again,
and what is completed before a failure stays so.
-/

namespace Conform

/-- The setup in which no samples are checked. -/
def Setup.unchecked (setup : Setup) : Setup :=
  { setup with options := { setup.options with checkExamples := false, checkDefaults := false } }

/-! ### Samples -/

namespace Location

/-- The samples of a location that are checked, with their own locations: its examples, then its default. -/
def samples (setup : Setup) (l : Location) : List (Pointer × Value) := l.examples setup ++ l.defaults setup

/-- Every sample of the location can be evaluated with the node. -/
def Evaluates (setup : Setup) (l : Location) (n : Node) : Prop :=
  ∀ sample ∈ l.samples setup, ∃ f, n.findings sample.2 n.site.path sample.1 = .ok f

/-- The self-checks of a location. -/
def selfCheck (setup : Setup) (l : Location) (n : Node) : Compiling Unit :=
  match l.value with
  | .obj members =>
    if l.isReplaced members then pure () else (l.scope setup (fun _ => throw .endless) members).selfCheck n
  | _ => pure ()

variable {setup : Setup} {l : Location} {members : List (Scalar × Value)} {n : Node}

/-- The location is an object whose samples count, or it is none. -/
private theorem checked_or (l : Location) : (∃ members, l.value = .obj members ∧ l.isReplaced members = false) ∨
    ∀ members, l.value = .obj members → l.isReplaced members = true := by
  refine or_iff_not_imp_left.2 fun hnone members hvalue => ?_
  by_contra hreplaced
  exact hnone ⟨members, hvalue, by simpa using hreplaced⟩

private theorem samples_eq_nil (h : ∀ members, l.value = .obj members → l.isReplaced members = true) :
    l.samples setup = [] := by
  unfold samples examples defaults
  split
  · rw [h _ ‹_›]
    simp
  · rfl

theorem selfCheck_eq_pure (h : ∀ members, l.value = .obj members → l.isReplaced members = true) :
    l.selfCheck setup n = pure () := by
  unfold selfCheck
  split
  · rw [if_pos (h _ ‹_›)]
  · rfl

theorem selfCheck_eq (descend : Location → Compiling Node) (hvalue : l.value = .obj members)
    (hreplaced : l.isReplaced members = false) :
    l.selfCheck setup n = (l.scope setup descend members).selfCheck n := by
  unfold selfCheck
  rw [hvalue]
  dsimp only
  rw [hreplaced]
  rfl

/-- The samples of a location are those of its object, unless a reference replaces it. -/
theorem mem_samples {p : Pointer} {v : Value} : (p, v) ∈ l.samples setup ↔
    ∃ members, l.value = .obj members ∧ l.isReplaced members = false ∧
      Scope.SampleOf setup.options l.pointer members p v := by
  rcases l.checked_or with ⟨members, hvalue, hreplaced⟩ | hnone
  · have hexamples : l.examples setup = if setup.options.checkExamples then
        (l.scope setup (fun _ => throw .endless) members).samples else [] := by
      simp only [examples, hvalue, hreplaced, Bool.not_false, Bool.and_true]
    have hdefaults : l.defaults setup = if setup.options.checkDefaults then
        ((lookupKey (.str "default") members).map fun v => (l.pointer.child "default", v)).toList else [] := by
      simp only [defaults, hvalue, hreplaced, Bool.not_false, Bool.and_true]
    rw [samples, List.mem_append, hexamples, hdefaults]
    constructor
    · rintro (h | h)
      · split at h
        · exact ⟨members, hvalue, hreplaced, Scope.sampleOf_of_mem ‹_› h⟩
        · cases h
      · split at h
        · obtain ⟨w, hw, heq⟩ := Option.map_eq_some_iff.1 (Option.mem_toList.1 h)
          cases heq
          exact ⟨members, hvalue, hreplaced, .default ‹_› hw⟩
        · cases h
    · rintro ⟨members', hvalue', -, h⟩
      cases hvalue.symm.trans hvalue'
      -- A sample is the value of `example`, one of those of `examples`, or the default.
      rcases h with ⟨hon, hv⟩ | ⟨hon, hvs, hv⟩ | ⟨hon, hv⟩
      · rw [if_pos hon]
        refine .inl (List.mem_append_left _ ?_)
        exact Option.mem_toList.2 (Option.map_eq_some_iff.2 ⟨v, hv, rfl⟩)
      · rw [if_pos hon]
        have hvs' : lookupKey (.str "examples") (l.scope setup (fun _ => throw .endless) members).members = _ := hvs
        refine .inl (List.mem_append_right _ ?_)
        rw [hvs']
        exact List.mem_map.2 ⟨(v, _), List.mem_zipIdx_iff_getElem?.2 hv, rfl⟩
      · rw [if_pos hon]
        exact .inr (Option.mem_toList.2 (Option.map_eq_some_iff.2 ⟨v, hv, rfl⟩))
  · rw [samples_eq_nil hnone]
    constructor
    · intro h
      cases h
    · rintro ⟨members, hvalue, hreplaced, -⟩
      rw [hnone members hvalue] at hreplaced
      cases hreplaced

/-- A sample of a location lies at its own location in the document. -/
theorem Sits.sample (hl : l.Sits) {sample : Pointer × Value} (h : sample ∈ l.samples setup) :
    Pointer.Leads l.document.content sample.1 sample.2 := by
  obtain ⟨p, v⟩ := sample
  obtain ⟨members, hvalue, -, hsample⟩ := mem_samples.1 h
  unfold Sits at hl
  rw [hvalue] at hl
  have hmember : ∀ {name v}, lookupKey (.str name) members = some v →
      Pointer.Leads l.document.content (l.pointer.child name) v :=
    fun hv => .member (k := .str _) hl (mem_of_lookupKey hv)
  rcases hsample with ⟨-, hv⟩ | ⟨-, hvs, hv⟩ | ⟨-, hv⟩
  · exact hmember hv
  · exact .item (hmember hvs) (Pointer.index?_toString _) hv
  · exact hmember hv

/-- Where every sample can be evaluated, what is wrong with them is noted. -/
theorem run_selfCheck (h : l.Evaluates setup n) (s : Session) :
    (l.selfCheck setup n).run.run s = (.ok (), s.noting setup l n) := by
  rcases l.checked_or with ⟨members, hvalue, hreplaced⟩ | hnone
  · rw [selfCheck_eq (fun _ => throw .endless) hvalue hreplaced]
    have hruns : Runs ((Course.keeping fun _ => True).failing fun e _ =>
        Scope.SampleFails setup.options l.pointer members n e) (fun _ => True)
        ((l.scope setup (fun _ => throw .endless) members).selfCheck n) fun _ _ => True :=
      Scope.runs_selfCheck (fun _ _ _ _ => ⟨trivial, trivial⟩) fun _ _ _ _ he => he
    -- A self-check fails only on a sample that cannot be evaluated.
    have hend := hruns s trivial fun _ _ => trivial
    generalize hrun : (Scope.selfCheck _ n).run.run s = r at hend
    obtain ⟨r, t⟩ := r
    cases r with
    | error e =>
      obtain ⟨p, v, fault, hsample, hfault, -⟩ := hend
      obtain ⟨f, hf⟩ := h (p, v) (mem_samples.2 ⟨members, hvalue, hreplaced, hsample⟩)
      cases hf.symm.trans hfault
    | ok u => rw [Scope.run_selfCheck hvalue hreplaced hrun]
  · have hnil : l.samples setup = [] := samples_eq_nil hnone
    obtain ⟨hexamples, hdefaults⟩ := List.append_eq_nil_iff.1 hnil
    have hidle : s.noting setup l n = s := by simp [Session.noting, hexamples, hdefaults, Node.faultsIn]
    rw [selfCheck_eq_pure hnone, hidle]
    rfl

end Location

/-! ### Building without self-checks -/

namespace Scope

variable {setup : Setup} {descend : Location → Compiling Node} {l : Location} {members : List (Scalar × Value)}

/-- Where no samples are checked, a schema object is built unchecked. -/
private theorem group_unchecked : (l.scope setup.unchecked descend members).group =
    (l.scope setup.unchecked descend members).unchecked := by
  have hcheck : ∀ n, (l.scope setup.unchecked descend members).selfCheck n = pure () := fun _ => rfl
  simp only [group_eq, hcheck, pure_bind, bind_pure]

private theorem objectAt_eq (hvalue : l.value = .obj members) : objectAt setup descend l members =
    objectAt setup.unchecked descend l members >>= fun n => l.selfCheck setup n >>= fun _ => pure n := by
  unfold objectAt
  split
  · rename_i ref hdialect href
    have hreplaced : l.isReplaced members = true := by simp [Location.isReplaced, hasKey, hdialect, href]
    have hcheck : ∀ n, l.selfCheck setup n = pure () := by
      intro n
      refine Location.selfCheck_eq_pure fun ms hms => ?_
      cases hvalue.symm.trans hms
      exact hreplaced
    simp only [hcheck, pure_bind, bind_pure]
    rfl
  · rename_i hne
    have hreplaced : l.isReplaced members = false := Location.isReplaced_eq_false hne
    have hbase : (l.scope setup descend members).ownBase = (l.scope setup.unchecked descend members).ownBase := rfl
    rw [enter_eq, enter_eq, bind_assoc, bind_assoc, bind_assoc, hbase]
    congr 1
    funext base
    rw [pure_bind, pure_bind]
    -- The base in force inside an object makes no difference to its samples.
    have hcheck : ∀ n, l.selfCheck setup n = (({ l with base } : Location).scope setup descend members).selfCheck n := by
      intro n
      rw [Location.selfCheck_eq descend hvalue hreplaced]
      rfl
    have hgroup : (({ l with base } : Location).scope setup.unchecked descend members).group =
        (({ l with base } : Location).scope setup descend members).unchecked := group_unchecked
    simp only [hcheck]
    exact (group_eq _).trans (congrArg (· >>= _) hgroup.symm)

end Scope

/-- To build a location is to build it without self-checks and to check its samples then. -/
theorem build_eq (setup : Setup) (descend : Location → Compiling Node) (l : Location) : build setup descend l =
    build setup.unchecked descend l >>= fun n => l.selfCheck setup n >>= fun _ => pure n := by
  unfold build
  split
  · rename_i hvalue
    have hcheck : ∀ n, l.selfCheck setup n = pure () := by
      intro n
      refine Location.selfCheck_eq_pure fun ms hms => ?_
      cases hvalue.symm.trans hms
    simp only [hcheck, pure_bind]
  · rename_i members hvalue
    -- The self-checks come last in an object, so the rest is the same with and without them.
    have hobject : ∀ setup : Setup, (l.scope setup descend members).object =
        if hasKey (.str "$schema") members && !l.pointer.isRoot then
          throw (.schema .nestedDialect l.base (some (l.pointer.child "$schema"))) >>= fun _ : PUnit =>
            Scope.objectAt setup descend l members
        else Scope.objectAt setup descend l members := fun _ => rfl
    show (l.scope setup descend members).object = (l.scope setup.unchecked descend members).object >>= _
    rw [hobject, hobject, Scope.objectAt_eq hvalue]
    split
    · rw [bind_assoc]
    · rfl
  · rfl

/-! ### What a run completes -/

namespace Session

/-- The session after what is wrong with the samples of the locations has been noted, one after another. -/
def noted (s : Session) (setup : Setup) (built : List (Location × Node)) : Session :=
  { s with
    examples := s.examples ++ built.flatMap fun b => b.2.faultsIn (b.1.examples setup)
    defaults := s.defaults ++ built.flatMap fun b => b.2.faultsIn (b.1.defaults setup) }

/-- From the first session to the second these locations are completed, first to last, and of each this is told; nothing
is noted. -/
structure Completes (tells : Location → Node → Prop) (built : List (Location × Node)) (s t : Session) : Prop where
  single : t.registry.IsSingle
  nodes : t.registry.nodes = (built.map fun b => (b.1.place, b.2)).reverse ++ s.registry.nodes
  /-- What is being compiled still is. -/
  marked : ∀ p, s.registry.find? p = some .compiling → t.registry.find? p = some .compiling
  told : ∀ b ∈ built, tells b.1 b.2
  examples : t.examples = s.examples
  defaults : t.defaults = s.defaults

variable {tells : Location → Node → Prop} {built built' : List (Location × Node)} {s t u : Session}

theorem noted_nil (s : Session) (setup : Setup) : s.noted setup [] = s := by simp [noted]

theorem noted_append (s : Session) (setup : Setup) (built built' : List (Location × Node)) :
    s.noted setup (built ++ built') = (s.noted setup built).noted setup built' := by
  simp [noted, List.flatMap_append]

theorem noting_eq (s : Session) (setup : Setup) (l : Location) (n : Node) :
    s.noting setup l n = s.noted setup [(l, n)] := by simp [noted, noting]

theorem Completes.nil (hs : s.registry.IsSingle) (h : t.registry.entries = s.registry.entries)
    (hexamples : t.examples = s.examples) (hdefaults : t.defaults = s.defaults) : Completes tells [] s t where
  single := by
    rw [Registry.IsSingle, h]
    exact hs
  nodes := by
    rw [Registry.nodes, h]
    rfl
  marked p hp := by
    rw [Registry.find?, h]
    exact hp
  told b hb := by cases hb
  examples := hexamples
  defaults := hdefaults

theorem Completes.trans (h : Completes tells built s t) (h' : Completes tells built' t u) :
    Completes tells (built ++ built') s u where
  single := h'.single
  nodes := by rw [h'.nodes, h.nodes, List.map_append, List.reverse_append, List.append_assoc]
  marked p hp := h'.marked p (h.marked p hp)
  told b hb := (List.mem_append.1 hb).elim (h.told b) (h'.told b)
  examples := h'.examples.trans h.examples
  defaults := h'.defaults.trans h.defaults

theorem Completes.imp {tells' : Location → Node → Prop} (h : Completes tells built s t)
    (himp : ∀ l n, tells l n → tells' l n) : Completes tells' built s t :=
  { h with told := fun b hb => himp _ _ (h.told b hb) }

/-- A location is completed once, and none that was there before. -/
theorem Completes.once (h : Completes tells built s t) : (built.map (·.1.place)).Nodup ∧
    ∀ b ∈ built, b.1.place ∉ s.registry.nodes.map (·.1) := by
  have hnodup := Registry.nodup_nodes h.single
  rw [h.nodes, List.map_append, List.map_reverse, List.map_map, List.nodup_append, List.nodup_reverse] at hnodup
  refine ⟨hnodup.1, fun b hb hold => hnodup.2.2 _ ?_ _ hold rfl⟩
  exact List.mem_reverse.2 (List.mem_map_of_mem hb)

/-- While a location is being compiled its mark is in the registry, and those that are completed are not lost with it. -/
theorem Completes.unmark {p : Place} (hp : s.registry.find? p = none)
    (h : Completes tells built { s with registry := s.registry.mark p } t) :
    Completes tells built s { t with registry := t.registry.discard p } where
  single := Registry.isSingle_discard h.single
  nodes := by
    have hmark := h.marked p (by rw [Registry.mark, Registry.find?_set, if_pos rfl])
    exact (Registry.nodes_discard h.single hmark).trans (h.nodes.trans (by rw [Registry.nodes_mark hp]))
  marked q hq := by
    have hne : q ≠ p := by
      rintro rfl
      rw [hp] at hq
      cases hq
    show (t.registry.discard p).find? q = some .compiling
    rw [Registry.find?_discard, if_neg hne]
    exact h.marked q (by rw [Registry.mark, Registry.find?_set, if_neg hne, hq])
  told := h.told
  examples := h.examples
  defaults := h.defaults

theorem Completes.store {l : Location} {n : Node} (hl : s.registry.find? l.place = none) (hn : tells l n)
    (h : Completes tells built { s with registry := s.registry.mark l.place } t) :
    Completes tells (built ++ [(l, n)]) s { t with registry := t.registry.store l.place n } where
  single := Registry.isSingle_set h.single _
  nodes := by
    have hmark := h.marked l.place (by rw [Registry.mark, Registry.find?_set, if_pos rfl])
    have hnodes : t.registry.nodes = (built.map fun b => (b.1.place, b.2)).reverse ++ s.registry.nodes :=
      h.nodes.trans (by rw [Registry.nodes_mark hl])
    rw [List.map_append, List.reverse_append, List.append_assoc, ← hnodes]
    exact Registry.nodes_store h.single hmark
  marked q hq := by
    have hne : q ≠ l.place := by
      rintro rfl
      rw [hl] at hq
      cases hq
    show (t.registry.store l.place n).find? q = some .compiling
    rw [Registry.store, Registry.find?_set, if_neg hne]
    exact h.marked q (by rw [Registry.mark, Registry.find?_set, if_neg hne, hq])
  told b hb := by
    rcases List.mem_append.1 hb with hb | hb
    · exact h.told b hb
    · cases List.mem_singleton.1 hb
      exact hn
  examples := h.examples
  defaults := h.defaults

/-- What has been noted before stays noted. -/
theorem Completes.run_noted {α : Type} {setup : Setup} {x : Compiling α} {r : Except Failure α}
    (h : Completes tells built s t) (hx : ∀ examples defaults, x.run.run { s with examples, defaults } =
      (r, ({ t with examples, defaults } : Session).noted setup built)) (past : List (Location × Node)) :
    x.run.run (s.noted setup past) = (r, t.noted setup (past ++ built)) := by
  refine (hx _ _).trans ?_
  rw [noted_append, ← h.examples, ← h.defaults]
  rfl

end Session

/-! ### Running side by side -/

/-- The computation gathers documents: what has been compiled and noted is nothing to it. -/
def Gathers {α : Type} (x : Compiling α) : Prop :=
  ∀ s : Session, ∃ r loader anonymous homes, Extends s.homes homes ∧ ∀ examples defaults,
    x.run.run { s with examples, defaults } =
      (r, { s with loader, registry := { s.registry with anonymous }, homes, examples, defaults })

/-- Where this holds, the first computation runs as the second, which is run without self-checks, apart from what it notes
of the locations that are completed: of each of these this is told. -/
structure Observes {α : Type} (setup : Setup) (tells : Location → Node → Prop) (final : Session) (P : Prop)
    (x y : Compiling α) : Prop where
  grows : ∀ s : Session, Extends s.homes (y.run.run s).2.homes
  agrees : P → ∀ s : Session, s.registry.IsSingle → Extends (y.run.run s).2.homes final.homes →
    ∃ built, s.Completes tells built (y.run.run s).2 ∧ ((∀ b ∈ built, b.1.Evaluates setup b.2) → ∀ examples defaults,
      x.run.run { s with examples, defaults } =
        ((y.run.run s).1, ({ (y.run.run s).2 with examples, defaults } : Session).noted setup built))

namespace Observes

variable {α β : Type} {setup : Setup} {tells : Location → Node → Prop} {final : Session} {P P' : Prop} {x y : Compiling α}
  {f g : α → Compiling β}

theorem weaken (h : Observes setup tells final P x y) (hP : P' → P) : Observes setup tells final P' x y :=
  ⟨h.grows, fun hp => h.agrees (hP hp)⟩

theorem imp {tells' : Location → Node → Prop} (h : Observes setup tells final P x y)
    (himp : ∀ l n, tells l n → tells' l n) : Observes setup tells' final P x y := by
  refine ⟨h.grows, fun hP s hs hext => ?_⟩
  obtain ⟨built, hbuilt, hx⟩ := h.agrees hP s hs hext
  exact ⟨built, hbuilt.imp himp, hx⟩

theorem of_gathers (hx : Gathers x) : Observes setup tells final P x x := by
  refine ⟨fun s => ?_, fun _ s hs _ => ?_⟩
  · obtain ⟨r, loader, anonymous, homes, hext, hrun⟩ := hx s
    have hrun : x.run.run s = _ := hrun s.examples s.defaults
    rw [hrun]
    exact hext
  · obtain ⟨r, loader, anonymous, homes, -, hrun⟩ := hx s
    have hown : x.run.run s = _ := hrun s.examples s.defaults
    rw [hown]
    refine ⟨[], .nil hs rfl rfl rfl, fun _ examples defaults => ?_⟩
    rw [Session.noted_nil]
    exact hrun examples defaults

/-- What is run may depend on the session, apart from what has been noted. -/
theorem of_runs (h : ∀ s : Session, ∃ x' y', Observes setup tells final P x' y' ∧ y.run.run s = y'.run.run s ∧
      ∀ examples defaults, x.run.run { s with examples, defaults } = x'.run.run { s with examples, defaults }) :
    Observes setup tells final P x y := by
  refine ⟨fun s => ?_, fun hP s hs => ?_⟩
  · obtain ⟨x', y', h', hy, -⟩ := h s
    rw [hy]
    exact h'.grows s
  · obtain ⟨x', y', h', hy, hx⟩ := h s
    simp only [hy, hx]
    exact h'.agrees hP s hs

/-- One computation after another: the second rests on what the first can give, and on what it has given at last. -/
theorem bindWith (hx : Observes setup tells final P x y)
    (hf : ∀ a, (∃ t, (y.run.run t).1 = .ok a) → Observes setup tells final
      (P ∧ ∃ t t', y.run.run t = (.ok a, t') ∧ Extends t'.homes final.homes) (f a) (g a)) :
    Observes setup tells final P (x >>= f) (y >>= g) := by
  refine ⟨fun s => ?_, fun hP s hs hext => ?_⟩
  · have h := hx.grows s
    rw [run_bind]
    generalize hr : y.run.run s = r at h
    obtain ⟨r, t⟩ := r
    cases r with
    | error e => exact h
    | ok a => exact h.trans ((hf a ⟨s, congrArg Prod.fst hr⟩).grows t)
  · have h := hx.agrees hP s hs
    rw [run_bind] at hext ⊢
    generalize hr : y.run.run s = r at h hext
    obtain ⟨r, t⟩ := r
    cases r with
    | error e =>
      -- Where the first fails the second is not run, and what has been completed by then stays so.
      obtain ⟨built, hbuilt, hx'⟩ := h hext
      refine ⟨built, hbuilt, fun heval examples defaults => ?_⟩
      rw [run_bind, hx' heval]
    | ok a =>
      have hrest := hf a ⟨s, congrArg Prod.fst hr⟩
      have hlast := (hrest.grows t).trans hext
      obtain ⟨built, hbuilt, hx'⟩ := h hlast
      obtain ⟨built', hbuilt', hf'⟩ := hrest.agrees ⟨hP, s, t, hr, hlast⟩ t hbuilt.single hext
      refine ⟨built ++ built', hbuilt.trans hbuilt', fun heval examples defaults => ?_⟩
      rw [run_bind, hx' fun b hb => heval b (List.mem_append_left _ hb), Session.noted_append]
      exact hf' (fun b hb => heval b (List.mem_append_right _ hb)) _ _

/-- To look where a location has been compiled, to compile it and to check its samples is to look and to compile it. -/
theorem getOrCreate {l : Location} {x y : Compiling Node} (hbuild : Observes setup tells final P x y)
    (htold : P → ∀ s t n, y.run.run s = (.ok n, t) → tells l n) :
    Observes setup tells final P (Compiling.getOrCreate l.place (x >>= fun n => l.selfCheck setup n >>= fun _ => pure n))
      (Compiling.getOrCreate l.place y) := by
  refine ⟨fun s => ?_, fun hP s hs hext => ?_⟩
  · rw [Compiling.run_getOrCreate_place]
    split
    · exact .refl _
    · exact .refl _
    · have h := hbuild.grows { s with registry := s.registry.mark l.place }
      generalize y.run.run { s with registry := s.registry.mark l.place } = r at h
      obtain ⟨r, t⟩ := r
      cases r <;> exact h
  rw [Compiling.run_getOrCreate_place] at hext ⊢
  have hrun : ∀ examples defaults, (Compiling.getOrCreate l.place
      (x >>= fun n => l.selfCheck setup n >>= fun _ => pure n)).run.run { s with examples, defaults } = _ :=
    fun examples defaults => Compiling.run_getOrCreate_place _ _ _
  -- What is found is not completed again, and its samples are not checked again.
  cases hfind : s.registry.find? l.place with
  | some state =>
    have hfound : ∀ examples defaults, ({ s with examples, defaults } : Session).registry.find? l.place = some state :=
      fun _ _ => hfind
    cases state with
    | compiling =>
      refine ⟨[], .nil hs rfl rfl rfl, fun _ examples defaults => ?_⟩
      rw [hrun, hfound, Session.noted_nil]
    | done n =>
      refine ⟨[], .nil hs rfl rfl rfl, fun _ examples defaults => ?_⟩
      rw [hrun, hfound, Session.noted_nil]
  | none =>
    have hfound : ∀ examples defaults, ({ s with examples, defaults } : Session).registry.find? l.place = none :=
      fun _ _ => hfind
    have h := hbuild.agrees hP { s with registry := s.registry.mark l.place } (Registry.isSingle_set hs _)
    rw [hfind] at hext
    dsimp only at hext ⊢
    generalize hr : y.run.run { s with registry := s.registry.mark l.place } = r at h hext
    obtain ⟨r, t⟩ := r
    cases r with
    | error e =>
      obtain ⟨built, hbuilt, hx⟩ := h hext
      refine ⟨built, hbuilt.unmark hfind, fun heval examples defaults => ?_⟩
      rw [hrun, hfound]
      dsimp only
      rw [run_bind, hx heval]
      rfl
    | ok n =>
      obtain ⟨built, hbuilt, hx⟩ := h hext
      -- The samples are checked after all that the build has completed, so what is noted of them comes last.
      refine ⟨built ++ [(l, n)], hbuilt.store hfind (htold hP _ _ n hr), fun heval examples defaults => ?_⟩
      have hl : l.Evaluates setup n := heval (l, n) (List.mem_append_right _ (List.mem_singleton_self _))
      rw [hrun, hfound]
      dsimp only
      rw [run_bind, hx fun b hb => heval b (List.mem_append_left _ hb)]
      dsimp only
      rw [run_bind, Location.run_selfCheck hl, Session.noting_eq, ← Session.noted_append]
      rfl

end Observes

/-! ### What gathers documents -/

namespace Gathers

variable {α β : Type} {x : Compiling α} {f : α → Compiling β}

protected theorem pure (a : α) : Gathers (pure a) :=
  fun s => ⟨.ok a, s.loader, s.registry.anonymous, s.homes, .refl _, fun _ _ => rfl⟩

protected theorem throw (e : Failure) : Gathers (throw e : Compiling α) :=
  fun s => ⟨.error e, s.loader, s.registry.anonymous, s.homes, .refl _, fun _ _ => rfl⟩

protected theorem bind (hx : Gathers x) (hf : ∀ a, Gathers (f a)) : Gathers (x >>= f) := by
  intro s
  obtain ⟨r, loader, anonymous, homes, hext, hrun⟩ := hx s
  cases r with
  | error e =>
    refine ⟨.error e, loader, anonymous, homes, hext, fun examples defaults => ?_⟩
    rw [run_bind, hrun]
  | ok a =>
    obtain ⟨r', loader', anonymous', homes', hext', hrun'⟩ :=
      hf a { s with loader, registry := { s.registry with anonymous }, homes }
    refine ⟨r', loader', anonymous', homes', hext.trans hext', fun examples defaults => ?_⟩
    rw [run_bind, hrun]
    exact hrun' examples defaults

protected theorem tryCatch {f : Failure → Compiling α} (hx : Gathers x) (hf : ∀ e, Gathers (f e)) :
    Gathers (tryCatch x f) := by
  intro s
  obtain ⟨r, loader, anonymous, homes, hext, hrun⟩ := hx s
  cases r with
  | ok a =>
    refine ⟨.ok a, loader, anonymous, homes, hext, fun examples defaults => ?_⟩
    rw [run_tryCatch, hrun]
  | error e =>
    obtain ⟨r', loader', anonymous', homes', hext', hrun'⟩ :=
      hf e { s with loader, registry := { s.registry with anonymous }, homes }
    refine ⟨r', loader', anonymous', homes', hext.trans hext', fun examples defaults => ?_⟩
    rw [run_tryCatch, hrun]
    exact hrun' examples defaults

protected theorem ofExcept (x : Except Failure α) : Gathers (Compiling.ofExcept x) := by
  unfold Compiling.ofExcept
  split
  · exact .pure _
  · exact .throw _

protected theorem ofLoading (x : Loading α) : Gathers (Compiling.ofLoading x) := by
  refine fun s => ⟨(x.run.run s.loader).1, (x.run.run s.loader).2, s.registry.anonymous, s.homes, .refl _, fun _ _ => ?_⟩
  rw [Compiling.run_ofLoading]

theorem register (uri : String) (home : Home) : Gathers (Compiling.register uri home) :=
  fun s => ⟨.ok (), s.loader, s.registry.anonymous, addHome uri home s.homes, extends_addHome _ _ _, fun _ _ => rfl⟩

theorem anonymousKey : Gathers Compiling.anonymousKey :=
  fun s => ⟨.ok s.registry.nextAnonymous.1, s.loader, s.registry.anonymous + 1, s.homes, .refl _, fun _ _ => rfl⟩

theorem resolve (w : World) (uri : String) : Gathers (Compiling.resolve w uri) := by
  refine fun s => ⟨(((Loader.fetch w uri).run.run s.loader).1.map (·.value)).mapError (Compiling.unresolved uri),
    ((Loader.fetch w uri).run.run s.loader).2, s.registry.anonymous, s.homes, .refl _, fun _ _ => ?_⟩
  rw [Compiling.run_resolve]

end Gathers

/-! ### Compiling -/

namespace Observes

variable {setup : Setup} {tells : Location → Node → Prop} {final : Session} {P : Prop}

/-- To observe is kept by the steps of a compilation. -/
theorem congruence (setup : Setup) (tells : Location → Node → Prop) (final : Session) (P : Prop) :
    Congruence (fun {_} => Observes setup tells final P) where
  ofPure a := of_gathers (.pure a)
  ofThrow e := of_gathers (.throw e)
  bindOf hx hf := hx.bindWith fun a ha => (hf a ha).weaken And.left
  register uri home := of_gathers (.register uri home)
  readText w uri f hf := by
    refine of_gathers (.tryCatch (.ofLoading _) fun e => ?_)
    obtain ⟨told, h⟩ := hf e
    rw [h]
    exact .throw told

theorem home (sc : Scope) (uri : String) : Observes setup tells final P (sc.home uri) (sc.home uri) := by
  have hR := congruence setup tells final P
  have hload : Observes setup tells final P (do
      let content ← Compiling.resolve sc.setup.world uri
      Compiling.registerDocument ⟨uri, some uri, content⟩
      return ⟨⟨uri, some uri, content⟩, .root⟩ : Compiling Home) (do
      let content ← Compiling.resolve sc.setup.world uri
      Compiling.registerDocument ⟨uri, some uri, content⟩
      return ⟨⟨uri, some uri, content⟩, .root⟩) :=
    hR.bind (of_gathers (.resolve _ _)) fun content => hR.andPure (hR.registerDocument _) _
  by_cases hempty : uri.isEmpty = true
  · unfold Scope.home
    rw [if_pos hempty]
    exact hR.ofPure _
  have hne : uri.isEmpty = false := by simpa using hempty
  refine of_runs fun s => ?_
  cases hlookup : s.homes.lookup uri with
  | some home =>
    refine ⟨pure home, pure home, hR.ofPure home, sc.run_home_of_known hne hlookup, fun examples defaults => ?_⟩
    exact sc.run_home_of_known (t := { s with examples, defaults }) hne hlookup
  | none =>
    refine ⟨_, _, hload, sc.run_home_of_unknown hne hlookup, fun examples defaults => ?_⟩
    exact sc.run_home_of_unknown (t := { s with examples, defaults }) hne hlookup

section Compile

variable {descend descend' : Location → Compiling Node} {l : Location} {members : List (Scalar × Value)}

theorem reference {value : Value} (hd : ∀ ref t fragment, value = .str ref →
      Observes setup tells final (P ∧ final.Leads l ref t fragment) (descend t) (descend' t)) :
    Observes setup tells final P ((l.scope setup.unchecked descend members).reference value)
      ((l.scope setup.unchecked descend' members).reference value) := by
  have hR := congruence setup tells final P
  unfold Scope.reference
  dsimp only
  split
  · rename_i ref
    refine bindWith (hR.target fun _ _ _ _ _ => home _ _) fun (t, fragment) _ => ?_
    refine (congruence setup tells final _).andPure
      ((hd ref t fragment rfl).weaken fun ⟨hP, s, s', hrun, hext⟩ => ⟨hP, ?_⟩) _
    exact (Scope.leads_of_target hrun).on hext
  · exact hR.fail

theorem build (hd : ∀ members, l.value = .obj members → l.isReplaced members = false → ∀ inner, l.Inner members inner →
      ∀ part ∈ inner.subschemas members, Observes setup tells final P (descend part) (descend' part))
    (hr : ∀ members, l.value = .obj members → ∀ inner, l.Inner members inner → ∀ ref t fragment,
      Observes setup tells final (P ∧ final.Leads inner ref t fragment) (descend t) (descend' t)) :
    Observes setup tells final P (Conform.build setup.unchecked descend l)
      (Conform.build setup.unchecked descend' l) := by
  have hR := congruence setup tells final P
  unfold Conform.build
  split
  · exact hR.ofPure _
  · rename_i members hvalue
    exact hR.object (hd members hvalue)
      (fun inner hinner value _ => reference fun ref t fragment _ => hr members hvalue inner hinner ref t fragment)
      fun _ _ _ => hR.ofPure ()
  · exact hR.ofThrow _

end Compile

end Observes

/-- The session knows the document: something of it is filed under a URI. -/
def Session.Knows (s : Session) (d : Document) : Prop :=
  ∃ uri home, s.homes.lookup uri = some home ∧ home.document = d

/-- The location lies in the document, or in one that the session knows. -/
structure Location.Within (d : Document) (s : Session) (l : Location) : Prop where
  sits : l.Sits
  document : l.document = d ∨ s.Knows l.document

namespace Location.Within

variable {d : Document} {s : Session} {l inner t : Location} {members : List (Scalar × Value)}

theorem part (h : l.Within d s) (hvalue : l.value = .obj members) (hinner : l.Inner members inner)
    (ht : t ∈ inner.subschemas members) : t.Within d s where
  sits := (hinner.sits h.sits).part (hinner.value.trans hvalue) ht
  document := by
    rw [(of_mem_subschemas ht).1, hinner.document]
    exact h.document

theorem target (h : l.Within d s) (hinner : l.Inner members inner) {ref : String} {fragment : Option String}
    (ht : s.Leads inner ref t fragment) : t.Within d s where
  sits := (TargetOf.lies ht).sits
  document := by
    obtain ⟨full, uri, home, -, -, hhome, -, -, hdocument, -⟩ := ht
    rw [hdocument]
    rcases hhome with ⟨-, rfl⟩ | ⟨-, hlookup⟩
    · exact hinner.document ▸ h.document
    · exact .inr ⟨uri, home, hlookup, rfl⟩

end Location.Within

/-- What is told of the locations that the compilation of a document completes. -/
structure Session.Tells (setup : Setup) (d : Document) (s : Session) (l : Location) (n : Node) : Prop where
  within : l.Within d s
  built : Built setup anything anywhere l n

/-- A compilation observes what it would be without self-checks. -/
theorem observes_compile (setup : Setup) (d : Document) (final : Session) (fuel : Nat) (l : Location) :
    Observes setup (final.Tells setup d) final (l.Within d final) (compile setup fuel l)
      (compile setup.unchecked fuel l) := by
  -- The induction is on the fuel, for all locations: those that a reference leads to lie in what is known in the end.
  induction fuel generalizing l with
  | zero => exact .of_gathers (.throw _)
  | succ fuel ih =>
    rw [compile, compile, build_eq]
    refine .getOrCreate (.build (fun members hvalue _ inner hinner part hpart => ?_)
      fun members hvalue inner hinner ref t fragment => ?_) fun hl s t n hrun => ⟨hl, ?_⟩
    · exact (ih part).weaken fun hl => hl.part hvalue hinner hpart
    · exact (ih t).weaken fun h => h.1.target hinner h.2
    · have hruns : Runs Registry.course (fun _ => True)
          (Conform.build setup.unchecked (compile setup.unchecked fuel) l) _ :=
        Registry.runs_build (Registry.runs_compile setup.unchecked fuel)
      have hend := hruns s trivial fun _ _ => trivial
      rw [hrun] at hend
      exact hend.2.2.self.mono (fun _ _ _ => trivial) fun _ _ _ _ h => h

/-- The compilation of a document, wherever it starts, observes what it would be without self-checks. -/
theorem observes_compileAt (setup : Setup) (d : Document) (final : Session) (p : Pointer) : Observes setup
    (final.Tells setup d) final True (Schema.compileAt setup d p) (Schema.compileAt setup.unchecked d p) := by
  have hR := Observes.congruence setup (final.Tells setup d) final True
  unfold Schema.compileAt
  refine hR.bind (hR.registerDocument d) fun _ => hR.bindOf (hR.ofExcept _) fun value ⟨_, hvalue⟩ => ?_
  rw [Compiling.run_ofExcept] at hvalue
  cases value with
  | none => exact hR.ofThrow _
  | some value =>
    refine hR.bind (hR.ofExcept _) fun dialect => hR.bind (hR.ofExcept _) fun base => ?_
    let root : Location := ⟨d, value, p, base, dialect⟩
    have hroot : root.Within d final := ⟨Pointer.leads_of_eval (Scope.eval_of_valueAt? hvalue), .inl rfl⟩
    -- How deep the compilation may go depends on what has been loaded, which is the same in both runs.
    have hget : ∀ s, (get : Compiling Session).run.run s = (.ok s, s) := fun _ => rfl
    refine .of_runs fun s => ⟨compile setup (s.extent setup.world d p + 1) root >>= fun n => pure ⟨root.place, n⟩,
      compile setup.unchecked (s.extent setup.world d p + 1) root >>= fun n => pure ⟨root.place, n⟩, ?_, ?_,
      fun examples defaults => ?_⟩
    · exact hR.andPure ((observes_compile setup d final _ root).weaken fun _ => hroot) _
    · rw [run_bind, hget]
      rfl
    · rw [run_bind, hget]
      rfl

end Conform
