import Conform.Proofs.Compile.Depth

/-!
# Compiling after a failure

A compilation that fails leaves the places that it has compiled and the documents that it knows, but no marks.  Whoever
comes to none of these compiles as if nothing had been compiled before (`Schema.compileValue_after_failure`).
-/

namespace Conform

/-- The session has no node at the places that the compilation of the location comes to, as the other session has it, and
knows nothing under the URIs that it comes to. -/
structure Session.IsNewTo (s t : Session) (root : Location) : Prop where
  place : ∀ {l}, t.ComesTo root l → s.registry.node? l.place = none
  uri : ∀ {l uri}, t.ComesTo root l → l.Refers uri → uri.isEmpty = false →
    s.homes.lookup uri = none ∧ s.loader.cache.lookup uri = none

/-- How a session differs from one that has compiled nothing: in the places that it has compiled and in the URIs that it
knows. -/
def Frame.retried (s final : Session) (reached : Location → Prop) : Frame where
  uri u := (s.homes.lookup u).isSome ∨ (s.loader.cache.lookup u).isSome
  place p := (s.registry.node? p).isSome
  marked _ := False
  reached := reached
  forgives _ := False
  stray := False
  final := final

section Retried

variable {setup : Setup} {s t : Session} {root : Location} {reached : Location → Prop}

theorem Session.IsNewTo.lawful (h : s.IsNewTo t root) : (Frame.retried s t (t.ComesTo root)).Lawful setup where
  part hl hvalue hreplaced hinner hpart := hl.tail (.part hvalue hreplaced hinner hpart)
  target hl hvalue hinner hmem hleads := hl.tail (.reference hvalue hinner hmem hleads)
  marked h := h.elim
  place {l} hl hframe := by
    have hframe : (s.registry.node? l.place).isSome := hframe
    rw [h.place hl] at hframe
    cases hframe
  uri {l uri} hl hrefers hne hframe := by
    have hframe : (s.homes.lookup uri).isSome ∨ (s.loader.cache.lookup uri).isSome := hframe
    obtain ⟨hhomes, hcache⟩ := h.uri hl hrefers hne
    rw [hhomes, hcache] at hframe
    rcases hframe with hframe | hframe <;> cases hframe

/-- A session without marks holds what an empty one holds, but for what it has compiled and knows. -/
theorem Frame.matches_retried (hunmarked : ∀ p, s.registry.find? p ≠ some .compiling) :
    (Frame.retried s t reached).Matches s {} where
  cache u hu := by
    have hu : ¬((s.homes.lookup u).isSome ∨ (s.loader.cache.lookup u).isSome) := hu
    rw [not_or, Option.not_isSome_iff_eq_none, Option.not_isSome_iff_eq_none] at hu
    exact hu.2
  homes u hu := by
    have hu : ¬((s.homes.lookup u).isSome ∨ (s.loader.cache.lookup u).isSome) := hu
    rw [not_or, Option.not_isSome_iff_eq_none, Option.not_isSome_iff_eq_none] at hu
    exact hu.1
  entries p hp := by
    have hp : ¬(s.registry.node? p).isSome := hp
    rw [Option.not_isSome_iff_eq_none] at hp
    show s.registry.find? p = none
    cases hfind : s.registry.find? p with
    | none => rfl
    | some state =>
      cases state with
      | compiling => exact absurd hfind (hunmarked p)
      | done n =>
        rw [Registry.find?_eq_done.1 hfind] at hp
        cases hp
  marked p hp := hp.elim

/-- A document is registered in such sessions alike. -/
private theorem registerDocument_retried (reached : Location → Prop) (hunmarked : ∀ p, s.registry.find? p ≠ some .compiling)
    (d : Document) :
    (Frame.retried s t reached).Agrees ((Compiling.registerDocument d).run.run s)
      ((Compiling.registerDocument d).run.run {}) := by
  have halike : Alike (Frame.retried s ((Compiling.registerDocument d).run.run {}).2 reached) True
      (Compiling.registerDocument d) (Compiling.registerDocument d) := .registerDocument d
  have hagrees := halike.agrees trivial s {} (Frame.matches_retried hunmarked) (.refl _)
  generalize (Compiling.registerDocument d).run.run s = x at hagrees
  generalize (Compiling.registerDocument d).run.run {} = y at hagrees
  cases hagrees with
  | same h => exact .same ⟨h.cache, h.homes, h.entries, h.marked⟩
  | forgiven he => exact he.elim
  | stray h => exact h.elim

/-- A location of a document that has been registered is compiled in such sessions alike, if what is known in the end is known
to the later one. -/
private theorem compile_retried {F : Nat} {s₁ t₁ : Session} (hmatches : (Frame.retried s t reached).Matches s₁ t₁)
    (hextends : Extends ((compile setup F root).run.run t₁).2.homes t.homes) (hnew : s.IsNewTo t root) :
    ((compile setup F root).run.run s₁).1 = ((compile setup F root).run.run t₁).1 := by
  have hagrees := (hnew.lawful.alike_compile F).agrees .refl s₁ t₁
    ⟨hmatches.cache, hmatches.homes, hmatches.entries, hmatches.marked⟩ hextends
  generalize (compile setup F root).run.run s₁ = x at hagrees
  generalize (compile setup F root).run.run t₁ = y at hagrees
  cases hagrees with
  | same h => rfl
  | forgiven he => exact he.elim
  | stray h => exact h.elim

/-- A session without marks compiles a document like one that has compiled nothing, if it is new to what the compilation
comes to. -/
theorem run_compileAt_retried (hunmarked : ∀ p, s.registry.find? p ≠ some .compiling) {d : Document} {p : Pointer}
    (hbase : IsBase d.uri) {r : Except Failure Schema} (hrun : (Schema.compileAt setup d p).run.run {} = (r, t))
    (hnew : ∀ root, d.LocatedAt p root → s.IsNewTo t root) :
    ((Schema.compileAt setup d p).run.run s).1 = r := by
  rw [Library.compileAt_eq, run_bind] at hrun ⊢
  have hagrees := registerDocument_retried (t := t) (fun _ => False) hunmarked d
  generalize hregistered : (Compiling.registerDocument d).run.run {} = y at hrun hagrees
  generalize (Compiling.registerDocument d).run.run s = x at hagrees
  cases hagrees with
  | forgiven he => exact he.elim
  | stray h => exact h.elim
  | same hmatches =>
    rename_i result s₁ t₁
    cases result with
    | error e =>
      cases hrun
      rfl
    | ok _ =>
      dsimp only at hrun ⊢
      rcases Session.run_compileRegistered setup d p with ⟨e, -, hlost⟩ | ⟨root, hroot, hcompile⟩
      · rw [hlost] at hrun ⊢
        cases hrun
        rfl
      · rw [hcompile, run_bind_pure] at hrun ⊢
        obtain ⟨hr, ht⟩ := Prod.mk.inj hrun
        suffices hsame : ((compile setup (s₁.extent setup.world d p + 1) root).run.run s₁).1 =
            ((compile setup (t₁.extent setup.world d p + 1) root).run.run t₁).1 by
          rw [← hr]
          exact congrArg (Except.map (Schema.mk root.place)) hsame
        cases hresolver : setup.world.resolver with
        | files =>
          -- For files both go as deep.
          rw [Session.extent_files hresolver s₁, ← Session.extent_files hresolver t₁]
          exact compile_retried hmatches (ht ▸ .refl _) (hnew root hroot)
        | table answers =>
          obtain ⟨homes, hregisters, rfl⟩ := Compiling.registers_of_registerDocument hregistered
          -- With a table no fuel above the extent of a session runs out.
          have hends : ∀ {F : Nat} {s' : Session}, s'.extent setup.world d p < F →
              ((compile setup F root).run.run { homes }).1 ≠ .error .endless :=
            compile_ne_endless hresolver hbase hroot rfl (by rintro _ _ ⟨⟩) hregisters.claims
          have hequal := (compile_depth (s₁.extent setup.world d p + 1) (({ homes } : Session).extent setup.world d p + 1) root
            { homes }).resolve_right fun h => h.elim (hends (Nat.lt_succ_self _)) (hends (Nat.lt_succ_self _))
          rw [← hequal]
          refine compile_retried hmatches ?_ (hnew root hroot)
          rw [← ht]
          rcases Nat.le_total (s₁.extent setup.world d p + 1) (({ homes } : Session).extent setup.world d p + 1) with h | h
          · exact (compile_of_le h root _).2
          · exact ((compile_of_le h root _).1.resolve_right (hends (Nat.lt_succ_self _))).2

/-- A compilation leaves no marks, whether it fails or not. -/
theorem before_compileAt (setup : Setup) (d : Document) (p : Pointer) (s : Session) :
    s.Before ((Schema.compileAt setup d p).run.run s).2 := by
  have hregister : s.Before ((Compiling.registerDocument d).run.run s).2 :=
    (Alike.registerDocument d : Alike (Frame.deeper s) True _ _).before s
  rw [Library.compileAt_eq, run_bind]
  generalize (Compiling.registerDocument d).run.run s = x at hregister
  obtain ⟨result, s₁⟩ := x
  cases result with
  | error e => exact hregister
  | ok _ =>
    refine hregister.trans ?_
    dsimp only
    rcases Session.run_compileRegistered setup d p with ⟨e, -, hlost⟩ | ⟨root, -, hcompile⟩
    · rw [hlost]
      exact .refl s₁
    · rw [hcompile, run_bind_pure]
      exact before_compile _ root s₁

end Retried

namespace Schema

/-- A compilation under a URI that fails leaves no marks.  After it another value is compiled under the same URI as if nothing
had been, if the session is new to what its compilation comes to. -/
theorem compileValue_after_failure {setup : Setup} {v v' : Value} {b : String} {e : Failure} {s t : Session}
    {r : Except Failure Schema} (hfails : (compileValue setup v (some b)).run.run {} = (.error e, s))
    (hfresh : (compileValue setup v' (some b)).run.run {} = (r, t))
    (hnew : ∀ uri root, Uri.dropFragment b = .ok uri → (Document.under uri v').LocatedAt .root root → s.IsNewTo t root) :
    (∀ p, s.registry.find? p ≠ some .compiling) ∧ ((compileValue setup v' (some b)).run.run s).1 = r := by
  rw [run_compileValue_some] at hfails hfresh ⊢
  cases hdrop : Uri.dropFragment b with
  | error fault =>
    rw [hdrop] at hfails hfresh
    cases hfails
    cases hfresh
    exact ⟨fun p h => (by cases h), rfl⟩
  | ok uri =>
    rw [hdrop] at hfails hfresh
    have hunmarked : ∀ p, s.registry.find? p ≠ some .compiling := by
      intro p hp
      have hbefore := before_compileAt setup (.under uri v) .root {}
      have hs : ((compileAt setup (.under uri v) .root).run.run {}).2 = s := congrArg Prod.snd hfails
      rw [hs] at hbefore
      cases hbefore.unmarked p hp
    refine ⟨hunmarked, run_compileAt_retried hunmarked ?_ hfresh fun root hroot => hnew uri root hdrop hroot⟩
    rintro _ ⟨⟩
    exact Uri.not_mem_of_dropFragment hdrop

/-- A document with a part that is no schema, after one that is. -/
def halfDocument : Value :=
  .ofPairs [("properties", .ofPairs [("a", .ofPairs [("type", .str "string")]), ("b", .num (.int 5))])]

/-- A document that has nothing at the places of the other one. -/
def apartDocument : Value := .ofPairs [("items", .ofPairs [("type", .str "integer")])]

/-- What the compilation of the document apart comes to. -/
private def IsApart (l : Location) : Prop :=
  l.document = .under "http://x/s" apartDocument ∧
    (l.pointer = .root ∧ l.value = apartDocument ∨
      l.pointer = Pointer.root.child "items" ∧ l.value = .ofPairs [("type", .str "integer")])

private theorem isApart_of_comesTo {t : Session} {root l : Location}
    (hroot : (Document.under "http://x/s" apartDocument).LocatedAt .root root) (h : t.ComesTo root l) : IsApart l := by
  induction h with
  | refl =>
    have hvalue : apartDocument = root.value := Option.some.inj (Except.ok.inj hroot.value)
    exact ⟨hroot.document, .inl ⟨hroot.pointer, hvalue.symm⟩⟩
  | tail _ hgo ih =>
    obtain ⟨hdocument, ⟨hpointer, hvalue'⟩ | ⟨-, hvalue'⟩⟩ := ih
    · cases hgo with
      | part hvalue _ hinner hsub =>
        rw [hvalue'] at hvalue
        cases hvalue
        have hsub := List.mem_singleton.1 hsub
        subst hsub
        refine ⟨hinner.document.trans hdocument, .inr ⟨?_, rfl⟩⟩
        rw [Location.part, hinner.pointer, hpointer]
      | reference hvalue _ href =>
        rw [hvalue'] at hvalue
        cases hvalue
        simp at href
    · cases hgo with
      | part hvalue _ _ hsub =>
        rw [hvalue'] at hvalue
        cases hvalue
        cases hsub
      | reference hvalue _ href =>
        rw [hvalue'] at hvalue
        cases hvalue
        simp at href

/-- A document that comes to nothing that the failure has left is compiled as if there had been none. -/
theorem compileValue_after_failure_apart : ∃ e s schema t,
    (compileValue { world := .ofTable [] } halfDocument (some "http://x/s")).run.run {} = (.error e, s) ∧
    s.registry.size = 1 ∧
    (compileValue { world := .ofTable [] } apartDocument (some "http://x/s")).run.run {} = (.ok schema, t) ∧
    ((compileValue { world := .ofTable [] } apartDocument (some "http://x/s")).run.run s).1 = .ok schema := by
  obtain ⟨schema, t, hfresh, -⟩ := exists_of_endsWith
    (x := (compileValue { world := .ofTable [] } apartDocument (some "http://x/s")).run.run {})
    (p := fun _ _ => true) (by decide +kernel)
  have hleft : (fun x : Except Failure Schema × Session => x.1.toOption.isNone && (x.2.registry.size == 1 &&
      ((x.2.registry.node? ⟨"http://x/s", Pointer.root⟩).isNone &&
        (x.2.registry.node? ⟨"http://x/s", Pointer.root.child "items"⟩).isNone)))
      ((compileValue { world := .ofTable [] } halfDocument (some "http://x/s")).run.run {}) = true := by
    decide +kernel
  cases hfails : (compileValue { world := .ofTable [] } halfDocument (some "http://x/s")).run.run {} with
  | mk result s =>
    rw [hfails] at hleft
    simp only [Bool.and_eq_true, Option.isNone_iff_eq_none, beq_iff_eq] at hleft
    obtain ⟨hresult, hsize, hroot, hitems⟩ := hleft
    cases result with
    | ok schema => cases hresult
    | error e =>
      refine ⟨e, s, schema, t, rfl, hsize, hfresh, ?_⟩
      have hafter := compileValue_after_failure hfails hfresh fun uri root hdrop hlocated => ?_
      · exact hafter.2
      have huri : uri = "http://x/s" := by
        have hshort : (Uri.dropFragment "http://x/s").toOption = some "http://x/s" := by decide +kernel
        rw [hdrop] at hshort
        exact Option.some.inj hshort
      subst huri
      -- It comes to its root and its items only; for neither a node has been left, and neither refers to anything.
      refine ⟨fun {l} hl => ?_, fun {l uri} hl hrefers => ?_⟩
      · obtain ⟨hdocument, ⟨hpointer, -⟩ | ⟨hpointer, -⟩⟩ := isApart_of_comesTo hlocated hl
        · rw [Location.place, hdocument, hpointer]
          exact hroot
        · rw [Location.place, hdocument, hpointer]
          exact hitems
      · obtain ⟨members, inner, ref, full, fragment, hvalue, -, href, -⟩ := hrefers
        obtain ⟨-, ⟨-, hvalue'⟩ | ⟨-, hvalue'⟩⟩ := isApart_of_comesTo hlocated hl
        · rw [hvalue'] at hvalue
          cases hvalue
          simp at href
        · rw [hvalue'] at hvalue
          cases hvalue
          simp at href

/-- The same document with another type at the place that has been compiled, and without the part that is no schema. -/
def mendedDocument : Value := .ofPairs [("properties", .ofPairs [("a", .ofPairs [("type", .str "integer")])])]

/-- What a failed compilation has compiled is taken for what a later document has at the same place. -/
theorem compileValue_after_failure_stale : ∃ e s before after t t',
    (compileValue { world := .ofTable [] } halfDocument (some "http://x/s")).run.run {} = (.error e, s) ∧
    (compileValue { world := .ofTable [] } mendedDocument (some "http://x/s")).run.run {} = (.ok before, t) ∧
    (compileValue { world := .ofTable [] } mendedDocument (some "http://x/s")).run.run s = (.ok after, t') ∧
    before.root.accepts (.ofPairs [("a", .num (.int 1))]) = .ok true ∧
    after.root.accepts (.ofPairs [("a", .num (.int 1))]) = .ok false := by
  have hfails : ((compileValue { world := .ofTable [] } halfDocument (some "http://x/s")).run.run
      {}).1.toOption.isNone = true := by decide +kernel
  obtain ⟨before, t, hbefore, haccepts⟩ := exists_of_endsWith
    (x := (compileValue { world := .ofTable [] } mendedDocument (some "http://x/s")).run.run {})
    (p := fun schema _ => (schema.root.accepts (.ofPairs [("a", .num (.int 1))])).toOption == some true) (by decide +kernel)
  obtain ⟨after, t', hafter, hrefuses⟩ := exists_of_endsWith
    (x := (compileValue { world := .ofTable [] } mendedDocument (some "http://x/s")).run.run
      ((compileValue { world := .ofTable [] } halfDocument (some "http://x/s")).run.run {}).2)
    (p := fun schema _ => (schema.root.accepts (.ofPairs [("a", .num (.int 1))])).toOption == some false) (by decide +kernel)
  cases hrun : (compileValue { world := .ofTable [] } halfDocument (some "http://x/s")).run.run {} with
  | mk result s =>
    rw [hrun] at hfails hafter
    cases result with
    | ok schema => cases hfails
    | error e =>
      exact ⟨e, s, before, after, t, t', rfl, hbefore, hafter, toOption_eq_some.1 (beq_iff_eq.1 haccepts),
        toOption_eq_some.1 (beq_iff_eq.1 hrefuses)⟩

end Schema

end Conform
