import Conform.Proofs.Compile.Callers
import Conform.Proofs.Compile.Observing
import Conform.Proofs.Compile.Subnodes
import Conform.Proofs.Compile.Trees
import Conform.Proofs.Schema.Relocated

/-!
# Requests with and without self-checks

Whatever has been asked of a session, a request is granted or refused with self-checks as it is without them, and the
session ends with the same documents and nodes.  What is noted is what is wrong with the samples of the locations that the
request has completed, in the order in which they have been completed (`Schema.compileAt_noted`).
-/

namespace Conform

/-! ### One entry to a location -/

/-- There is one entry of the registry to a location. -/
def Session.IsSingle (s : Session) : Prop := s.registry.IsSingle

section Single

variable {setup : Setup}

/-- The second computation keeps that there is one entry to a location. -/
private def Single {α : Type} (_ x : Compiling α) : Prop := Keeps Session.IsSingle x fun _ => True

/-- That there is one entry to a location is kept by the steps of a compilation. -/
private theorem congruence_single : Congruence Single where
  ofPure _ := .pure trivial
  ofThrow e := .throw e
  bindOf hx hf := hx.witnessed.bind hf
  register _ _ := .modify fun _ hs => hs
  readText w uri f hf := by
    refine .tryCatch (fun s hs => ?_) fun e => ?_
    · rw [Compiling.run_ofLoading]
      exact ⟨hs, fun _ _ => trivial⟩
    · obtain ⟨told, h⟩ := hf e
      rw [h]
      exact .throw told

private theorem single_home (sc : Scope) (uri : String) : Single (sc.home uri) (sc.home uri) := by
  unfold Single Scope.home
  refine .ite (fun _ => .pure trivial) fun _ => Keeps.get.bind fun s _ => ?_
  split
  · exact .pure trivial
  · refine Keeps.bind (Q := fun _ => True) (fun s hs => ?_) fun content _ => ?_
    · rw [Compiling.run_resolve]
      exact ⟨hs, fun _ _ => trivial⟩
    · exact congruence_single.andPure (congruence_single.registerDocument _) _

private theorem single_selfCheck (sc : Scope) (n : Node) : Single (sc.selfCheck n) (sc.selfCheck n) := by
  obtain ⟨r, hr⟩ := sc.quiet_selfCheck (n := n)
  refine fun s hs => ⟨?_, fun _ _ => trivial⟩
  rw [Session.IsSingle, (hr s).2.registry]
  exact hs

private theorem single_compile (fuel : Nat) (l : Location) : Single (compile setup fuel l) (compile setup fuel l) := by
  have hR := congruence_single
  induction fuel generalizing l with
  | zero => exact hR.ofThrow _
  | succ fuel ih =>
    have hbuild : Single (build setup (compile setup fuel) l) (build setup (compile setup fuel) l) := by
      unfold build
      split
      · exact hR.ofPure _
      · rename_i members hvalue
        refine hR.object (fun _ _ _ part _ => ih part) (fun inner _ value _ => ?_) fun inner n _ => single_selfCheck _ n
        unfold Scope.reference
        dsimp only
        split
        · exact hR.bind (hR.target fun _ uri _ _ _ => single_home _ uri) fun t => hR.andPure (ih t.1) _
        · exact hR.fail
      · exact hR.ofThrow _
    -- The mark of a location is its only entry, and it gives way to the node or is taken back.
    intro s hs
    refine ⟨?_, fun _ _ => trivial⟩
    rw [compile, Compiling.run_getOrCreate_place]
    split
    · exact hs
    · exact hs
    · have h := (hbuild { s with registry := s.registry.mark l.place } (Registry.isSingle_set hs _)).1
      generalize (build setup (compile setup fuel) l).run.run { s with registry := s.registry.mark l.place } = r at h
      obtain ⟨r, t⟩ := r
      cases r with
      | ok n => exact Registry.isSingle_set h _
      | error e => exact Registry.isSingle_discard h

private theorem single_compileAt (d : Document) (p : Pointer) :
    Single (Schema.compileAt setup d p) (Schema.compileAt setup d p) := by
  unfold Single Schema.compileAt
  refine (congruence_single.registerDocument d).andThen ((congruence_single.ofExcept _).bind fun value _ => ?_)
  split
  · exact .throw _
  · refine (congruence_single.ofExcept _).bind fun dialect _ => (congruence_single.ofExcept _).bind fun base _ => ?_
    exact Keeps.get.bind fun s _ => (single_compile _ _).bind fun n _ => .pure trivial

end Single

/-! ### Requests -/

/-- A schema is compiled by gathering documents until one is at hand, and compiling it at a pointer. -/
private def Locates (x : Setup → Compiling Schema) : Prop :=
  ∃ z : World → Compiling (Document × Pointer), (∀ w, Gathers (z w)) ∧
    ∀ setup, x setup = z setup.world >>= fun o => Schema.compileAt setup o.1 o.2

namespace Locates

private theorem compileAt (d : Document) (p : Pointer) : Locates fun setup => Schema.compileAt setup d p :=
  ⟨fun _ => pure (d, p), fun _ => .pure _, fun _ => (pure_bind _ _).symm⟩

private theorem ofThrow (e : Failure) : Locates fun _ => throw e := ⟨fun _ => throw e, fun _ => .throw e, fun _ => rfl⟩

private theorem bind {α : Type} {z : World → Compiling α} {x : α → Setup → Compiling Schema} (hz : ∀ w, Gathers (z w))
    (hx : ∀ a, Locates (x a)) : Locates fun setup => z setup.world >>= fun a => x a setup := by
  choose next hnext heq using hx
  refine ⟨fun w => z w >>= fun a => next a w, fun w => (hz w).bind fun a => hnext a w, fun setup => ?_⟩
  simp only [heq, bind_assoc]

private theorem compileFile (p : Path) : Locates fun setup => Schema.compileFile setup p :=
  .bind (z := fun w => Compiling.ofLoading (Loader.loadFile w p)) (fun _ => .ofLoading _) fun _ => .compileAt _ _

private theorem compileUri (uri : String) : Locates fun setup => Schema.compileUri setup uri := by
  unfold Schema.compileUri
  generalize Uri.splitFragment uri = parts
  obtain ⟨document, fragment⟩ := parts
  refine .bind (z := fun w => Compiling.resolve w document) (fun _ => .resolve _ _) fun content => ?_
  exact .bind (z := fun _ => Compiling.ofExcept (Schema.fragmentPointer fragment)) (fun _ => .ofExcept _)
    fun p => .compileAt _ p

private theorem compileValue (v : Value) (base : Option String) :
    Locates fun setup => Schema.compileValue setup v base := by
  unfold Schema.compileValue
  cases base with
  | some uri =>
    exact .bind (z := fun _ => Compiling.ofExcept ((Uri.dropFragment uri).mapError .uri)) (fun _ => .ofExcept _)
      fun _ => .compileAt _ _
  | none => exact .bind (z := fun _ => Compiling.anonymousKey) (fun _ => .anonymousKey) fun _ => .compileAt _ _

private theorem compileText (text : String) (base : Option String) :
    Locates fun setup => Schema.compileText setup text base := by
  -- The text is read first, in a way that the world decides.
  refine .bind (z := fun w => pure (Resource.decode w.yaml ⟨.text text, none⟩ (base.getD "")))
    (x := fun read setup => Schema.compileRead setup base read) (fun _ => .pure _) fun read => ?_
  cases read with
  | ok value => exact compileValue value base
  | error e =>
    unfold Schema.compileRead
    dsimp only
    cases e.origin <;> exact .ofThrow _

private theorem compileSource (source : Source) : Locates fun setup => Schema.compileSource setup source := by
  cases source with
  | path p => exact compileFile p
  | text text =>
    refine .bind (z := fun w => Schema.isFile w text)
      (fun _ => .tryCatch (.ofLoading _) fun _ => .pure _) fun isFile => ?_
    cases isFile with
    | true => exact compileFile _
    | false =>
      simp only [Bool.false_eq_true, if_false]
      split
      · exact compileUri text
      · exact compileText text none
  | value v =>
    cases v with
    | obj ms => exact compileValue _ none
    | arr | set => exact .ofThrow _
    | scalar a =>
      cases a with
      | bool b => exact compileValue _ none
      | null | num | str | bytes => exact .ofThrow _

/-- Every request for a schema is for one that is located. -/
private theorem schema? {setup : Setup} {request : Request} {x : Compiling Schema} (hx : request.schema? setup = some x) :
    ∃ z : Compiling (Document × Pointer), Gathers z ∧ x = (z >>= fun o => Schema.compileAt setup o.1 o.2) ∧
      request.schema? setup.unchecked = some (z >>= fun o => Schema.compileAt setup.unchecked o.1 o.2) := by
  have hlocates : ∀ {parse : Setup → Compiling Schema}, Locates parse → parse setup = x →
      request.schema? setup.unchecked = some (parse setup.unchecked) → ∃ z : Compiling (Document × Pointer), Gathers z ∧
        x = (z >>= fun o => Schema.compileAt setup o.1 o.2) ∧
        request.schema? setup.unchecked = some (z >>= fun o => Schema.compileAt setup.unchecked o.1 o.2) := by
    rintro parse ⟨z, hz, hparse⟩ rfl hunchecked
    exact ⟨z setup.world, hz _, hparse setup, hunchecked.trans (congrArg some (hparse setup.unchecked))⟩
  cases request with
  | source s => exact hlocates (compileSource s) (Option.some.inj hx) rfl
  | file p => exact hlocates (compileFile p) (Option.some.inj hx) rfl
  | uri u => exact hlocates (compileUri u) (Option.some.inj hx) rfl
  | value v base => exact hlocates (compileValue v base) (Option.some.inj hx) rfl
  | text t base => exact hlocates (compileText t base) (Option.some.inj hx) rfl
  | load => cases hx

end Locates

/-- To answer a request is to compile the schema that it asks for, or only to load documents. -/
private theorem run_request {setup : Setup} {request : Request} {x : Compiling Schema}
    (hx : request.schema? setup = some x) (s : Session) :
    ((request.run setup).run.run s).2 = (x.run.run s).2 := by
  have hrun : ∀ x : Compiling Schema, ((do let _ ← x : Compiling Unit).run.run s).2 = (x.run.run s).2 := by
    intro x
    rw [show (do let _ ← x : Compiling Unit) = x >>= fun _ => pure () from rfl, run_bind_pure]
  cases request with
  | source | file | uri | value | text =>
    cases hx
    exact hrun _
  | load => cases hx

private theorem Gathers.single {α : Type} {z : Compiling α} (hz : Gathers z) :
    Keeps Session.IsSingle z fun _ => True := by
  intro s hs
  obtain ⟨r, loader, anonymous, homes, -, hrun⟩ := hz s
  have hrun : z.run.run s = _ := hrun s.examples s.defaults
  rw [hrun]
  exact ⟨hs, fun _ _ => trivial⟩

/-- Whatever is asked of a session, there is one entry to a location. -/
theorem Session.isSingle_after (setup : Setup) (requests : List Request) : (Session.after setup requests).IsSingle := by
  have hrequest : ∀ (request : Request) (s : Session), s.IsSingle → ((request.run setup).run.run s).2.IsSingle := by
    intro request s hs
    cases hx : request.schema? setup with
    | some x =>
      obtain ⟨z, hz, rfl, -⟩ := Locates.schema? hx
      rw [run_request hx]
      exact (hz.single.bind fun o _ => single_compileAt o.1 o.2) s hs |>.1
    | none =>
      cases request with
      | source | file | uri | value | text => cases hx
      | load p => exact ((Gathers.ofLoading _).bind fun _ => .pure ()).single s hs |>.1
  unfold Session.after
  have hstart : ({} : Session).IsSingle := List.nodup_nil
  generalize ({} : Session) = s at hstart
  induction requests generalizing s with
  | nil => exact hstart
  | cons request requests ih => exact ih _ (hrequest request s hstart)

/-! ### What is noted -/

/-- What is built for a location is a schema, which stands for no keyword. -/
theorem Built.clears {setup : Setup} {means : Location → Node → Prop}
    {leads : Location → String → Location → Option String → Prop} {l : Location} {n : Node}
    (h : Built setup means leads l n) : n.Clears .root := by
  refine .inl ?_
  rcases h.constant_or_group with ⟨allows, rfl⟩ | ⟨s, children, title, description, dialect, -, rfl⟩ <;> rfl

/-- What is wrong with a sample is told at its own location or below. -/
theorem Built.location_of_mem_faultsIn {setup : Setup} {means : Location → Node → Prop}
    {leads : Location → String → Location → Option String → Prop} {l : Location} {n : Node}
    (h : Built setup means leads l n) {sample : Pointer × Value} {e : Entry} (he : e ∈ n.faultsIn [sample]) :
    ∃ q, e.location = sample.1.append q := by
  obtain ⟨p, v⟩ := sample
  -- What is found at the sample is what is found at the root, moved there.
  have hmoves := n.findings_append v n.site.path p .root .root h.clears
  rw [Pointer.append_root, Pointer.append_root] at hmoves
  rw [Node.faultsIn, List.flatMap_singleton] at he
  dsimp only at he
  rw [hmoves] at he
  cases hfindings : n.findings v .root .root with
  | error fault =>
    rw [hfindings] at he
    cases he
  | ok f =>
    rw [hfindings] at he
    replace he : e ∈ (f.under n.site.path p).faults := he
    rw [Node.faults_under] at he
    obtain ⟨e', -, rfl⟩ := List.mem_map.1 he
    exact ⟨e'.location, rfl⟩

/-! ### Histories -/

section Histories

variable {setup : Setup}

private theorem observes_schema? {request : Request} {x : Compiling Schema} (hx : request.schema? setup = some x) :
    ∃ y, request.schema? setup.unchecked = some y ∧ ∀ final,
      Observes setup (fun l n => l.Sits ∧ Built setup anything anywhere l n) final True x y := by
  obtain ⟨z, hz, rfl, hy⟩ := Locates.schema? hx
  refine ⟨_, hy, fun final => (Observes.congruence _ _ _ _).bind (.of_gathers hz) fun o => ?_⟩
  exact (observes_compileAt setup o.1 final o.2).imp fun l n h => ⟨h.within.sits, h.built⟩

private theorem observes_request (setup : Setup) (request : Request) (final : Session) :
    Observes setup (fun l n => l.Sits ∧ Built setup anything anywhere l n) final True (request.run setup)
      (request.run setup.unchecked) := by
  have hR := Observes.congruence setup (fun l n => l.Sits ∧ Built setup anything anywhere l n) final True
  have hschema : ∀ {x y : Compiling Schema}, request.schema? setup = some x → request.schema? setup.unchecked = some y →
      Observes setup (fun l n => l.Sits ∧ Built setup anything anywhere l n) final True (x >>= fun _ => pure ())
        (y >>= fun _ => pure ()) := by
    intro x y hx hy
    obtain ⟨y', hy', hobserves⟩ := observes_schema? hx
    cases hy.symm.trans hy'
    exact hR.andPure (hobserves final) _
  cases request with
  | source | file | uri | value | text => exact hschema rfl rfl
  | load p => exact hR.andPure (.of_gathers (.ofLoading _)) _

/-- The sessions that requests lead to with self-checks and without them differ in what has been noted. -/
private theorem observes_requests (setup : Setup) (requests : List Request) {s : Session} (hs : s.IsSingle) : ∃ built,
    s.Completes (fun l n => l.Sits ∧ Built setup anything anywhere l n) built
      (requests.foldl (fun s request => ((request.run setup.unchecked).run.run s).2) s) ∧
    ((∀ b ∈ built, b.1.Evaluates setup b.2) → ∀ examples defaults,
      requests.foldl (fun s request => ((request.run setup).run.run s).2) { s with examples, defaults } =
        ({ requests.foldl (fun s request => ((request.run setup.unchecked).run.run s).2) s with examples, defaults } :
          Session).noted setup built) := by
  -- The induction is on the requests, for all that has been noted before: each starts where the one before has ended.
  induction requests generalizing s with
  | nil =>
    refine ⟨[], .nil hs rfl rfl rfl, fun _ examples defaults => ?_⟩
    rw [Session.noted_nil]
    rfl
  | cons request requests ih =>
    obtain ⟨built, hbuilt, hx⟩ :=
      (observes_request setup request ((request.run setup.unchecked).run.run s).2).agrees trivial s hs (.refl _)
    obtain ⟨built', hbuilt', hx'⟩ := ih (s := ((request.run setup.unchecked).run.run s).2) hbuilt.single
    refine ⟨built ++ built', hbuilt.trans hbuilt', fun heval examples defaults => ?_⟩
    rw [List.foldl_cons, hx fun b hb => heval b (List.mem_append_left _ hb), Session.noted_append]
    exact hx' (fun b hb => heval b (List.mem_append_right _ hb)) _ _

end Histories

namespace Schema

/-- Self-checks only observe.  In a session that requests have led to, a document is compiled to the same schema, or fails
in the same way, with self-checks as without them, and leaves the same documents and nodes, provided that the samples can
be evaluated.  What has been noted then grows by what is wrong with the samples of the locations that the compilation has
completed, each of them once, in the order in which they have been completed: by the examples and by the defaults, and
each of it at or below the place of the sample in its document.  So sessions of which the same is asked, with self-checks
and without them, differ in nothing but what has been noted, and answer alike. -/
theorem compileAt_noted (setup before : Setup) (history : List Request) (d : Document) (p : Pointer) :
    (∀ s r t, Session.after before history = s → (compileAt setup.unchecked d p).run.run s = (r, t) →
      ∃ built, s.Completes (t.Tells setup d) built t ∧ (built.map (·.1.place)).Nodup ∧
        (∀ b ∈ built, b.1.place ∉ s.registry.nodes.map (·.1) ∧ ∀ sample ∈ b.1.samples setup,
          Pointer.Leads b.1.document.content sample.1 sample.2 ∧
          ∀ e ∈ b.2.faultsIn [sample], ∃ q, e.location = sample.1.append q) ∧
        ((∀ b ∈ built, b.1.Evaluates setup b.2) → (compileAt setup d p).run.run s = (r, t.noted setup built))) ∧
    ∀ s, Session.after setup.unchecked history = s →
      ∃ past, ({} : Session).Completes (fun l n => l.Sits ∧ Built setup anything anywhere l n) past s ∧
        ((∀ b ∈ past, b.1.Evaluates setup b.2) → Session.after setup history = s.noted setup past) ∧
        ∀ request x, Request.schema? setup request = some x → ∃ y built, request.schema? setup.unchecked = some y ∧
          s.Completes (fun l n => l.Sits ∧ Built setup anything anywhere l n) built (y.run.run s).2 ∧
          ((∀ b ∈ past ++ built, b.1.Evaluates setup b.2) → x.run.run (Session.after setup history) =
            ((y.run.run s).1, (y.run.run s).2.noted setup (past ++ built))) := by
  refine ⟨fun s r t hs hrun => ?_, fun s hs => ?_⟩
  · have hsingle : s.IsSingle := hs ▸ Session.isSingle_after before history
    have hfinal : Extends ((compileAt setup.unchecked d p).run.run s).2.homes t.homes := by
      rw [hrun]
      exact .refl _
    obtain ⟨built, hbuilt, hx⟩ := (observes_compileAt setup d t p).agrees trivial s hsingle hfinal
    rw [hrun] at hbuilt hx
    refine ⟨built, hbuilt, hbuilt.once.1, fun b hb => ⟨hbuilt.once.2 b hb, fun sample hsample => ?_⟩,
      fun heval => ?_⟩
    · have htold := hbuilt.told b hb
      exact ⟨htold.within.sits.sample hsample, fun e he => htold.built.location_of_mem_faultsIn he⟩
    · have hnoted := hbuilt.run_noted (hx heval) []
      rwa [Session.noted_nil, List.nil_append] at hnoted
  · subst hs
    obtain ⟨past, hpast, hafter⟩ := observes_requests setup history (s := {}) List.nodup_nil
    replace hpast : ({} : Session).Completes _ past (Session.after setup.unchecked history) := hpast
    have hafter : (∀ b ∈ past, b.1.Evaluates setup b.2) → Session.after setup history =
        (Session.after setup.unchecked history).noted setup past := by
      intro heval
      refine (hafter heval [] []).trans ?_
      have hexamples : (Session.after setup.unchecked history).examples = [] := hpast.examples
      have hdefaults : (Session.after setup.unchecked history).defaults = [] := hpast.defaults
      rw [Session.noted, Session.noted, hexamples, hdefaults]
      rfl
    refine ⟨past, hpast, hafter, fun request x hx => ?_⟩
    obtain ⟨y, hy, hobserves⟩ := observes_schema? hx
    generalize Session.after setup.unchecked history = s at hpast hafter ⊢
    obtain ⟨built, hbuilt, hrun⟩ := (hobserves (y.run.run s).2).agrees trivial s hpast.single (.refl _)
    refine ⟨y, built, hy, hbuilt, fun heval => ?_⟩
    rw [hafter fun b hb => heval b (List.mem_append_left _ hb)]
    exact hbuilt.run_noted (hrun fun b hb => heval b (List.mem_append_right _ hb)) past

/-- Where the nodes can be evaluated on all parts of a document that is alone, so can its samples. -/
private theorem evaluates_of_every {setup : Setup} {d : Document} {s t : Session} {built : List (Location × Node)}
    (hd : d.content.isJson = true) (hhomes : t.homes = []) (h : s.Completes (t.Tells setup d) built t)
    (hevery : d.content.every
      (fun v => t.registry.nodes.all fun e => (e.2.findings v .root .root).toOption.isSome) = true) :
    ∀ b ∈ built, b.1.Evaluates setup b.2 := by
  intro b hb sample hsample
  obtain ⟨hwithin, hbuilt⟩ := h.told b hb
  have hdocument : b.1.document = d := by
    refine hwithin.document.resolve_right ?_
    rintro ⟨uri, home, hlookup, -⟩
    rw [hhomes] at hlookup
    cases hlookup
  have heval : sample.1.eval d.content = .ok sample.2 := by
    have hleads := hwithin.sits.sample hsample
    rw [hdocument] at hleads
    exact hleads.eval hd
  have hnode : (b.1.place, b.2) ∈ t.registry.nodes := by
    rw [h.nodes]
    exact List.mem_append_left _ (List.mem_reverse.2 (List.mem_map_of_mem hb))
  obtain ⟨f, hf⟩ := Option.isSome_iff_exists.1 (List.all_eq_true.1 (Pointer.of_every hevery heval) _ hnode)
  -- The nodes were tried from the root; where they report from does not change whether they have findings.
  have hmoves := b.2.findings_append sample.2 b.2.site.path sample.1 .root .root hbuilt.clears
  rw [Pointer.append_root, Pointer.append_root, toOption_eq_some.1 hf] at hmoves
  exact ⟨_, hmoves⟩

/-- A document that refers twice to a part with an example and a default that it does not accept. -/
def sharedDocument : Value :=
  .ofPairs [("properties", .ofPairs [("a", .ofPairs [("$ref", .str "#/definitions/s")]),
      ("b", .ofPairs [("$ref", .str "#/definitions/s")])]),
    ("definitions", .ofPairs [("s", .ofPairs [("type", .str "string"), ("examples", .arr [.str "x", .int 1]),
      ("default", .int 2)])])]

/-- The samples of the part are checked once, before the two references are completed. -/
theorem compileAt_noted_shared : ∃ (setup : Setup) (s t : Session) (schema : Schema) (built : List (Location × Node)),
    Session.after setup [.value (.bool true) none] = s ∧
    (compileAt setup.unchecked (.numbered 1 sharedDocument) .root).run.run s = (.ok schema, t) ∧
    (∀ b ∈ built, b.1.Evaluates setup b.2) ∧
    built.map (·.1.pointer) = [⟨["definitions", "s"]⟩, ⟨["properties", "a"]⟩, ⟨["properties", "b"]⟩, .root] ∧
    (compileAt setup (.numbered 1 sharedDocument) .root).run.run s = (.ok schema, t.noted setup built) ∧
    (t.noted setup built).examples.map (·.location) = List.replicate 2 ⟨["definitions", "s", "examples", "1"]⟩ ∧
    (t.noted setup built).defaults.map (·.location) = List.replicate 2 ⟨["definitions", "s", "default"]⟩ := by
  let setup : Setup := { world := .ofTable [], options := ⟨false, true, true⟩ }
  obtain ⟨schema, t, hrun, h⟩ := exists_of_endsWith
    (x := (compileAt setup.unchecked (.numbered 1 sharedDocument) .root).run.run
      (Session.after setup [.value (.bool true) none]))
    (p := fun _ t => t.homes.isEmpty && sharedDocument.every (fun v => t.registry.nodes.all fun e =>
      (e.2.findings v .root .root).toOption.isSome) && t.registry.nodes.map (·.1.pointer) ==
        [.root, ⟨["properties", "b"]⟩, ⟨["properties", "a"]⟩, ⟨["definitions", "s"]⟩, .root].map Pointer.codes)
    (by decide +kernel)
  obtain ⟨h, hpointers⟩ := Bool.and_eq_true_iff.1 h
  obtain ⟨hhomes, hevery⟩ := Bool.and_eq_true_iff.1 h
  obtain ⟨built, hbuilt, -, -, hobserves⟩ :=
    (compileAt_noted setup setup [.value (.bool true) none] (.numbered 1 sharedDocument) .root).1 _ _ _ rfl hrun
  have heval := evaluates_of_every (by decide +kernel) (List.isEmpty_iff.1 hhomes) hbuilt hevery
  have hchecked := hobserves heval
  -- The nodes are filed in the order in which they are completed, the last one first.
  have hplaces : built.map (·.1.pointer) =
      [⟨["definitions", "s"]⟩, ⟨["properties", "a"]⟩, ⟨["properties", "b"]⟩, .root] := by
    have hpointers : t.registry.nodes.map (·.1.pointer) = _ := beq_iff_eq.1 hpointers
    rw [hbuilt.nodes, List.map_append, List.map_reverse, List.map_map] at hpointers
    have hbefore : (Session.after setup [.value (.bool true) none]).registry.nodes.map (·.1.pointer) = [↑Pointer.root] := by
      decide +kernel
    rw [hbefore] at hpointers
    have hreversed := congrArg List.reverse hpointers
    rw [List.reverse_append, List.reverse_reverse] at hreversed
    refine List.map_injective_iff.2 (fun _ _ => CodePointer.codes_inj.1) ?_
    rw [List.map_map]
    exact (List.cons.inj hreversed).2
  have hnoted : (fun u : Session =>
      u.examples.map (·.location) == List.replicate 2 ⟨["definitions", "s", "examples", "1"]⟩ &&
      u.defaults.map (·.location) == List.replicate 2 ⟨["definitions", "s", "default"]⟩)
      ((compileAt setup (.numbered 1 sharedDocument) .root).run.run
        (Session.after setup [.value (.bool true) none])).2 = true := by
    decide +kernel
  rw [hchecked] at hnoted
  obtain ⟨hexamples, hdefaults⟩ := Bool.and_eq_true_iff.1 hnoted
  exact ⟨setup, _, t, schema, built, rfl, hrun, heval, hplaces, hchecked, beq_iff_eq.1 hexamples, beq_iff_eq.1 hdefaults⟩

end Schema

end Conform
