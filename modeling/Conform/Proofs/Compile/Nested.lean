import Conform.Proofs.Compile.Survey

/-!
# Nested builds

A build that asks for the nodes of other locations does so by calls of `Compiling.getOrCreate` inside its own, to any
depth.  A `Builder` is such a build with nothing else in it, and `Play` gives an account of it: the result, the session
in the end, and which locations have been looked up and built on the way, in order.  The account is that of the run
(`Builder.run_call`).

What carries the proofs is that the marks of the registry are those of the locations that are being built, besides those
that were there in the first place (`Builder.Marked`).  So a lookup is refused for these locations and no others, no
mark is left over, and each location is built to the end once at most (`Compiling.getOrCreate_exact`).  One thing gets in
the way: a lookup that finds a node is recorded with the fragment of its pointer, and fails if there is none
(`Compiling.getOrCreate_of_half`).
-/

namespace Conform

open Compiling (compiled? getOrCreate)

namespace Registry

variable {r : Registry} {p q : Place}

theorem isCompiling_iff : r.isCompiling p = true ↔ r.find? p = some .compiling := by
  unfold isCompiling
  split <;> simp_all

theorem find?_eq_none_iff : r.find? p = none ↔ r.isCompiling p = false ∧ r.node? p = none := by
  unfold isCompiling node?
  cases r.find? p with
  | none => simp
  | some state => cases state <;> simp

theorem node?_mark (h : r.find? p = none) (q : Place) : (r.mark p).node? q = r.node? q := by
  unfold node? mark
  rw [find?_set]
  by_cases hq : q = p
  · subst hq
    simp [h]
  · simp [hq]

theorem node?_discard (r : Registry) (p q : Place) :
    (r.discard p).node? q = if q = p then none else r.node? q := by
  unfold node?
  rw [find?_discard]
  by_cases hq : q = p <;> simp [hq]

end Registry

/-- A build that does nothing but ask for the nodes of locations, each of which has a build of its own.  The answer may
be a failure, with which the build may fail or not. -/
inductive Builder where
  | give (node : Node)
  | fail (e : Failure)
  | ask (p : Place) (inner : Builder) (next : Except Failure Node → Builder)

/-- What happens in a build. -/
inductive Event where
  /-- A location is looked up while others are being built, and the lookup may fail. -/
  | lookup (running : List Place) (p : Place) (refusal : Option Failure)
  /-- The build of a location gives a node. -/
  | built (p : Place) (node : Node)

/-- The location that an event has built. -/
def Event.built? : Event → Option Place
  | lookup .. => none
  | built p _ => some p

/-- The account of a build. -/
structure Play where
  result : Except Failure Node
  session : Session
  log : List Event

namespace Builder

open Registry (isCompiling_iff find?_eq_none_iff)

/-- The build as a computation. -/
def build : Builder → Compiling Node
  | give node => return node
  | fail e => throw e
  | ask p inner next => do
    let answer ← tryCatch (return .ok (← getOrCreate p inner.build)) fun e => return .error e
    (next answer).build

/-- The failure of a result. -/
def failure? {α : Type} : Except Failure α → Option Failure
  | .ok _ => none
  | .error e => some e

/-- The account of a call for the node of a location, given that of its build. -/
def call (running : List Place) (p : Place) (inner : Session → Play) (s : Session) : Play :=
  match (compiled? p).run.run s with
  | (.error e, s) => ⟨.error e, s, [.lookup running p (some e)]⟩
  | (.ok (some node), s) => ⟨.ok node, s, [.lookup running p none]⟩
  | (.ok none, s) =>
    let play := inner { s with registry := s.registry.mark p }
    match play.result with
    | .ok node =>
      ⟨.ok node, { play.session with registry := play.session.registry.store p node },
        .lookup running p none :: (play.log ++ [.built p node])⟩
    | .error e =>
      ⟨.error e, { play.session with registry := play.session.registry.discard p }, .lookup running p none :: play.log⟩

/-- The account of a build, while the locations that it is for are being built. -/
def play (running : List Place) : Builder → Session → Play
  | give node, s => ⟨.ok node, s, []⟩
  | fail e, s => ⟨.error e, s, []⟩
  | ask p inner next, s =>
    let here := call running p (play (p :: running) inner) s
    let others := play running (next here.result) here.session
    ⟨others.result, others.session, here.log ++ others.log⟩

variable {running : List Place} {p q : Place} {n : Node} {e : Failure} {s : Session}

/-! ### The account and the run -/

theorem call_of_compiling (h : s.registry.find? p = some .compiling) (inner : Session → Play) :
    call running p inner s =
      ⟨.error p.recursion, s, [.lookup running p (some p.recursion)]⟩ := by
  rw [call, Compiling.run_compiled?, h]

theorem call_of_done (h : s.registry.find? p = some (.done n)) (inner : Session → Play) :
    call running p inner s = ⟨p.hit n, s, [.lookup running p (failure? (p.hit n))]⟩ := by
  rw [call, Compiling.run_compiled?, h]
  dsimp only
  cases p.hit n <;> rfl

theorem call_of_ok {inner : Session → Play} (h : s.registry.find? p = none)
    (hresult : (inner { s with registry := s.registry.mark p }).result = .ok n) :
    let play := inner { s with registry := s.registry.mark p }
    call running p inner s =
      ⟨.ok n, { play.session with registry := play.session.registry.store p n },
        .lookup running p none :: (play.log ++ [.built p n])⟩ := by
  rw [call, Compiling.run_compiled?, h]
  dsimp only
  rw [hresult]

theorem call_of_error {inner : Session → Play} (h : s.registry.find? p = none)
    (hresult : (inner { s with registry := s.registry.mark p }).result = .error e) :
    let play := inner { s with registry := s.registry.mark p }
    call running p inner s =
      ⟨.error e, { play.session with registry := play.session.registry.discard p },
        .lookup running p none :: play.log⟩ := by
  rw [call, Compiling.run_compiled?, h]
  dsimp only
  rw [hresult]

theorem run_call_of {x : Compiling Node} {inner : Session → Play}
    (h : ∀ s, x.run.run s = ((inner s).result, (inner s).session)) (running : List Place) (p : Place) (s : Session) :
    (getOrCreate p x).run.run s = ((call running p inner s).result, (call running p inner s).session) := by
  rw [Compiling.run_getOrCreate]
  cases hfind : s.registry.find? p with
  | some state =>
    cases state with
    | compiling => rw [call_of_compiling hfind]
    | done n => rw [call_of_done hfind]
  | none =>
    dsimp only
    rw [h]
    cases hresult : (inner { s with registry := s.registry.mark p }).result with
    | ok n => rw [call_of_ok hfind hresult]
    | error e => rw [call_of_error hfind hresult]

theorem run_observed (x : Compiling Node) (s : Session) :
    (tryCatch (return .ok (← x)) fun e => return .error e : Compiling (Except Failure Node)).run.run s =
      (.ok (x.run.run s).1, (x.run.run s).2) := by
  rw [run_tryCatch, run_bind_pure]
  generalize x.run.run s = r
  obtain ⟨r, t⟩ := r
  cases r <;> rfl

/-- The account of a build is that of its run. -/
theorem run_build (b : Builder) (running : List Place) (s : Session) :
    b.build.run.run s = ((b.play running s).result, (b.play running s).session) := by
  induction b generalizing running s with
  | give node => rfl
  | fail e => rfl
  | ask p inner next ihinner ihnext =>
    rw [build, run_bind, run_observed, run_call_of (ihinner (p :: running)) running p s]
    exact ihnext _ running _

theorem run_call (b : Builder) (running : List Place) (p : Place) (s : Session) :
    (getOrCreate p b.build).run.run s =
      ((call running p (b.play (p :: running)) s).result, (call running p (b.play (p :: running)) s).session) :=
  run_call_of (b.run_build (p :: running)) running p s

/-! ### Marks -/

/-- The marks of a registry are those of another one and those of the locations that are being built. -/
def Marked (before : Registry) (running : List Place) (r : Registry) : Prop :=
  ∀ q, r.isCompiling q = true ↔ q ∈ running ∨ before.isCompiling q = true

theorem Marked.mark {before r : Registry} (h : Marked before running r) (p : Place) :
    Marked before (p :: running) (r.mark p) := by
  intro q
  have hq := h q
  rw [isCompiling_iff] at hq ⊢
  rw [Registry.mark, Registry.find?_set, List.mem_cons]
  split
  · simp [*]
  · simp [*]

/-- The mark of a location that is neither being built nor marked elsewhere has been taken away. -/
theorem Marked.unmark {before r r' : Registry} (h : Marked before (p :: running) r)
    (hp : ¬(p ∈ running ∨ before.isCompiling p = true)) (hother : ∀ q, q ≠ p → r'.find? q = r.find? q)
    (hself : r'.find? p ≠ some .compiling) : Marked before running r' := by
  intro q
  by_cases hq : q = p
  · subst hq
    rw [isCompiling_iff]
    exact iff_of_false hself hp
  · rw [isCompiling_iff, hother q hq, ← isCompiling_iff, h q, List.mem_cons]
    simp [hq]

/-- The refusal of a lookup while locations are being built, from a session with such a registry on. -/
def refusal? (before : Registry) (running : List Place) (p : Place) : Option Failure :=
  if p ∈ running ∨ before.isCompiling p = true then some p.recursion else none

/-- How a lookup may fail: it is refused, or it finds a node under a pointer that cannot be written. -/
def Answers (before : Registry) (running : List Place) (after : Registry) (p : Place) (failure : Option Failure) : Prop :=
  failure = refusal? before running p ∨ refusal? before running p = none ∧ ¬p.pointer.IsPlain ∧
    (∃ t, failure = some (.unencodable t)) ∧ ∃ n, after.node? p = some n

/-- The account of a build keeps the books: of the session only the entries of the registry change, no mark is added or
left out, what is new in the registry is what has been built, each location once, and a lookup is refused where a
location would refer to itself. -/
structure Exact (before : Registry) (running : List Place) (s : Session) (play : Play) : Prop where
  frame : ∃ entries, play.session = { s with registry := { s.registry with entries } }
  marked : Marked before running play.session.registry
  nodes : ∀ q n, play.session.registry.node? q = some n ↔ s.registry.node? q = some n ∨ .built q n ∈ play.log
  new : ∀ q n, .built q n ∈ play.log → s.registry.find? q = none
  once : (play.log.filterMap Event.built?).Nodup
  lookups : ∀ running' q failure, .lookup running' q failure ∈ play.log →
    Answers before running' play.session.registry q failure

variable {before : Registry}

/-- Nothing has been built. -/
theorem Exact.unchanged (h : Marked before running s.registry) {result : Except Failure Node} {log : List Event}
    (hbuilt : ∀ q n, .built q n ∉ log) (hlog : log.filterMap Event.built? = [])
    (hlookups : ∀ running' q failure, .lookup running' q failure ∈ log → Answers before running' s.registry q failure) :
    Exact before running s ⟨result, s, log⟩ where
  frame := ⟨s.registry.entries, rfl⟩
  marked := h
  nodes q n := by simp [hbuilt]
  new q n hq := absurd hq (hbuilt q n)
  once := by rw [hlog]; exact .nil
  lookups := hlookups

/-- A lookup that decides the call. -/
theorem Exact.lookup (h : Marked before running s.registry) {result : Except Failure Node} {failure : Option Failure}
    (hanswers : Answers before running s.registry p failure) :
    Exact before running s ⟨result, s, [.lookup running p failure]⟩ := by
  refine .unchanged h (by simp) rfl fun running' q failure' hq => ?_
  rw [List.mem_singleton] at hq
  cases hq
  exact hanswers

/-- Nodes that are filed later do not change an answer. -/
theorem Answers.mono {r r' : Registry} {failure : Option Failure} (h : Answers before running r p failure)
    (hnodes : ∀ n, r.node? p = some n → r'.node? p = some n) : Answers before running r' p failure := by
  rcases h with h | ⟨hrefusal, hplain, hfailure, n, hn⟩
  · exact .inl h
  · exact .inr ⟨hrefusal, hplain, hfailure, n, hnodes n hn⟩

/-- Under a pointer that can be written a lookup is refused, and told so, exactly where the location is being built or marked. -/
theorem Answers.of_isPlain {r : Registry} {failure : Option Failure} (h : Answers before running r p failure)
    (hplain : p.pointer.IsPlain) : (failure ≠ none ↔ p ∈ running ∨ before.isCompiling p = true) ∧
      ∀ e, failure = some e → e = .schema .recursion p.uri? (some p.pointer) := by
  rcases h with hrefusal | ⟨-, hunplain, -⟩
  · rw [hrefusal, refusal?, Place.recursion_of_isPlain hplain]
    split <;> simp_all
  · exact absurd hplain hunplain

/-- Under another pointer a lookup fails there too, and else only where it finds a node. -/
theorem Answers.of_not_isPlain {r : Registry} {failure : Option Failure} (h : Answers before running r p failure) :
    (p ∈ running ∨ before.isCompiling p = true → failure = some p.recursion) ∧
      (¬(p ∈ running ∨ before.isCompiling p = true) → failure ≠ none →
        (∃ t, failure = some (.unencodable t)) ∧ r.contains p = true) := by
  rcases h with hrefusal | ⟨hrefusal, -, hfailure, n, hn⟩
  · rw [hrefusal, refusal?]
    split <;> simp_all
  · refine ⟨fun hrunning => ?_, fun _ _ => ⟨hfailure, by rw [Registry.contains, hn]; rfl⟩⟩
    rw [refusal?, if_pos hrunning] at hrefusal
    cases hrefusal

/-- A node that is found is handed out, or its pointer cannot be written. -/
theorem hit_cases (p : Place) (n : Node) :
    p.hit n = .ok n ∨ ¬p.pointer.IsPlain ∧ ∃ t, p.hit n = .error (.unencodable t) := by
  cases hfragment : p.pointer.fragment with
  | ok fragment =>
    exact .inl (Place.hit_of_isPlain (CodePointer.exists_fragmentKeeping_iff.1 ⟨fragment, hfragment⟩) n)
  | error t =>
    refine .inr ⟨fun hplain => ?_, t, by rw [Place.hit, hfragment]; rfl⟩
    obtain ⟨fragment, hok⟩ := CodePointer.exists_fragmentKeeping_iff.2 hplain
    rw [show p.pointer.fragment = .ok fragment from hok] at hfragment
    cases hfragment

theorem mem_filterMap_built? {log : List Event} : q ∈ log.filterMap Event.built? ↔ ∃ n, .built q n ∈ log := by
  rw [List.mem_filterMap]
  constructor
  · rintro ⟨event, hevent, hq⟩
    cases event with
    | lookup => cases hq
    | built p n =>
      cases hq
      exact ⟨n, hevent⟩
  · rintro ⟨n, hn⟩
    exact ⟨_, hn, rfl⟩

/-- What is not in the registry in the end was not there in the beginning. -/
theorem Exact.absent (hs : Marked before running s.registry) {play : Play} (h : Exact before running s play)
    (hq : play.session.registry.find? q = none) : s.registry.find? q = none := by
  rw [find?_eq_none_iff] at hq ⊢
  obtain ⟨hcompiling, hnode⟩ := hq
  constructor
  · rw [Bool.eq_false_iff, Ne, hs q, ← h.marked q, ← Ne, ← Bool.eq_false_iff]
    exact hcompiling
  · cases hbefore : s.registry.node? q with
    | none => rfl
    | some n =>
      have hafter := (h.nodes q n).2 (.inl hbefore)
      rw [hnode] at hafter
      cases hafter

/-- One account after the other. -/
theorem Exact.append (hs : Marked before running s.registry) {here others : Play} (h : Exact before running s here)
    (h' : Exact before running here.session others) :
    Exact before running s ⟨others.result, others.session, here.log ++ others.log⟩ where
  frame := by
    obtain ⟨entries, hsession⟩ := h.frame
    obtain ⟨entries', hsession'⟩ := h'.frame
    exact ⟨entries', by rw [hsession', hsession]⟩
  marked := h'.marked
  nodes q n := by rw [h'.nodes, h.nodes, List.mem_append, or_assoc]
  new q n hq := by
    rcases List.mem_append.1 hq with hq | hq
    · exact h.new q n hq
    · exact h.absent hs (h'.new q n hq)
  once := by
    rw [List.filterMap_append]
    refine List.nodup_append.2 ⟨h.once, h'.once, fun q hq q' hq' heq => ?_⟩
    subst heq
    obtain ⟨n, hn⟩ := mem_filterMap_built?.1 hq
    obtain ⟨n', hn'⟩ := mem_filterMap_built?.1 hq'
    have hnode := (h.nodes q n).2 (.inr hn)
    rw [(find?_eq_none_iff.1 (h'.new q n' hn')).2] at hnode
    cases hnode
  lookups running' q failure hq := by
    rcases List.mem_append.1 hq with hq | hq
    · exact (h.lookups running' q failure hq).mono fun n hn => (h'.nodes q n).2 (.inl hn)
    · exact h'.lookups running' q failure hq

section Building

variable {play : Play} (hs : Marked before running s.registry) (hnone : s.registry.find? p = none)
  (h : Exact before (p :: running) { s with registry := s.registry.mark p } play)

include hs hnone in
/-- The location of a build is not being built, nor is it marked elsewhere. -/
theorem not_marked : ¬(p ∈ running ∨ before.isCompiling p = true) := by
  rw [← hs p, isCompiling_iff, hnone]
  simp

include hs hnone in
theorem lookup_accepted (after : Registry) : Answers before running after p none := .inl (if_neg (not_marked hs hnone)).symm

include h in
/-- A location is not built inside its own build. -/
theorem Exact.not_built (n : Node) : .built p n ∉ play.log := by
  intro hbuilt
  have hnew := h.new p n hbuilt
  rw [Registry.mark, Registry.find?_set, if_pos rfl] at hnew
  cases hnew

include hnone h in
theorem Exact.nodes_inside (q : Place) (n : Node) :
    play.session.registry.node? q = some n ↔ s.registry.node? q = some n ∨ .built q n ∈ play.log := by
  have hnodes := h.nodes q n
  rwa [Registry.node?_mark hnone] at hnodes

include hnone h in
/-- A location has no node while it is being built. -/
theorem Exact.unfiled (n : Node) : play.session.registry.node? p ≠ some n := by
  intro hn
  rcases (h.nodes_inside hnone p n).1 hn with hbefore | hbuilt
  · rw [(find?_eq_none_iff.1 hnone).2] at hbefore
    cases hbefore
  · exact h.not_built n hbuilt

include h in
theorem Exact.new_inside (n : Node) (hq : .built q n ∈ play.log) : s.registry.find? q = none := by
  have hnew := h.new q n hq
  rw [Registry.mark, Registry.find?_set] at hnew
  split at hnew
  · cases hnew
  · exact hnew

include hs hnone h

/-- A build that gives a node. -/
theorem Exact.built (n : Node) : Exact before running s
    ⟨.ok n, { play.session with registry := play.session.registry.store p n },
      .lookup running p none :: (play.log ++ [.built p n])⟩ where
  frame := by
    obtain ⟨entries, hsession⟩ := h.frame
    exact ⟨_, by rw [hsession]; rfl⟩
  marked := by
    refine h.marked.unmark (not_marked hs hnone) (fun q hq => ?_) ?_
    · rw [Registry.store, Registry.find?_set, if_neg hq]
    · rw [Registry.store, Registry.find?_set, if_pos rfl]
      simp
  nodes q m := by
    rw [Registry.node?_store]
    split
    · subst q
      have hbefore := (find?_eq_none_iff.1 hnone).2
      simp [hbefore, h.not_built, eq_comm]
    · simp [h.nodes_inside hnone, *]
  new q m hq := by
    rw [List.mem_cons, List.mem_append, List.mem_singleton] at hq
    rcases hq with hq | hq | hq
    · cases hq
    · exact h.new_inside m hq
    · cases hq
      exact hnone
  once := by
    show ((play.log ++ [Event.built p n]).filterMap Event.built?).Nodup
    rw [List.filterMap_append]
    refine List.nodup_append.2 ⟨h.once, by simp [Event.built?], fun q hq q' hq' heq => ?_⟩
    subst heq
    obtain ⟨m, hm⟩ := mem_filterMap_built?.1 hq
    obtain rfl : q = p := by simpa [Event.built?] using hq'
    exact h.not_built m hm
  lookups running' q failure hq := by
    rw [List.mem_cons, List.mem_append, List.mem_singleton] at hq
    rcases hq with hq | hq | hq
    · cases hq
      exact lookup_accepted hs hnone _
    · refine (h.lookups running' q failure hq).mono fun m hm => ?_
      rw [Registry.node?_store]
      split
      · subst q
        exact absurd hm (h.unfiled hnone m)
      · exact hm
    · cases hq

/-- A build that fails. -/
theorem Exact.failed (e : Failure) : Exact before running s
    ⟨.error e, { play.session with registry := play.session.registry.discard p },
      .lookup running p none :: play.log⟩ where
  frame := by
    obtain ⟨entries, hsession⟩ := h.frame
    exact ⟨_, by rw [hsession]; rfl⟩
  marked := by
    refine h.marked.unmark (not_marked hs hnone) (fun q hq => ?_) ?_
    · rw [Registry.find?_discard, if_neg hq]
    · rw [Registry.find?_discard, if_pos rfl]
      simp
  nodes q m := by
    rw [Registry.node?_discard]
    split
    · subst q
      have hbefore := (find?_eq_none_iff.1 hnone).2
      simp [hbefore, h.not_built]
    · simp [h.nodes_inside hnone]
  new q m hq := by
    rw [List.mem_cons] at hq
    exact h.new_inside m (hq.resolve_left (by simp))
  once := h.once
  lookups running' q failure hq := by
    rw [List.mem_cons] at hq
    rcases hq with hq | hq
    · cases hq
      exact lookup_accepted hs hnone _
    · refine (h.lookups running' q failure hq).mono fun m hm => ?_
      rw [Registry.node?_discard]
      split
      · subst q
        exact absurd hm (h.unfiled hnone m)
      · exact hm

end Building

/-- A call keeps the books if the build of the location does. -/
theorem exact_call {inner : Session → Play}
    (hinner : ∀ s, Marked before (p :: running) s.registry → Exact before (p :: running) s (inner s))
    (hs : Marked before running s.registry) : Exact before running s (call running p inner s) := by
  -- A call looks first: what it finds marked or filed it does not build, and what it builds it marks before.
  cases hfind : s.registry.find? p with
  | some state =>
    cases state with
    | compiling =>
      rw [call_of_compiling hfind]
      exact .lookup hs (.inl (if_pos ((hs p).1 (isCompiling_iff.2 hfind))).symm)
    | done n =>
      have hrefusal : refusal? before running p = none := by
        refine if_neg ?_
        rw [← hs p, isCompiling_iff, hfind]
        simp
      rw [call_of_done hfind]
      rcases hit_cases p n with hhit | ⟨hplain, t, hhit⟩
      · rw [hhit]
        exact .lookup hs (.inl hrefusal.symm)
      · rw [hhit]
        exact .lookup hs (.inr ⟨hrefusal, hplain, ⟨t, rfl⟩, n, Registry.find?_eq_done.1 hfind⟩)
  | none =>
    have h := hinner { s with registry := s.registry.mark p } (hs.mark p)
    cases hresult : (inner { s with registry := s.registry.mark p }).result with
    | ok n =>
      rw [call_of_ok hfind hresult]
      exact h.built hs hfind n
    | error e =>
      rw [call_of_error hfind hresult]
      exact h.failed hs hfind e

/-- Every build keeps the books. -/
theorem exact_play (b : Builder) (running : List Place) (s : Session) (hs : Marked before running s.registry) :
    Exact before running s (b.play running s) := by
  induction b generalizing running s with
  | give node => exact .unchanged hs (by simp) rfl (by simp)
  | fail e => exact .unchanged hs (by simp) rfl (by simp)
  | ask p inner next ihinner ihnext =>
    have hhere : Exact before running s (call running p (inner.play (p :: running)) s) :=
      exact_call (ihinner (p :: running)) hs
    exact hhere.append hs (ihnext _ running _ hhere.marked)

/-- What a call gives is filed in the end, and after a failure nothing is, unless it was marked or filed under a pointer that
cannot be written, and remains so. -/
theorem call_files (inner : Session → Play) (running : List Place) (p : Place) (s : Session) :
    match (call running p inner s).result with
    | .ok n => (call running p inner s).session.registry.find? p = some (.done n)
    | .error _ => (s.registry.find? p = some .compiling ∨ (∃ n, s.registry.find? p = some (.done n)) ∧ ¬p.pointer.IsPlain) ∧
          (call running p inner s).session = s ∨
        (call running p inner s).session.registry.find? p = none := by
  cases hfind : s.registry.find? p with
  | some state =>
    cases state with
    | compiling =>
      rw [call_of_compiling hfind]
      exact .inl ⟨.inl rfl, rfl⟩
    | done n =>
      rw [call_of_done hfind]
      rcases hit_cases p n with hhit | ⟨hplain, t, hhit⟩
      · rw [hhit]
        exact hfind
      · rw [hhit]
        exact .inl ⟨.inr ⟨⟨n, rfl⟩, hplain⟩, rfl⟩
  | none =>
    cases hresult : (inner { s with registry := s.registry.mark p }).result with
    | ok n =>
      rw [call_of_ok hfind hresult]
      exact (Registry.find?_set ..).trans (if_pos rfl)
    | error e =>
      rw [call_of_error hfind hresult]
      exact .inr ((Registry.find?_discard ..).trans (if_pos rfl))

/-- What a call gives is filed in the end. -/
theorem filed_of_call {inner : Session → Play} {n : Node} (h : (call running p inner s).result = .ok n) :
    (call running p inner s).session.registry.find? p = some (.done n) := by
  have hfiles := call_files inner running p s
  rwa [h] at hfiles

/-- After a failure nothing is filed, and nothing is there unless it was marked, where the pointer can be written or no node
was there before. -/
theorem absent_of_call {inner : Session → Play} {e : Failure} (h : (call running p inner s).result = .error e)
    (hclear : p.pointer.IsPlain ∨ s.registry.contains p = false) :
    (call running p inner s).session.registry.contains p = false ∧
      (s.registry.find? p ≠ some .compiling → (call running p inner s).session.registry.find? p = none) := by
  have hfiles := call_files inner running p s
  rw [h] at hfiles
  unfold Registry.contains Registry.node? at hclear ⊢
  rcases hfiles with ⟨hmark | ⟨⟨n, hn⟩, hunplain⟩, hsession⟩ | hnone
  · rw [hsession, hmark]
    exact ⟨rfl, fun h => absurd rfl h⟩
  · rcases hclear with hplain | hnode
    · exact absurd hplain hunplain
    · rw [hn] at hnode
      cases hnode
  · rw [hnone]
    exact ⟨rfl, fun _ => rfl⟩

end Builder

/-- However builds are nested, fail and go on after failures, a call for the node of a location leaves nothing in the
session but what it has built.

The run is as the account tells, and of the session it changes only the entries of the registry.  In the end the same
locations are marked as in the beginning, and the nodes are those of the beginning and those that builds have given,
each location once at most.  The location that is asked for has the node that the call gives; if the call fails it has
none, and no entry either, unless it was marked from the beginning, or it had a node and its pointer cannot be written.

A lookup under a pointer that can be written is refused if and only if the location is being built then or was marked from
the beginning.  Under any other pointer it fails there too, and else only where it finds a node. -/
theorem Compiling.getOrCreate_exact (b : Builder) (p : Place) (s : Session) :
    let play := Builder.call [] p (b.play [p]) s
    (getOrCreate p b.build).run.run s = (play.result, play.session) ∧
      (∃ entries, play.session = { s with registry := { s.registry with entries } }) ∧
      (∀ q, play.session.registry.find? q = some .compiling ↔ s.registry.find? q = some .compiling) ∧
      (∀ q n, play.session.registry.find? q = some (.done n) ↔
        s.registry.find? q = some (.done n) ∨ .built q n ∈ play.log) ∧
      (play.log.filterMap Event.built?).Nodup ∧
      (∀ n, play.result = .ok n → play.session.registry.find? p = some (.done n)) ∧
      (∀ e, play.result = .error e → p.pointer.IsPlain ∨ s.registry.contains p = false →
        play.session.registry.contains p = false ∧
          (s.registry.find? p ≠ some .compiling → play.session.registry.find? p = none)) ∧
      (∀ running q failure, .lookup running q failure ∈ play.log → q.pointer.IsPlain →
        (failure ≠ none ↔ q ∈ running ∨ s.registry.find? q = some .compiling) ∧
          ∀ e, failure = some e → e = .schema .recursion q.uri? (some q.pointer)) ∧
      ∀ running q failure, .lookup running q failure ∈ play.log → ¬q.pointer.IsPlain →
        (q ∈ running ∨ s.registry.find? q = some .compiling → failure = some q.recursion) ∧
          (¬(q ∈ running ∨ s.registry.find? q = some .compiling) → failure ≠ none →
            (∃ t, failure = some (.unencodable t)) ∧ play.session.registry.contains q = true) := by
  intro play
  have hmarked : Builder.Marked s.registry [] s.registry := fun q => by simp
  -- From outside nothing is running, so the marks are those of the beginning.
  have h : Builder.Exact s.registry [] s play := Builder.exact_call (b.exact_play [p]) hmarked
  refine ⟨b.run_call [] p s, h.frame, fun q => ?_, fun q n => ?_, h.once, fun n => Builder.filed_of_call,
    fun e => Builder.absent_of_call, fun running q failure hq hplain => ?_, fun running q failure hq _ => ?_⟩
  · simpa [Registry.isCompiling_iff] using h.marked q
  · rw [Registry.find?_eq_done, Registry.find?_eq_done]
    exact h.nodes q n
  · rw [← Registry.isCompiling_iff]
    exact (h.lookups running q failure hq).of_isPlain hplain
  · rw [← Registry.isCompiling_iff]
    exact (h.lookups running q failure hq).of_not_isPlain

/-- A location is compiled, and its pointer has half of a surrogate pair for a token.  When it is asked for again, the call
fails, though its node is there and nothing is being built. -/
theorem Compiling.getOrCreate_of_half :
    let p : Place := ⟨"http://x/s", ⟨[⟨[.half 0]⟩]⟩⟩
    let node : Node := .constant {} true
    let s : Session := { registry := { entries := [(p, .done node)] } }
    ((getOrCreate p (Builder.give node).build).run.run s).1 = .error (.unencodable ⟨[.half 0]⟩) ∧
      ((getOrCreate p (Builder.give node).build).run.run s).2.registry.find? p = some (.done node) := by
  intro p node s
  have hfind : s.registry.find? p = some (.done node) := by simp [s, Registry.find?]
  rw [run_getOrCreate, hfind]
  exact ⟨rfl, hfind⟩

/-- The build of `p` asks twice for `q`, whose build asks for `p` and goes on when it is refused. -/
example :
    let p : Place := ⟨"a", Pointer.root⟩
    let q : Place := ⟨"b", Pointer.root⟩
    let node : Node := .constant {} true
    let inner : Builder := .ask p (.give node) fun _ => .give node
    let b : Builder := .ask q inner fun _ => .ask q (.fail .endless) fun _ => .give node
    (Builder.call [] p (b.play [p]) {}).log =
      [.lookup [] p none, .lookup [p] q none, .lookup [q, p] p (some (.schema .recursion (some "a") (some Pointer.root))),
        .built q node, .lookup [p] q none, .built p node] :=
  rfl

end Conform
