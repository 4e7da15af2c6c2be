import Conform.Proofs.Compile.Documents
import Conform.Proofs.Compile.Survey

/-!
# What the registry keeps

A compilation that succeeds takes nothing from the registry: what has been filed stays filed, and what was being compiled
still is (`Registry.runs_compile`).  So the node of a location is built from nodes that are all in the registry in the end,
each under the place of its own location (`Registry.built_of_compile`).
-/

namespace Conform

namespace Registry

/-- The node is filed under the place of the location. -/
def Holds (r : Registry) (l : Location) (n : Node) : Prop := r.node? l.place = some n

/-- What is in the registry is in the other. -/
def Within (r r' : Registry) : Prop := ∀ p state, r.find? p = some state → r'.find? p = some state

variable {r r' : Registry} {l : Location} {p : Place} {n : Node}

theorem Within.refl (r : Registry) : r.Within r := fun _ _ h => h

theorem Within.holds (h : r.Within r') (hn : r.Holds l n) : r'.Holds l n :=
  find?_eq_done.1 (h _ _ (find?_eq_done.2 hn))

/-- A place that is not in the registry may be marked, and then stored, without loss. -/
theorem within_set (h : r.find? p = none) (h' : (r.mark p).Within r') (n : Node) : r.Within (r'.store p n) := by
  intro q state hq
  have hne : q ≠ p := by
    rintro rfl
    rw [h] at hq
    cases hq
  have hmark : (r.mark p).find? q = some state := by rw [mark, find?_set, if_neg hne, hq]
  rw [store, find?_set, if_neg hne]
  exact h' q state hmark

/-- To store the node of a marked place changes no other node. -/
theorem Holds.store (hn : r.Holds l n) (h : r.find? p = some .compiling) (m : Node) : (r.store p m).Holds l n := by
  have hne : l.place ≠ p := by
    rintro rfl
    rw [Holds, ← find?_eq_done, h] at hn
    cases hn
  rw [Holds, node?_store, if_neg hne]
  exact hn

/-! ### Compiling -/

/-- The course of computations that take nothing from the registry. -/
def course : Course Failure Session where
  inv _ := True
  later s t := s.registry.Within t.registry
  fails _ _ := True
  refl s := .refl s.registry
  trans h h' p state hs := h' p state (h p state hs)

variable {setup : Setup} {descend : Location → Compiling Node} {P : Session → Prop} {members : List (Scalar × Value)}

private theorem refuses {kind : Failure → Session → Prop} {can : Session → Prop} : course.Refuses P kind can :=
  fun _ _ _ _ _ _ => trivial

private theorem runs_target {ref : String} {path : Pointer} :
    Runs course P ((l.scope setup descend members).target ref path) fun _ _ => True := by
  refine (Scope.runs_target (fun _ _ _ => True) (fun full uri fragment _ hsplit => ?_) refuses).weaken (fun _ h => h)
    fun _ _ _ _ => trivial
  refine Scope.runs_home (Uri.not_mem_of_splitFragment hsplit) (fun _ _ _ => trivial) (fun _ _ _ _ _ _ _ _ => trivial)
    (fun _ s d t _ _ hload => ?_) fun _ _ _ _ _ _ _ => trivial
  obtain ⟨loader, homes, rfl⟩ := hload.rest
  exact ⟨trivial, .refl _, fun _ _ => trivial⟩

/-- A location is built from nodes that are in the registry, if the descents leave theirs there. -/
theorem runs_build (hd : ∀ t, Runs course (fun _ => True) (descend t) fun m s => s.registry.Holds t m) :
    Runs course (fun _ => True) (build setup descend l) fun n s => Built setup s.registry.Holds anywhere l n := by
  unfold build
  split
  · rename_i allows hvalue
    refine .pure fun s _ => ?_
    rw [Built, hvalue]
    rfl
  · rename_i members hvalue
    refine (Scope.runs_object (fun s => s.registry.Holds) (fun _ => anywhere) (C := course)
      (fun _ _ _ _ => ⟨trivial, .refl _⟩) (fun _ _ _ _ => ⟨trivial, .refl _⟩)
      (fun _ _ _ _ _ _ _ _ _ => ⟨trivial, .refl _⟩) refuses (fun _ _ _ _ _ _ _ => trivial)
      (fun _ _ _ part _ => hd part) fun inner _ value hmem _ => ?_).weaken (fun _ h => h) fun n s _ hn => ?_
    · refine Scope.runs_reference (fun s => s.registry.Holds) (fun _ => anywhere) (fun _ _ => True) hmem refuses
        (fun ref _ => ?_) fun ref t fragment _ => ?_
      · exact runs_target.weaken (fun _ h => h) fun _ _ _ _ => ⟨trivial, trivial⟩
      · exact (hd t).strengthen fun _ _ => trivial
    · rw [Built, hvalue]
      exact hn
  · exact .throw fun _ _ _ => trivial

/-- A compilation that succeeds takes nothing from the registry, and leaves the node of its location there. -/
theorem runs_compile (setup : Setup) (fuel : Nat) (l : Location) :
    Runs course (fun _ => True) (compile setup fuel l) fun n s => s.registry.Holds l n := by
  -- The induction is on the fuel: what the descents file stays, and the place that is stored in the end was not there before.
  induction fuel generalizing l with
  | zero => exact .throw fun _ _ _ => trivial
  | succ fuel ih =>
    intro s _ _
    rw [compile, Compiling.run_getOrCreate_place]
    cases hfind : s.registry.find? l.place with
    | some state =>
      cases state with
      | compiling => exact trivial
      | done n => exact ⟨trivial, .refl _, fun t ht => find?_eq_done.1 (ht _ _ hfind)⟩
    | none =>
      have hbuild : Runs course (fun _ => True) (build setup (compile setup fuel) l) _ := runs_build ih
      have h := hbuild { s with registry := s.registry.mark l.place } trivial fun _ _ => trivial
      dsimp only
      generalize (build setup (compile setup fuel) l).run.run { s with registry := s.registry.mark l.place } = r at h
      obtain ⟨r, t⟩ := r
      cases r with
      | error e => exact trivial
      | ok n =>
        obtain ⟨-, hlater, -⟩ := h
        refine ⟨trivial, within_set hfind hlater n, fun u hu => hu.holds ?_⟩
        rw [Holds, node?_store, if_pos rfl]

/-- The node of a location that has been compiled, and was not in the registry, has been built from nodes that are. -/
theorem built_of_compile {fuel : Nat} {s t : Session} (hnew : s.registry.find? l.place = none)
    (h : (compile setup fuel l).run.run s = (.ok n, t)) : Built setup t.registry.Holds anywhere l n := by
  cases fuel with
  | zero => cases h
  | succ fuel =>
    have hruns : Runs course (fun _ => True) (build setup (compile setup fuel) l) _ := runs_build (runs_compile setup fuel)
    have hbuild := hruns { s with registry := s.registry.mark l.place } trivial fun _ _ => trivial
    rw [compile, Compiling.run_getOrCreate_place, hnew] at h
    dsimp only at h
    generalize (build setup (compile setup fuel) l).run.run { s with registry := s.registry.mark l.place } = r at h hbuild
    obtain ⟨r, u⟩ := r
    cases r with
    | error e => cases h
    | ok m =>
      cases h
      obtain ⟨-, hlater, hbuilt⟩ := hbuild
      -- While the node is built its place stays marked, so to store it overwrites no other node.
      have hmark : (s.registry.mark l.place).find? l.place = some .compiling := by rw [mark, find?_set, if_pos rfl]
      exact hbuilt.self.mono (fun t m hm => hm.store (hlater _ _ hmark) n) fun _ _ _ _ h => h

end Registry

end Conform
