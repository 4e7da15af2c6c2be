import Conform.Proofs.CodePointer
import Conform.Proofs.Compile.Runs
import Conform.Proofs.Result

/-!
# The memory of a session

What the registry holds after a change (`Registry.node?_store` and its neighbours), and what a session is trusted
to hold (`Session.Sound`): documents of a kind, and for each compiled location a node with the meaning of that
location.  `Compiling.getOrCreate` keeps a session sound if the build of the location does.
-/

namespace Conform

/-! ### Places that can be written -/

section Place

variable {p : Place}

theorem Place.recursion_of_isPlain (h : p.pointer.IsPlain) : p.recursion = .schema .recursion p.uri? (some p.pointer) := by
  obtain ⟨fragment, hfragment⟩ := CodePointer.exists_fragmentKeeping_iff.2 h
  unfold Place.recursion
  rw [show p.pointer.schemaFragment = .ok fragment from hfragment]
  cases p.uri? <;> rfl

theorem Place.hit_of_isPlain (h : p.pointer.IsPlain) (n : Node) : p.hit n = .ok n := by
  obtain ⟨fragment, hfragment⟩ := CodePointer.exists_fragmentKeeping_iff.2 h
  unfold Place.hit
  rw [show p.pointer.fragment = .ok fragment from hfragment]
  rfl

/-- The pointers of locations are those of texts. -/
theorem Location.isPlain_place (l : Location) : l.place.pointer.IsPlain := CodePointer.isPlain_codes l.pointer

theorem Location.pointer_of_place {l l' : Location} (h : l.place = l'.place) : l.pointer = l'.pointer :=
  CodePointer.codes_inj.1 (congrArg Place.pointer h)

end Place

namespace Registry

private theorem lookup_without (p q : Place) (entries : List (Place × Progress)) :
    (without p entries).lookup q = if q = p then none else entries.lookup q := by
  induction entries with
  | nil => simp [without]
  | cons e entries ih =>
    obtain ⟨place, progress⟩ := e
    have hcons : without p ((place, progress) :: entries) =
        if place = p then without p entries else (place, progress) :: without p entries := by
      by_cases hp : place = p <;> simp [without, hp]
    rw [hcons, List.lookup_cons]
    split
    · rename_i hp
      subst hp
      rw [ih]
      by_cases hq : q = place
      · simp [hq]
      · simp [hq, beq_eq_false_iff_ne.2 hq]
    · rename_i hp
      rw [List.lookup_cons, ih]
      by_cases hq : q = place
      · subst hq
        simp [hp]
      · simp [beq_eq_false_iff_ne.2 hq]

theorem find?_set (r : Registry) (p q : Place) (state : Progress) :
    (r.set p state).find? q = if q = p then some state else r.find? q := by
  unfold set find?
  rw [List.lookup_cons, lookup_without]
  by_cases hq : q = p
  · simp [hq]
  · simp [hq, beq_eq_false_iff_ne.2 hq]

theorem find?_discard (r : Registry) (p q : Place) :
    (r.discard p).find? q = if q = p then none else r.find? q := lookup_without p q r.entries

theorem find?_eq_done {r : Registry} {p : Place} {n : Node} : r.find? p = some (.done n) ↔ r.node? p = some n := by
  unfold node?
  split <;> simp_all

theorem node?_store (r : Registry) (p q : Place) (n : Node) :
    (r.store p n).node? q = if q = p then some n else r.node? q := by
  unfold node? store
  rw [find?_set]
  by_cases hq : q = p <;> simp [hq]

theorem node?_of_mark {r : Registry} {p q : Place} {n : Node} (h : (r.mark p).node? q = some n) :
    r.node? q = some n := by
  rw [← find?_eq_done] at h ⊢
  unfold mark at h
  rw [find?_set] at h
  split at h
  · simp at h
  · exact h

theorem node?_of_discard {r : Registry} {p q : Place} {n : Node} (h : (r.discard p).node? q = some n) :
    r.node? q = some n := by
  rw [← find?_eq_done] at h ⊢
  rw [find?_discard] at h
  split at h
  · simp at h
  · exact h

end Registry

/-- What the documents of a session are like: those that are cached, and those under a URI. -/
abbrev Stock := List (String × Loaded) → List (String × Home) → Prop

/-- A session whose documents are like this, and whose nodes have the meanings of their locations. -/
structure Session.Sound (stock : Stock) (means : Place → Node → Prop) (s : Session) : Prop where
  stock : stock s.loader.cache s.homes
  nodes : ∀ {p n}, s.registry.node? p = some n → means p n

namespace Compiling

variable {stock : Stock} {means : Place → Node → Prop} {α : Type} {Q : α → Prop}

theorem run_ofExcept (x : Except Failure α) (s : Session) : (ofExcept x).run.run s = (x, s) := by
  cases x <;> rfl

theorem of_run_ofExcept {x : Except Failure α} {a : α} {s t : Session} (h : (ofExcept x).run.run s = (.ok a, t)) :
    x = .ok a ∧ s = t := by
  rw [run_ofExcept] at h
  exact Prod.mk.inj h

theorem runs_ofExcept {C : Course Failure Session} {P : Session → Prop} {Q : α → Session → Prop}
    {x : Except Failure α} (h : ∀ a, x = .ok a → ∀ s, P s → Q a s)
    (hfails : ∀ e, x = .error e → ∀ s, C.inv s → C.Always s P → C.fails e s) : Runs C P (ofExcept x) Q := by
  unfold ofExcept
  cases x with
  | error e => exact .throw (hfails e rfl)
  | ok a => exact .pure (h a rfl)

theorem keeps_ofExcept {I : Session → Prop} {x : Except Failure α} (h : ∀ a, x = .ok a → Q a) :
    Keeps I (ofExcept x) Q := by
  unfold ofExcept
  cases x with
  | error e => exact .throw e
  | ok a => exact .pure (h a rfl)

theorem keeps_modifyRegistry {f : Registry → Registry}
    (hf : ∀ r p n, (∀ q m, r.node? q = some m → means q m) → (f r).node? p = some n → means p n) :
    Keeps (Session.Sound stock means) (modifyRegistry f) fun _ => True :=
  .modify fun s hs => ⟨hs.stock, fun {p n} h => hf s.registry p n (fun _ _ => hs.nodes) h⟩

theorem keeps_compiled? (p : Place) :
    Keeps (Session.Sound stock means) (compiled? p) fun node => ∀ n, node = some n → means p n := by
  unfold compiled?
  refine Keeps.get.bind fun s hs => ?_
  split
  · exact .throw _
  · rename_i n h
    refine (keeps_ofExcept (Q := (· = n)) fun m hm => ?_).bind fun m hm => .pure fun m' hm' => ?_
    · obtain ⟨-, -, rfl⟩ := map_eq_ok.1 hm
      rfl
    · cases hm'
      rw [hm]
      exact hs.nodes (Registry.find?_eq_done.1 h)
  · exact .pure (by simp)

/-- A location that is asked for is found with its meaning, or it is built with it. -/
theorem keeps_getOrCreate {p : Place} {build : Compiling Node}
    (hbuild : Keeps (Session.Sound stock means) build (means p)) :
    Keeps (Session.Sound stock means) (getOrCreate p build) (means p) := by
  unfold getOrCreate
  refine (keeps_compiled? p).bind fun node hnode => ?_
  cases node with
  | some n => exact .pure (hnode n rfl)
  | none =>
    refine (keeps_modifyRegistry fun r q n hr h => hr q n (Registry.node?_of_mark h)).andThen ?_
    refine (Keeps.tryCatch hbuild fun e => ?_).bind fun n hn => ?_
    · exact (keeps_modifyRegistry fun r q n hr h => hr q n (Registry.node?_of_discard h)).andThen (.throw e)
    · refine (keeps_modifyRegistry fun r q m hr h => ?_).andThen (.pure hn)
      rw [Registry.node?_store] at h
      split at h
      · cases h
        subst q
        exact hn
      · exact hr q m h

theorem keeps_anonymousKey : Keeps (Session.Sound stock means) anonymousKey fun _ => True := by
  unfold anonymousKey
  refine Keeps.get.bind fun s hs => ?_
  exact (Keeps.set ⟨hs.stock, hs.nodes⟩).andThen (.pure trivial)

end Compiling

end Conform
