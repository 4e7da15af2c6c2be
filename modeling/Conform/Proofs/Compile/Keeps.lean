import Conform.Compile.Session
import Conform.Proofs.Lists

/-!
# What computations keep

`Keeps I x Q`: from a state with the property `I` the computation `x` ends in a state with it, whether it fails or
not, and what it gives is as `Q` tells.  The rules follow the ways in which computations are put together.
-/

namespace Conform

/-- A computation that may fail, and whose changes of the state stay if it does. -/
abbrev Computing (ε σ : Type) := ExceptT ε (StateM σ)

theorem run_bind {ε σ α β : Type} (x : Computing ε σ α) (f : α → Computing ε σ β) (s : σ) :
    (x >>= f).run.run s =
      match x.run.run s with
      | (.ok a, s') => (f a).run.run s'
      | (.error e, s') => (.error e, s') := by
  rw [ExceptT.run_bind, StateT.run_bind]
  generalize x.run.run s = r
  obtain ⟨r, s'⟩ := r
  cases r <;> rfl

/-- What goes well to the end has gone well in its first part. -/
theorem exists_of_run_bind {ε σ α β : Type} {x : Computing ε σ α} {f : α → Computing ε σ β} {s t : σ} {b : β}
    (h : (x >>= f).run.run s = (.ok b, t)) : ∃ a u, x.run.run s = (.ok a, u) ∧ (f a).run.run u = (.ok b, t) := by
  rw [run_bind] at h
  generalize x.run.run s = r at h
  obtain ⟨r, u⟩ := r
  cases r with
  | error e => cases h
  | ok a => exact ⟨a, u, rfl, h⟩

theorem run_bind_pure {ε σ α β : Type} (x : Computing ε σ α) (f : α → β) (s : σ) :
    (x >>= fun a => pure (f a)).run.run s = ((x.run.run s).1.map f, (x.run.run s).2) := by
  rw [run_bind]
  generalize x.run.run s = r
  obtain ⟨r, s'⟩ := r
  cases r <;> rfl

theorem run_tryCatch {ε σ α : Type} (x : Computing ε σ α) (f : ε → Computing ε σ α) (s : σ) :
    (tryCatch x f).run.run s =
      match x.run.run s with
      | (.ok a, s') => (.ok a, s')
      | (.error e, s') => (f e).run.run s' := by
  rw [ExceptT.run_tryCatch, StateT.run_bind]
  generalize x.run.run s = r
  obtain ⟨r, s'⟩ := r
  cases r <;> rfl

/-- What each of a list of computations passes on holds after all of them. -/
theorem run_mapM {ε σ α β : Type} {I : Nat → σ → Prop} {f : α → Computing ε σ β} {l : List α}
    (hf : ∀ i a s b t, l[i]? = some a → I i s → (f a).run.run s = (.ok b, t) → I (i + 1) t) {s t : σ} {bs : List β}
    (hs : I 0 s) (h : (l.mapM f).run.run s = (.ok bs, t)) : I l.length t := by
  induction l generalizing I s bs with
  | nil =>
    rw [List.mapM_nil] at h
    cases h
    exact hs
  | cons a l ih =>
    rw [List.mapM_cons, run_bind] at h
    generalize ha : (f a).run.run s = r at h
    obtain ⟨r, u⟩ := r
    cases r with
    | error e => cases h
    | ok b =>
      dsimp only at h
      rw [run_bind] at h
      generalize hrest : (l.mapM f).run.run u = r at h
      obtain ⟨r, u'⟩ := r
      cases r with
      | error e => cases h
      | ok bs' =>
        cases h
        -- The invariant is counted from the next computation on.
        refine ih (I := fun i => I (i + 1)) (fun i c s b t hc => hf (i + 1) c s b t hc) ?_ hrest
        exact hf 0 a s b u rfl hs ha

/-- The computation ends well, with a result and a state that pass a test. -/
def endsWith {ε σ α : Type} (p : α → σ → Bool) : Except ε α × σ → Bool
  | (.ok a, t) => p a t
  | (.error _, _) => false

theorem exists_of_endsWith {ε σ α : Type} {p : α → σ → Bool} {x : Except ε α × σ} (h : endsWith p x = true) :
    ∃ a t, x = (.ok a, t) ∧ p a t = true := by
  obtain ⟨r, t⟩ := x
  cases r with
  | error e => cases h
  | ok a => exact ⟨a, t, rfl, h⟩

/-- The computation fails with the fault of a pointer. -/
def failsWith {α : Type} (fault : PointerFault) : Except Failure α → Bool
  | .error (.pointer fault') => fault' == fault
  | _ => false

theorem eq_error_of_failsWith {α : Type} {fault : PointerFault} {x : Except Failure α} (h : failsWith fault x = true) :
    x = .error (.pointer fault) := by
  unfold failsWith at h
  split at h
  · rw [beq_iff_eq.1 h]
  · cases h

/-- From a state with the property the computation ends in one, and what it gives is as told. -/
def Keeps {ε σ α : Type} (I : σ → Prop) (x : Computing ε σ α) (Q : α → Prop) : Prop :=
  ∀ s, I s → I (x.run.run s).2 ∧ ∀ a, (x.run.run s).1 = .ok a → Q a

namespace Keeps

variable {ε σ α β : Type} {I : σ → Prop} {Q : α → Prop} {R : β → Prop}

protected theorem pure {a : α} (h : Q a) : Keeps I (pure a : Computing ε σ α) Q := by
  intro s hs
  refine ⟨hs, ?_⟩
  intro b hb
  cases hb
  exact h

protected theorem throw (e : ε) : Keeps I (throw e : Computing ε σ α) Q := by
  intro s hs
  refine ⟨hs, ?_⟩
  intro b hb
  cases hb

theorem weaken {Q' : α → Prop} {x : Computing ε σ α} (hx : Keeps I x Q) (h : ∀ a, Q a → Q' a) : Keeps I x Q' := by
  intro s hs
  obtain ⟨hI, hQ⟩ := hx s hs
  exact ⟨hI, fun a ha => h a (hQ a ha)⟩

protected theorem and {Q' : α → Prop} {x : Computing ε σ α} (hx : Keeps I x Q) (hx' : Keeps I x Q') :
    Keeps I x fun a => Q a ∧ Q' a := by
  intro s hs
  exact ⟨(hx s hs).1, fun a ha => ⟨(hx s hs).2 a ha, (hx' s hs).2 a ha⟩⟩

protected theorem bind {x : Computing ε σ α} {f : α → Computing ε σ β} (hx : Keeps I x Q) (hf : ∀ a, Q a → Keeps I (f a) R) :
    Keeps I (x >>= f) R := by
  intro s hs
  obtain ⟨hI, hQ⟩ := hx s hs
  rw [run_bind]
  generalize x.run.run s = r at hI hQ
  obtain ⟨r, s'⟩ := r
  cases r with
  | error e => exact ⟨hI, by simp⟩
  | ok a => exact hf a (hQ a rfl) s' hI

protected theorem ite {c : Prop} [Decidable c] {x y : Computing ε σ α} (hx : c → Keeps I x Q)
    (hy : ¬c → Keeps I y Q) : Keeps I (if c then x else y) Q := by
  split
  · exact hx ‹_›
  · exact hy ‹_›

/-- Where nothing is asked of the state, nothing has to be kept. -/
protected theorem trivial (x : Computing ε σ α) : Keeps (fun _ => True) x fun _ => True :=
  fun _ _ => ⟨trivial, fun _ _ => trivial⟩

/-- What a computation gives, some state has it give. -/
theorem witnessed {x : Computing ε σ α} (hx : Keeps I x Q) : Keeps I x fun a => ∃ s, (x.run.run s).1 = .ok a := by
  intro s hs
  exact ⟨(hx s hs).1, fun a ha => ⟨s, ha⟩⟩

/-- A computation whose result is not used. -/
theorem andThen {x : Computing ε σ α} {y : Computing ε σ β} (hx : Keeps I x fun _ => True) (hy : Keeps I y R) :
    Keeps I (x >>= fun _ => y) R := hx.bind fun _ _ => hy

/-- The state at hand has the property. -/
protected theorem get : Keeps I (get : Computing ε σ σ) I := by
  intro s hs
  refine ⟨hs, ?_⟩
  intro t ht
  cases ht
  exact hs

protected theorem modify {f : σ → σ} (h : ∀ s, I s → I (f s)) :
    Keeps I (modify f : Computing ε σ PUnit) fun _ => True := fun s hs => ⟨h s hs, fun _ _ => trivial⟩

protected theorem set {t : σ} (h : I t) : Keeps I (set t : Computing ε σ PUnit) fun _ => True :=
  fun _ _ => ⟨h, fun _ _ => trivial⟩

protected theorem tryCatch {x : Computing ε σ α} {f : ε → Computing ε σ α} (hx : Keeps I x Q)
    (hf : ∀ e, Keeps I (f e) Q) : Keeps I (tryCatch x f) Q := by
  intro s hs
  obtain ⟨hI, hQ⟩ := hx s hs
  rw [run_tryCatch]
  generalize x.run.run s = r at hI hQ
  obtain ⟨r, s'⟩ := r
  cases r with
  | error e => exact hf e s' hI
  | ok a => exact ⟨hI, hQ⟩

/-- The results for the elements of a list, one by one. -/
protected theorem mapM {S : α → β → Prop} {f : α → Computing ε σ β} {l : List α}
    (hf : ∀ a ∈ l, Keeps I (f a) (S a)) : Keeps I (l.mapM f) (List.Forall₂ S l) := by
  induction l with
  | nil =>
    rw [List.mapM_nil]
    exact .pure .nil
  | cons a l ih =>
    rw [List.mapM_cons]
    refine (hf a (by simp)).bind fun b hb => ?_
    refine (ih fun c hc => hf c (by simp [hc])).bind fun bs hbs => ?_
    exact .pure (.cons hb hbs)

/-- A loop that gathers nothing. -/
protected theorem forIn {f : α → PUnit → Computing ε σ (ForInStep PUnit)} {l : List α}
    (hf : ∀ a ∈ l, ∀ u, Keeps I (f a u) fun _ => True) : Keeps I (forIn l PUnit.unit f) fun _ => True := by
  induction l with
  | nil =>
    rw [List.forIn_nil]
    exact .pure trivial
  | cons a l ih =>
    rw [List.forIn_cons]
    refine (hf a (by simp) _).bind fun step _ => ?_
    cases step with
    | done => exact .pure trivial
    | yield => exact ih fun b hb u => hf b (by simp [hb]) u

end Keeps

end Conform
