import Conform.Proofs.Compile.Keeps

/-!
# How computations run

`Runs C P x Q`: where `P` holds from now on, the computation `x` goes the way of the course `C`.  It passes from a state
that is in order to a later one in order, where `Q` tells of what it gives from then on, or it fails as the course
allows.  What is told of a state is told of all states after it, so that nothing is lost as the computation goes on
(`Runs.bind`, `Runs.seq`); a course on which every state is after every other says what `Keeps` says
(`runs_keeping_iff`).
-/

namespace Conform

/-- The course that computations take: the states that are in order, which states come after which, and how a
computation may fail. -/
structure Course (ε σ : Type) where
  inv : σ → Prop
  later : σ → σ → Prop
  fails : ε → σ → Prop
  refl : ∀ s, later s s
  trans : ∀ {s t u}, later s t → later t u → later s u

namespace Course

variable {ε σ α β : Type}

/-- From the state on this holds. -/
def Always (C : Course ε σ) (s : σ) (P : σ → Prop) : Prop := ∀ t, C.later s t → P t

/-- A computation that is begun in the state has ended well. -/
def Ends (C : Course ε σ) (s : σ) (Q : α → σ → Prop) : Except ε α × σ → Prop
  | (.ok a, t) => C.inv t ∧ C.later s t ∧ C.Always t (Q a)
  | (.error e, t) => C.fails e t

/-- The failures of a kind are allowed in the states where something is not to be had. -/
def Refuses (C : Course ε σ) (P : σ → Prop) (kind : ε → σ → Prop) (can : σ → Prop) : Prop :=
  ∀ s e, C.inv s → P s → ¬can s → kind e s → C.fails e s

theorem Refuses.mono {C : Course ε σ} {P P' can can' : σ → Prop} {kind kind' : ε → σ → Prop}
    (h : C.Refuses P kind can) (hP : ∀ s, P' s → P s) (hkind : ∀ e s, kind' e s → kind e s)
    (hcan : ∀ s, can s → can' s) : C.Refuses P' kind' can' :=
  fun s e hs hp hcannot he => h s e hs (hP s hp) (fun hc => hcannot (hcan s hc)) (hkind e s he)

/-- What is part of something that is not to be had need not be had. -/
theorem Refuses.part {C : Course ε σ} {P can can' : σ → Prop} {kind : ε → σ → Prop} (h : C.Refuses P kind can)
    (hcan : ∀ s, can s → can' s) : C.Refuses P kind can' := h.mono (fun _ hp => hp) (fun _ _ he => he) hcan

theorem Always.self {C : Course ε σ} {s : σ} {P : σ → Prop} (h : C.Always s P) : P s := h s (C.refl s)

theorem Always.on {C : Course ε σ} {s t : σ} {P : σ → Prop} (h : C.Always s P) (ht : C.later s t) : C.Always t P :=
  fun u hu => h u (C.trans ht hu)

/-- The course on which a property is kept, whether a computation fails or not. -/
def keeping (I : σ → Prop) : Course ε σ where
  inv := I
  later _ _ := True
  fails _ := I
  refl _ := trivial
  trans _ _ := trivial

/-- The course that differs in what may fail. -/
def failing (C : Course ε σ) (fails : ε → σ → Prop) : Course ε σ := { C with fails }

end Course

/-- Where this holds from now on, the computation goes the way of the course, and what it gives is as told. -/
def Runs {ε σ α : Type} (C : Course ε σ) (P : σ → Prop) (x : Computing ε σ α) (Q : α → σ → Prop) : Prop :=
  ∀ s, C.inv s → C.Always s P → C.Ends s Q (x.run.run s)

namespace Runs

variable {ε σ α β : Type} {C : Course ε σ} {P : σ → Prop} {Q : α → σ → Prop} {R : β → σ → Prop}

protected theorem pure {a : α} (h : ∀ s, P s → Q a s) : Runs C P (pure a : Computing ε σ α) Q := by
  intro s hs hP
  exact ⟨hs, C.refl s, fun t ht => h t (hP t ht)⟩

protected theorem throw {e : ε} (h : ∀ s, C.inv s → C.Always s P → C.fails e s) :
    Runs C P (throw e : Computing ε σ α) Q := fun s hs hP => h s hs hP

/-- A failure where something is not to be had. -/
theorem refuse {kind : ε → σ → Prop} {can : σ → Prop} {e : ε} (h : C.Refuses P kind can) (hcan : ∀ s, ¬can s)
    (he : ∀ s, kind e s) : Runs C P (throw e : Computing ε σ α) Q :=
  .throw fun s hs hP => h s e hs hP.self (hcan s) (he s)

theorem weaken {P' : σ → Prop} {Q' : α → σ → Prop} {x : Computing ε σ α} (hx : Runs C P x Q)
    (hP : ∀ s, P' s → P s) (hQ : ∀ a s, P' s → Q a s → Q' a s) : Runs C P' x Q' := by
  intro s hs hP'
  have h := hx s hs fun t ht => hP t (hP' t ht)
  generalize x.run.run s = r at h
  obtain ⟨r, t⟩ := r
  cases r with
  | error e => exact h
  | ok a =>
    obtain ⟨ht, hst, hQa⟩ := h
    exact ⟨ht, hst, fun u hu => hQ a u (hP' u (C.trans hst hu)) (hQa u hu)⟩

theorem strengthen {P' : σ → Prop} {x : Computing ε σ α} (hx : Runs C P x Q) (hP : ∀ s, P' s → P s) :
    Runs C P' x Q := hx.weaken hP fun _ _ _ h => h

/-- What holds from now on holds of some state. -/
theorem intro {x : Computing ε σ α} (h : ∀ s, P s → Runs C P x Q) : Runs C P x Q :=
  fun s hs hP => h s hP.self s hs hP

protected theorem bind {x : Computing ε σ α} {f : α → Computing ε σ β} (hx : Runs C P x Q)
    (hf : ∀ a, Runs C (fun s => P s ∧ Q a s) (f a) R) : Runs C P (x >>= f) R := by
  intro s hs hP
  have h := hx s hs hP
  rw [run_bind]
  generalize x.run.run s = r at h
  obtain ⟨r, t⟩ := r
  cases r with
  | error e => exact h
  | ok a =>
    obtain ⟨ht, hst, hQ⟩ := h
    have hrest := hf a t ht fun u hu => ⟨hP.on hst u hu, hQ u hu⟩
    dsimp only
    generalize (f a).run.run t = r at hrest
    obtain ⟨r, u⟩ := r
    cases r with
    | error e => exact hrest
    | ok b => exact ⟨hrest.1, C.trans hst hrest.2.1, hrest.2.2⟩

/-- What a computation gives is used in what is told of the end only. -/
theorem seq {x : Computing ε σ α} {f : α → Computing ε σ β} (hx : Runs C P x Q)
    (hf : ∀ a, Runs C P (f a) fun b s => Q a s → R b s) : Runs C P (x >>= f) R :=
  hx.bind fun a => (hf a).weaken (fun _ h => h.1) fun _ _ h hb => hb h.2

/-- What is told of the result does not depend on the state. -/
theorem bindStatic {q : α → Prop} {x : Computing ε σ α} {f : α → Computing ε σ β}
    (hx : Runs C P x fun a _ => q a) (hf : ∀ a, q a → Runs C P (f a) R) : Runs C P (x >>= f) R :=
  hx.bind fun a => .intro fun _ h => (hf a h.2).strengthen fun _ h => h.1

/-- A computation whose result is not used. -/
theorem andThen {Q : α → σ → Prop} {x : Computing ε σ α} {y : Computing ε σ β} (hx : Runs C P x Q)
    (hy : Runs C P y R) : Runs C P (x >>= fun _ => y) R :=
  hx.seq fun _ => hy.weaken (fun _ h => h) fun _ _ _ h _ => h

/-- The state at hand is in order, and what is to come is after it. -/
protected theorem get : Runs C P (get : Computing ε σ σ) fun s t => C.inv s ∧ C.later s t :=
  fun s hs _ => ⟨hs, C.refl s, fun _ ht => ⟨hs, ht⟩⟩

protected theorem modify {f : σ → σ} (h : ∀ s, C.inv s → C.Always s P → C.inv (f s) ∧ C.later s (f s)) :
    Runs C P (modify f : Computing ε σ PUnit) fun _ _ => True :=
  fun s hs hP => ⟨(h s hs hP).1, (h s hs hP).2, fun _ _ => trivial⟩

/-- The results for the elements of a list, one by one. -/
protected theorem mapM {S : α → β → σ → Prop} {f : α → Computing ε σ β} {l : List α}
    (hf : ∀ a ∈ l, Runs C P (f a) (S a)) :
    Runs C P (l.mapM f) fun bs s => List.Forall₂ (fun a b => S a b s) l bs := by
  induction l with
  | nil =>
    rw [List.mapM_nil]
    exact .pure fun _ _ => .nil
  | cons a l ih =>
    rw [List.mapM_cons]
    refine (hf a (by simp)).seq fun b => ?_
    refine (ih fun c hc => hf c (by simp [hc])).seq fun bs => ?_
    exact .pure fun _ _ hbs hb => .cons hb hbs

/-- A loop that gathers nothing, and does not end early. -/
protected theorem forIn {S : α → σ → Prop} {f : α → PUnit → Computing ε σ (ForInStep PUnit)} {l : List α}
    (hf : ∀ a ∈ l, ∀ u, Runs C P (f a u) fun step s => step = .yield PUnit.unit ∧ S a s) :
    Runs C P (forIn l PUnit.unit f) fun _ s => ∀ a ∈ l, S a s := by
  induction l with
  | nil =>
    rw [List.forIn_nil]
    exact .pure fun _ _ a ha => absurd ha (by simp)
  | cons a l ih =>
    rw [List.forIn_cons]
    refine (hf a (by simp) _).bind fun step => .intro fun _ h => ?_
    rw [h.2.1]
    refine (ih fun b hb u => hf b (by simp [hb]) u).weaken (fun _ h => h.1) fun _ s h hl b hb => ?_
    rcases List.mem_cons.1 hb with rfl | hb
    · exact h.2.2
    · exact hl b hb

/-- A failure that is passed on in another form. -/
theorem rethrow (fails : ε → σ → Prop) {x : Computing ε σ α} {f : ε → Computing ε σ α}
    (hx : Runs (C.failing fails) P x Q)
    (hf : ∀ e s, fails e s → ∃ e', ((f e).run.run s).1 = .error e' ∧ C.fails e' ((f e).run.run s).2) :
    Runs C P (tryCatch x f) Q := by
  intro s hs hP
  have h := hx s hs hP
  rw [run_tryCatch]
  generalize x.run.run s = r at h
  obtain ⟨r, t⟩ := r
  cases r with
  | ok a => exact h
  | error e =>
    obtain ⟨e', he, hfails⟩ := hf e t h
    dsimp only
    generalize (f e).run.run t = r at he hfails
    obtain ⟨r, u⟩ := r
    cases he
    exact hfails

/-- A choice by what is known. -/
protected theorem ite {c : Prop} [Decidable c] {x y : Computing ε σ α} (hx : c → Runs C P x Q)
    (hy : ¬c → Runs C P y Q) : Runs C P (if c then x else y) Q := by
  split
  · exact hx ‹_›
  · exact hy ‹_›

end Runs

/-- To keep a property is to run on the course where it is kept. -/
theorem runs_keeping_iff {ε σ α : Type} {I : σ → Prop} {x : Computing ε σ α} {Q : α → Prop} :
    Runs (.keeping I) (fun _ => True) x (fun a _ => Q a) ↔ Keeps I x Q := by
  constructor
  · intro h s hs
    have h := h s hs fun _ _ => trivial
    generalize x.run.run s = r at h
    obtain ⟨r, t⟩ := r
    cases r with
    | error e => exact ⟨h, by simp⟩
    | ok a =>
      obtain ⟨ht, -, hQ⟩ := h
      refine ⟨ht, fun b hb => ?_⟩
      cases hb
      exact hQ t trivial
  · intro h s hs _
    have h := h s hs
    generalize x.run.run s = r at h
    obtain ⟨r, t⟩ := r
    cases r with
    | error e => exact h.1
    | ok a => exact ⟨h.1, trivial, fun _ _ => h.2 a rfl⟩

end Conform
