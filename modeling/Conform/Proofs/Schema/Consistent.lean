import Conform.Proofs.Schema.Acceptance
import Conform.Proofs.Schema.Words

/-!
# Answers that do not disagree

Two evaluations that may fail are consistent if they give one answer where both give any (`Consistent`).  An evaluation
stops at the first part that decides it, so in another order of the parts it may fail elsewhere, but it is consistent with
the first as soon as every part has a consistent partner (`consistent_allOk`).
-/

namespace Conform

variable {α β γ δ : Type}

/-- Where both computations have a result, it is the same. -/
def Consistent (x y : Except EvalError α) : Prop := ∀ a b, x = .ok a → y = .ok b → a = b

theorem consistent_self (x : Except EvalError α) : Consistent x x := by
  intro a b ha hb
  rw [ha] at hb
  exact Except.ok.inj hb

theorem Consistent.symm {x y : Except EvalError α} (h : Consistent x y) : Consistent y x :=
  fun a b ha hb => (h b a hb ha).symm

theorem consistent_bind {x y : Except EvalError α} {f g : α → Except EvalError β} (h : Consistent x y)
    (hfg : ∀ a, Consistent (f a) (g a)) : Consistent (x >>= f) (y >>= g) := by
  intro b c hb hc
  obtain ⟨a, ha, hb⟩ := bind_eq_ok.1 hb
  obtain ⟨a', ha', hc⟩ := bind_eq_ok.1 hc
  obtain rfl := h a a' ha ha'
  exact hfg a b c hb hc

theorem consistent_map {x y : Except EvalError α} (h : Consistent x y) (f : α → β) :
    Consistent (x.map f) (y.map f) := by
  intro b c hb hc
  obtain ⟨a, ha, rfl⟩ := map_eq_ok.1 hb
  obtain ⟨a', ha', rfl⟩ := map_eq_ok.1 hc
  rw [h a a' ha ha']

/-- A question that is only asked if another is answered with yes. -/
theorem consistent_when {first second second' : Except EvalError Bool} (h : Consistent second second') :
    Consistent (first >>= fun b => if b then second else pure true)
      (first >>= fun b => if b then second' else pure true) := by
  refine consistent_bind (consistent_self _) fun b => ?_
  cases b with
  | true => exact h
  | false => exact consistent_self _

/-! ### Lists of questions -/

theorem allOk_eq_true {test : α → Except EvalError Bool} {as : List α} (h : allOk test as = .ok true) :
    ∀ a ∈ as, test a = .ok true := by
  induction as with
  | nil => simp
  | cons a as ih =>
    obtain ⟨here, hhere, h⟩ := bind_eq_ok.1 h
    cases here with
    | false => cases h
    | true => exact List.forall_mem_cons.2 ⟨hhere, ih h⟩

theorem exists_of_allOk_eq_false {test : α → Except EvalError Bool} {as : List α} (h : allOk test as = .ok false) :
    ∃ a ∈ as, test a = .ok false := by
  induction as with
  | nil => cases h
  | cons a as ih =>
    obtain ⟨here, hhere, h⟩ := bind_eq_ok.1 h
    cases here with
    | false => exact ⟨a, by simp, hhere⟩
    | true =>
      obtain ⟨b, hb, hfalse⟩ := ih h
      exact ⟨b, List.mem_cons_of_mem _ hb, hfalse⟩

/-- In whatever order questions are asked: it is enough that each has a partner among the others. -/
theorem consistent_allOk {test : α → Except EvalError Bool} {test' : β → Except EvalError Bool} {as : List α} {bs : List β}
    (h : ∀ a ∈ as, ∃ b ∈ bs, Consistent (test a) (test' b)) (h' : ∀ b ∈ bs, ∃ a ∈ as, Consistent (test a) (test' b)) :
    Consistent (allOk test as) (allOk test' bs) := by
  intro p q hp hq
  cases p with
  | true =>
    cases q with
    | true => rfl
    | false =>
      obtain ⟨b, hb, hfalse⟩ := exists_of_allOk_eq_false hq
      obtain ⟨a, ha, hagree⟩ := h' b hb
      exact hagree _ _ (allOk_eq_true hp a ha) hfalse
  | false =>
    cases q with
    | false => rfl
    | true =>
      obtain ⟨a, ha, hfalse⟩ := exists_of_allOk_eq_false hp
      obtain ⟨b, hb, hagree⟩ := h a ha
      exact hagree _ _ hfalse (allOk_eq_true hq b hb)

/-- Questions that are partners one by one. -/
theorem consistent_allOk_forall₂ {test : α → Except EvalError Bool} {test' : β → Except EvalError Bool} {as : List α}
    {bs : List β} (h : List.Forall₂ (fun a b => Consistent (test a) (test' b)) as bs) :
    Consistent (allOk test as) (allOk test' bs) :=
  consistent_allOk (fun _ ha => exists_right_of_forall₂ h ha) fun _ hb => exists_left_of_forall₂ h hb

theorem consistent_countOk {test : α → Except EvalError Bool} {test' : β → Except EvalError Bool} {as : List α}
    {bs : List β} (h : List.Forall₂ (fun a b => Consistent (test a) (test' b)) as bs) :
    Consistent (countOk test as) (countOk test' bs) := by
  induction h with
  | nil => exact consistent_self _
  | cons hab _ ih => exact consistent_bind hab fun here => consistent_bind ih fun others => consistent_self _

namespace Node

variable {v w : Value} {ns ms : List Node}

theorem consistent_acceptsAll (h : ∀ n ∈ ns, ∃ m ∈ ms, Consistent (n.accepts v) (m.accepts w))
    (h' : ∀ m ∈ ms, ∃ n ∈ ns, Consistent (n.accepts v) (m.accepts w)) :
    Consistent (acceptsAll ns v) (acceptsAll ms w) := by
  rw [acceptsAll_eq, acceptsAll_eq]
  exact consistent_allOk h h'

theorem consistent_acceptsAny (h : List.Forall₂ (fun n m => Consistent (n.accepts v) (m.accepts w)) ns ms) :
    Consistent (acceptsAny ns v) (acceptsAny ms w) := by
  induction h with
  | nil => exact consistent_self _
  | cons hnm _ ih =>
    refine consistent_bind hnm fun here => ?_
    cases here with
    | true => exact consistent_self _
    | false => exact ih

theorem consistent_acceptsOne (h : List.Forall₂ (fun n m => Consistent (n.accepts v) (m.accepts w)) ns ms)
    (found : Bool) : Consistent (acceptsOne found ns v) (acceptsOne found ms w) := by
  induction h generalizing found with
  | nil => exact consistent_self _
  | cons hnm _ ih =>
    refine consistent_bind hnm fun here => ?_
    cases here with
    | false => exact ih found
    | true =>
      cases found with
      | true => exact consistent_self _
      | false => exact ih true

theorem consistent_acceptsBranch {branch branch' : Option Node}
    (h : Option.Rel (fun n m => Consistent (n.accepts v) (m.accepts w)) branch branch') :
    Consistent (acceptsBranch branch v) (acceptsBranch branch' w) := by
  cases h with
  | none => exact consistent_self _
  | some h => exact h

theorem consistent_acceptsTuple {S : Value → Value → Prop} {vs ws : List Value} (hvs : List.Forall₂ S vs ws)
    (h : List.Forall₂ (fun n m => ∀ v w, S v w → Consistent (n.accepts v) (m.accepts w)) ns ms) :
    Consistent (acceptsTuple ns vs) (acceptsTuple ms ws) := by
  induction h generalizing vs ws with
  | nil => exact consistent_self (.ok true)
  | cons hnm _ ih =>
    cases hvs with
    | nil => exact consistent_self _
    | cons hvw hvs =>
      refine consistent_bind (hnm _ _ hvw) fun here => ?_
      cases here with
      | true => exact ih hvs
      | false => exact consistent_self _

private theorem consistent_entry {e f : Scalar × Node} {ms ns : List (Scalar × Value)}
    (hkeys : ∀ key, (lookupKey key ms).isSome = (lookupKey key ns).isSome) (hkey : e.1 = f.1)
    (h : ∀ v w, lookupKey e.1 ms = some v → lookupKey e.1 ns = some w → Consistent (e.2.accepts v) (f.2.accepts w)) :
    Consistent (match lookupKey e.1 ms with
      | none => .ok true
      | some v => e.2.accepts v) (match lookupKey f.1 ns with
      | none => .ok true
      | some w => f.2.accepts w) := by
  have hsome := hkeys e.1
  rw [← hkey]
  cases hv : lookupKey e.1 ms with
  | none =>
    cases hw : lookupKey e.1 ns with
    | none => exact consistent_self _
    | some w => simp [hv, hw] at hsome
  | some v =>
    cases hw : lookupKey e.1 ns with
    | none => simp [hv, hw] at hsome
    | some w => exact h v w hv hw

theorem consistent_acceptsEntries {es fs : List (Scalar × Node)} {ms ns : List (Scalar × Value)}
    (h : ∀ e ∈ es, ∃ f ∈ fs, e.1 = f.1 ∧
      ∀ v w, lookupKey e.1 ms = some v → lookupKey e.1 ns = some w → Consistent (e.2.accepts v) (f.2.accepts w))
    (h' : ∀ f ∈ fs, ∃ e ∈ es, e.1 = f.1 ∧
      ∀ v w, lookupKey e.1 ms = some v → lookupKey e.1 ns = some w → Consistent (e.2.accepts v) (f.2.accepts w))
    (hkeys : ∀ key, (lookupKey key ms).isSome = (lookupKey key ns).isSome) :
    Consistent (acceptsEntries es ms) (acceptsEntries fs ns) := by
  rw [acceptsEntries_eq, acceptsEntries_eq]
  refine consistent_allOk (fun e he => ?_) fun f hf => ?_
  · obtain ⟨f, hf, hkey, hcons⟩ := h e he
    exact ⟨f, hf, consistent_entry hkeys hkey hcons⟩
  · obtain ⟨e, he, hkey, hcons⟩ := h' f hf
    exact ⟨e, he, consistent_entry hkeys hkey hcons⟩

end Node

/-! ### Refusals in words -/

/-- Constraints that do not disagree before their refusals are put into words do not disagree. -/
theorem Constraint.consistent_told {c d : Constraint} {v w : Value}
    (h : Consistent ((c.refusal? v).map (·.isNone)) ((d.refusal? w).map (·.isNone))) :
    Consistent ((c.failure? v).map (·.isNone)) ((d.failure? w).map (·.isNone)) := by
  intro p q hp hq
  obtain ⟨told, htold, rfl⟩ := map_eq_ok.1 hp
  obtain ⟨told', htold', rfl⟩ := map_eq_ok.1 hq
  exact h _ _ (map_eq_ok.2 ⟨told, (failure?_eq_ok.1 htold).1, rfl⟩)
    (map_eq_ok.2 ⟨told', (failure?_eq_ok.1 htold').1, rfl⟩)

theorem Message.consistent_written {m m' : Option Message} (h : m.isNone = m'.isNone) :
    Consistent (written m >>= fun told => pure told.isNone) (written m' >>= fun told => pure told.isNone) := by
  intro p q hp hq
  obtain ⟨told, htold, hp⟩ := bind_eq_ok.1 hp
  obtain ⟨told', htold', hq⟩ := bind_eq_ok.1 hq
  cases hp
  cases hq
  rw [← (written_eq_ok.1 htold).1, ← (written_eq_ok.1 htold').1]
  exact h

end Conform
