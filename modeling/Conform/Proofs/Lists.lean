import Mathlib.Data.List.Forall2

/-!
# Lists

Facts about lookups and about lists that are related element by element.
-/

namespace Conform

variable {α β γ : Type}

theorem mem_of_lookup [BEq α] [LawfulBEq α] {a : α} {b : β} {l : List (α × β)} (h : l.lookup a = some b) :
    (a, b) ∈ l := by
  obtain ⟨l₁, l₂, rfl, -⟩ := List.lookup_eq_some_iff.1 h
  simp

/-- An element on the right has its partner on the left. -/
theorem exists_left_of_forall₂ {R : α → β → Prop} {as : List α} {bs : List β} (h : List.Forall₂ R as bs) {b : β}
    (hb : b ∈ bs) : ∃ a ∈ as, R a b := by
  induction h with
  | nil => simp at hb
  | cons hr _ ih =>
    rcases List.mem_cons.1 hb with rfl | hb
    · exact ⟨_, by simp, hr⟩
    · obtain ⟨a, ha, hab⟩ := ih hb
      exact ⟨a, by simp [ha], hab⟩

/-- An element on the left has its partner on the right. -/
theorem exists_right_of_forall₂ {R : α → β → Prop} {as : List α} {bs : List β} (h : List.Forall₂ R as bs) {a : α}
    (ha : a ∈ as) : ∃ b ∈ bs, R a b := by
  obtain ⟨b, hb, hab⟩ := exists_left_of_forall₂ h.flip ha
  exact ⟨b, hb, hab⟩

/-- What is related to a list element by element is one list, if what is related to each element is one. -/
theorem forall₂_unique {R S : α → β → Prop} {as : List α} {bs cs : List β} (h : List.Forall₂ R as bs)
    (h' : List.Forall₂ S as cs) (hunique : ∀ a ∈ as, ∀ b c, R a b → S a c → b = c) : bs = cs := by
  induction h generalizing cs with
  | nil =>
    cases h'
    rfl
  | cons hr _ ih =>
    cases h' with
    | cons hs h' =>
      rw [hunique _ (by simp) _ _ hr hs, ih h' fun a ha => hunique a (by simp [ha])]

/-- Related elements are elements of the lists. -/
theorem forall₂_mem {R : α → β → Prop} {as : List α} {bs : List β} (h : List.Forall₂ R as bs) :
    List.Forall₂ (fun a b => a ∈ as ∧ b ∈ bs ∧ R a b) as bs := by
  induction h with
  | nil => exact .nil
  | cons hr _ ih =>
    refine .cons ⟨by simp, by simp, hr⟩ (ih.imp fun a b h => ?_)
    exact ⟨List.mem_cons_of_mem _ h.1, List.mem_cons_of_mem _ h.2.1, h.2.2⟩

theorem forall₂_comp {R : α → β → Prop} {S : β → γ → Prop} {as : List α} {bs : List β} {cs : List γ}
    (h : List.Forall₂ R as bs) (h' : List.Forall₂ S bs cs) : List.Forall₂ (fun a c => ∃ b, R a b ∧ S b c) as cs := by
  induction h generalizing cs with
  | nil =>
    cases h'
    exact .nil
  | cons hr _ ih =>
    cases h' with
    | cons hs h' => exact .cons ⟨_, hr, hs⟩ (ih h')

/-- Elements with their indexes are elements. -/
theorem forall₂_of_zipIdx {R : α × Nat → β → Prop} {as : List α} {bs : List β} {start : Nat}
    (h : List.Forall₂ R (as.zipIdx start) bs) : List.Forall₂ (fun a b => ∃ i, R (a, i) b) as bs := by
  induction as generalizing start bs with
  | nil =>
    cases h
    exact .nil
  | cons a as ih =>
    cases h with
    | cons hr h => exact .cons ⟨start, hr⟩ (ih h)

theorem forall₂_zip {R : α → β → Prop} {as : List α} {bs : List β} (h : List.Forall₂ R as bs) (cs : List γ) :
    List.Forall₂ (fun a b => R a.1 b.1 ∧ a.2 = b.2 ∧ a.2 ∈ cs) (as.zip cs) (bs.zip cs) := by
  induction h generalizing cs with
  | nil => simp
  | cons hr _ ih =>
    cases cs with
    | nil => simp
    | cons c cs =>
      refine .cons ⟨hr, rfl, by simp⟩ ((ih cs).imp fun a b h => ?_)
      exact ⟨h.1, h.2.1, List.mem_cons_of_mem _ h.2.2⟩

theorem isEmpty_append (as bs : List α) : (as ++ bs).isEmpty = (as.isEmpty && bs.isEmpty) := by
  cases as <;> rfl

end Conform
