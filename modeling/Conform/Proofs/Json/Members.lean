import Conform.Json.Value
import Mathlib.Data.List.Basic

/-!
# Members of objects

Members under text keys: what a lookup finds among them, and what becomes of them when one is set.
-/

namespace Conform

theorem Scalar.sameKey_str_iff {key : Scalar} {name : String} : key.sameKey (.str name) = true ↔ key = .str name := by
  cases key with
  | str s => simp [Scalar.sameKey_str]
  | null => simp [Scalar.sameKey, Scalar.keyNumber?]
  | bool b => simp [Scalar.sameKey, Scalar.keyNumber?]
  | num n => simp [Scalar.sameKey, Scalar.keyNumber?]
  | bytes bs => simp [Scalar.sameKey, Scalar.keyNumber?]

theorem mem_of_lookupKey {name : String} {ms : List (Scalar × Value)} {v : Value}
    (h : lookupKey (.str name) ms = some v) : (.str name, v) ∈ ms := by
  induction ms with
  | nil => simp [lookupKey] at h
  | cons m ms ih =>
    obtain ⟨key, w⟩ := m
    rw [lookupKey] at h
    split at h
    · rename_i hkey
      rw [Scalar.sameKey_str_iff] at hkey
      cases h
      simp [hkey]
    · exact List.mem_cons_of_mem _ (ih h)

/-- Where no two members have one key, each of them is found under its own. -/
theorem lookupKey_of_nodup {name : String} {ms : List (Scalar × Value)} {v : Value} (h : (ms.map Prod.fst).Nodup)
    (hm : (.str name, v) ∈ ms) : lookupKey (.str name) ms = some v := by
  induction ms with
  | nil => cases hm
  | cons m ms ih =>
    obtain ⟨key, w⟩ := m
    obtain ⟨hkey, hms⟩ := List.nodup_cons.1 h
    rw [lookupKey]
    rcases List.mem_cons.1 hm with heq | hrest
    · cases heq
      rw [if_pos (Scalar.sameKey_str_iff.2 rfl)]
    · rw [if_neg, ih hms hrest]
      rw [Scalar.sameKey_str_iff]
      rintro rfl
      exact hkey (List.mem_map.2 ⟨_, hrest, rfl⟩)

/-- What is found under a key of any kind is the value of a member. -/
theorem exists_mem_of_lookupKey {key : Scalar} {ms : List (Scalar × Value)} {v : Value}
    (h : lookupKey key ms = some v) : ∃ k, (k, v) ∈ ms := by
  induction ms with
  | nil => simp [lookupKey] at h
  | cons m ms ih =>
    obtain ⟨k, w⟩ := m
    rw [lookupKey] at h
    split at h
    · cases h
      exact ⟨k, by simp⟩
    · obtain ⟨k', hk'⟩ := ih h
      exact ⟨k', List.mem_cons_of_mem _ hk'⟩

theorem lookupKey_eq_none {name : String} {ms : List (Scalar × Value)} :
    lookupKey (.str name) ms = none ↔ ∀ v, (.str name, v) ∉ ms := by
  induction ms with
  | nil => simp [lookupKey]
  | cons m ms ih =>
    obtain ⟨key, w⟩ := m
    rw [lookupKey]
    split
    · rename_i hkey
      rw [Scalar.sameKey_str_iff] at hkey
      subst hkey
      simp only [reduceCtorEq, List.mem_cons, not_or, false_iff, not_forall, not_and, not_not]
      exact ⟨w, fun h => absurd rfl h⟩
    · rename_i hkey
      rw [Scalar.sameKey_str_iff] at hkey
      rw [ih]
      refine forall_congr' fun v => ?_
      simp [Ne.symm hkey]

theorem isSome_lookupKey (key : Scalar) (ms : List (Scalar × Value)) :
    (lookupKey key ms).isSome = ms.any (·.1.sameKey key) := by
  induction ms with
  | nil => rfl
  | cons m ms ih =>
    obtain ⟨k, v⟩ := m
    rw [lookupKey, List.any_cons]
    split
    · rename_i h
      simp [h]
    · rename_i h
      simp [h, ih]

theorem lookupKey_cons_str (name other : String) (v : Value) (ms : List (Scalar × Value)) :
    lookupKey (.str other) ((.str name, v) :: ms) = if other = name then some v else lookupKey (.str other) ms := by
  rw [lookupKey, Scalar.sameKey_str]
  by_cases h : other = name
  · simp [h]
  · simp [h, Ne.symm h]

theorem lookupKey_setKey {name : String} {v : Value} {ms : List (Scalar × Value)} (other : String) :
    lookupKey (.str other) (setKey (.str name) v ms) =
      if other = name then some v else lookupKey (.str other) ms := by
  induction ms with
  | nil => rw [setKey, lookupKey_cons_str]
  | cons m ms ih =>
    obtain ⟨key, w⟩ := m
    rw [setKey]
    split
    · rename_i hkey
      rw [Scalar.sameKey_str_iff] at hkey
      subst hkey
      rw [lookupKey_cons_str, lookupKey_cons_str]
      split <;> rfl
    · rename_i hkey
      rw [Scalar.sameKey_str_iff] at hkey
      rw [lookupKey, ih]
      split
      · rename_i hother
        rw [Scalar.sameKey_str_iff] at hother
        subst hother
        have hne : other ≠ name := fun h => hkey (by rw [h])
        simp [hne, lookupKey, Scalar.sameKey_str]
      · rename_i hother
        rw [lookupKey, if_neg hother]

/-! ### Everything in a value -/

/-- What holds of a value as soon as it holds of its items or of the values of its members holds of all values. -/
theorem Value.induction {P : Value → Prop} (scalar : ∀ s, P (.scalar s)) (arr : ∀ vs, (∀ v ∈ vs, P v) → P (.arr vs))
    (obj : ∀ ms, (∀ m ∈ ms, P m.2) → P (.obj ms)) (set : ∀ es, P (.set es)) : ∀ v, P v
  | .scalar s => scalar s
  | .arr vs => arr vs fun v hv =>
    have := List.sizeOf_lt_of_mem hv
    Value.induction scalar arr obj set v
  | .obj ms => obj ms fun (k, v) hm =>
    have := List.sizeOf_lt_of_mem hm
    Value.induction scalar arr obj set v
  | .set es => set es
termination_by v => sizeOf v
decreasing_by
  · simp +arith
    omega
  · simp only [Prod.mk.sizeOf_spec] at this
    simp +arith
    omega

mutual

/-- The value and everything in it is of a kind. -/
def Value.every (p : Value → Bool) : Value → Bool
  | .arr vs => p (.arr vs) && itemsEvery p vs
  | .obj ms => p (.obj ms) && membersEvery p ms
  | v => p v

/-- The items and everything in them are of a kind. -/
def itemsEvery (p : Value → Bool) : List Value → Bool
  | [] => true
  | v :: vs => v.every p && itemsEvery p vs

/-- The values of members and everything in them are of a kind. -/
def membersEvery (p : Value → Bool) : List (Scalar × Value) → Bool
  | [] => true
  | (_, v) :: ms => v.every p && membersEvery p ms

end

section Every

variable {p : Value → Bool}

theorem Value.of_every {v : Value} (h : v.every p = true) : p v = true := by
  cases v with
  | scalar | set => exact h
  | arr vs => exact (Bool.and_eq_true_iff.1 h).1
  | obj ms => exact (Bool.and_eq_true_iff.1 h).1

theorem itemsEvery_iff {vs : List Value} : itemsEvery p vs = true ↔ ∀ v ∈ vs, v.every p = true := by
  induction vs with
  | nil => simp [itemsEvery]
  | cons v vs ih => simp [itemsEvery, ih]

theorem membersEvery_iff {ms : List (Scalar × Value)} : membersEvery p ms = true ↔ ∀ m ∈ ms, m.2.every p = true := by
  induction ms with
  | nil => simp [membersEvery]
  | cons m ms ih => simp [membersEvery, ih]

theorem every_of_mem_items {vs : List Value} {v : Value} (h : (Value.arr vs).every p = true) (hv : v ∈ vs) :
    v.every p = true :=
  itemsEvery_iff.1 (Bool.and_eq_true_iff.1 h).2 v hv

theorem every_of_mem_members {ms : List (Scalar × Value)} {key : Scalar} {v : Value}
    (h : (Value.obj ms).every p = true) (hv : (key, v) ∈ ms) : v.every p = true :=
  membersEvery_iff.1 (Bool.and_eq_true_iff.1 h).2 (key, v) hv

end Every

end Conform
