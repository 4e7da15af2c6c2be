import Conform.Json.Equality
import Conform.Proofs.Json.Decoded
import Conform.Proofs.Lists
import Conform.Proofs.Number.Order

/-!
# Canonical forms

A JSON value apart from how it is written (`Value.canonical`): a number is its value, an object what is found under each
name.  Two JSON values are equal exactly if their canonical forms are (`Value.equal?_eq_true_iff`); so equality of JSON
values is an equivalence, and values of one canonical form are equal to the same values, of whatever kind these are
(`Value.equal?_congr`).
-/

namespace Conform

/-- A JSON value apart from how it is written. -/
inductive Canonical where
  | null
  | bool (b : Bool)
  | num (q : ℚ)
  | str (s : String)
  | arr (items : List Canonical)
  | obj (members : String → Option Canonical)
  /-- What no JSON value is. -/
  | foreign

mutual

/-- The canonical form of a value. -/
def Value.canonical : Value → Canonical
  | .null => .null
  | .bool b => .bool b
  | .num n => .num n.value
  | .str s => .str s
  | .arr vs => .arr (itemsCanonical vs)
  | .obj ms => .obj (membersCanonical ms)
  | .bytes _ | .set _ => .foreign

/-- The canonical forms of items. -/
def itemsCanonical : List Value → List Canonical
  | [] => []
  | v :: vs => v.canonical :: itemsCanonical vs

/-- The canonical form of the member under a name. -/
def membersCanonical : List (Scalar × Value) → String → Option Canonical
  | [], _ => none
  | (key, v) :: ms, name => if key.sameKey (.str name) then some v.canonical else membersCanonical ms name

end

theorem itemsCanonical_eq (vs : List Value) : itemsCanonical vs = vs.map (·.canonical) := by
  induction vs with
  | nil => rfl
  | cons v vs ih => rw [itemsCanonical, ih, List.map_cons]

theorem membersCanonical_eq (ms : List (Scalar × Value)) (name : String) :
    membersCanonical ms name = (lookupKey (.str name) ms).map (·.canonical) := by
  induction ms with
  | nil => rfl
  | cons m ms ih =>
    obtain ⟨key, v⟩ := m
    rw [membersCanonical, lookupKey, ih]
    split <;> rfl

/-! ### Comparison of arrays and objects -/

theorem itemsEqual?_eq_true_iff {vs ws : List Value} (h : vs.length = ws.length) :
    itemsEqual? vs ws = some true ↔ List.Forall₂ (fun v w => v.equal? w = some true) vs ws := by
  induction vs generalizing ws with
  | nil =>
    cases ws with
    | nil => exact iff_of_true rfl .nil
    | cons => cases h
  | cons v vs ih =>
    cases ws with
    | nil => cases h
    | cons w ws =>
      rw [itemsEqual?, List.forall₂_cons, ← ih (Nat.succ.inj h)]
      split
      · rename_i heq
        simp [heq]
      · rename_i hne
        exact iff_of_false hne fun h => hne h.1

theorem exists_of_itemsEqual?_eq_false {vs ws : List Value} (h : itemsEqual? vs ws = some false) :
    ∃ i, ∃ (hi : i < vs.length) (hi' : i < ws.length), vs[i].equal? ws[i] = some false := by
  induction vs generalizing ws with
  | nil => simp [itemsEqual?] at h
  | cons v vs ih =>
    cases ws with
    | nil => simp [itemsEqual?] at h
    | cons w ws =>
      rw [itemsEqual?] at h
      split at h
      · obtain ⟨i, hi, hi', heq⟩ := ih h
        exact ⟨i + 1, Nat.succ_lt_succ hi, Nat.succ_lt_succ hi', heq⟩
      · exact ⟨0, Nat.succ_pos _, Nat.succ_pos _, h⟩

theorem membersEqual?_eq_true_iff {ms ns : List (Scalar × Value)} :
    membersEqual? ms ns = some true ↔ ∀ m ∈ ms, ∃ w, lookupKey m.1 ns = some w ∧ m.2.equal? w = some true := by
  induction ms with
  | nil => simp [membersEqual?]
  | cons m ms ih =>
    obtain ⟨k, v⟩ := m
    rw [membersEqual?, List.forall_mem_cons, ← ih]
    cases lookupKey k ns with
    | none => simp
    | some w =>
      dsimp only
      split
      · rename_i heq
        simp [heq]
      · rename_i hne
        refine iff_of_false hne ?_
        rintro ⟨⟨u, hu, h⟩, -⟩
        cases hu
        exact hne h

theorem exists_of_membersEqual?_eq_false {ms ns : List (Scalar × Value)} (h : membersEqual? ms ns = some false) :
    ∃ m ∈ ms, ∀ w, lookupKey m.1 ns = some w → m.2.equal? w = some false := by
  induction ms with
  | nil => simp [membersEqual?] at h
  | cons m ms ih =>
    obtain ⟨k, v⟩ := m
    rw [membersEqual?] at h
    split at h
    · rename_i hnone
      exact ⟨(k, v), by simp, by simp [hnone]⟩
    · rename_i w hw
      split at h
      · obtain ⟨m, hm, heq⟩ := ih h
        exact ⟨m, List.mem_cons_of_mem _ hm, heq⟩
      · exact ⟨(k, v), by simp, by simpa [hw] using h⟩

/-- A lookup among members under texts is one under a text. -/
theorem exists_str_of_lookupKey {ms : List (Scalar × Value)} (hms : membersJson ms = true) {key : Scalar}
    (h : (lookupKey key ms).isSome = true) : ∃ name, key = .str name := by
  rw [isSome_lookupKey, List.any_eq_true] at h
  obtain ⟨m, hm, hkey⟩ := h
  obtain ⟨name, hname⟩ := (isJson_of_mem (v := m.2) hms hm).1
  rw [hname] at hkey
  cases key with
  | str s => exact ⟨s, rfl⟩
  | null | bool | num | bytes => simp [Scalar.sameKey, Scalar.keyNumber?] at hkey

private theorem keysWithin_iff {ms ns : List (Scalar × Value)} :
    keysWithin ms ns = true ↔ ∀ m ∈ ms, (lookupKey m.1 ns).isSome = true := by
  simp only [keysWithin, List.all_eq_true, isSome_lookupKey]

/-- Of keys that are texts it matters what is found under them. -/
private theorem keysWithin_iff_of_json {ms ns : List (Scalar × Value)} (hms : membersJson ms = true) :
    keysWithin ms ns = true ↔
      ∀ name, (lookupKey (.str name) ms).isSome = true → (lookupKey (.str name) ns).isSome = true := by
  rw [keysWithin_iff]
  constructor
  · intro h name hname
    obtain ⟨v, hv⟩ := Option.isSome_iff_exists.1 hname
    exact h (.str name, v) (mem_of_lookupKey hv)
  · intro h m hm
    obtain ⟨name, hname⟩ := (isJson_of_mem (v := m.2) hms hm).1
    rw [hname]
    refine h name ?_
    rw [isSome_lookupKey, List.any_eq_true]
    exact ⟨m, hm, by rw [hname, Scalar.sameKey_str, beq_self_eq_true]⟩

theorem sameKeys_iff {ms ns : List (Scalar × Value)} (hms : membersJson ms = true) (hns : membersJson ns = true) :
    sameKeys ms ns = true ↔ ∀ name, (lookupKey (.str name) ms).isSome = (lookupKey (.str name) ns).isSome := by
  rw [sameKeys, Bool.and_eq_true, keysWithin_iff_of_json hms, keysWithin_iff_of_json hns, ← forall_and]
  exact forall_congr' fun name => iff_iff_implies_and_implies.symm.trans Bool.eq_iff_iff.symm

/-- Whether an object has the same keys as another is told by what is found in it. -/
theorem sameKeys_congr {ms ms' ns : List (Scalar × Value)} (hms : membersJson ms = true) (hms' : membersJson ms' = true)
    (h : ∀ name, (lookupKey (.str name) ms).isSome = (lookupKey (.str name) ms').isSome) :
    sameKeys ms ns = sameKeys ms' ns := by
  have hkey (key : Scalar) : (lookupKey key ms).isSome = (lookupKey key ms').isSome := by
    rw [Bool.eq_iff_iff]
    constructor
    · intro hsome
      obtain ⟨name, rfl⟩ := exists_str_of_lookupKey hms hsome
      rwa [← h]
    · intro hsome
      obtain ⟨name, rfl⟩ := exists_str_of_lookupKey hms' hsome
      rwa [h]
  rw [Bool.eq_iff_iff, sameKeys, sameKeys, Bool.and_eq_true, Bool.and_eq_true, keysWithin_iff_of_json hms,
    keysWithin_iff_of_json hms', keysWithin_iff, keysWithin_iff]
  simp only [h, hkey]

/-! ### Canonical forms of equal values -/

namespace Value

theorem canonical_arr_eq_iff {vs ws : List Value} :
    (arr vs).canonical = (arr ws).canonical ↔ List.Forall₂ (fun v w => v.canonical = w.canonical) vs ws := by
  rw [canonical, canonical, itemsCanonical_eq, itemsCanonical_eq, Canonical.arr.injEq]
  rw [← List.forall₂_eq_eq_eq, List.forall₂_map_left_iff, List.forall₂_map_right_iff]

theorem canonical_obj_eq_iff {ms ns : List (Scalar × Value)} : (obj ms).canonical = (obj ns).canonical ↔
    ∀ name, (lookupKey (.str name) ms).map (·.canonical) = (lookupKey (.str name) ns).map (·.canonical) := by
  rw [canonical, canonical, Canonical.obj.injEq, funext_iff]
  simp only [membersCanonical_eq]

theorem isSome_congr {ms ns : List (Scalar × Value)} {name : String}
    (h : (lookupKey (.str name) ms).map (·.canonical) = (lookupKey (.str name) ns).map (·.canonical)) :
    (lookupKey (.str name) ms).isSome = (lookupKey (.str name) ns).isSome := by
  have := congrArg Option.isSome h
  rwa [Option.isSome_map, Option.isSome_map] at this

/-- Objects of one canonical form have members under the same names, of one canonical form each. -/
theorem exists_member_of_canonical {ms ms' : List (Scalar × Value)} (hms : membersJson ms = true)
    (h : (obj ms).canonical = (obj ms').canonical) {m : Scalar × Value} (hm : m ∈ ms) :
    ∃ v, (m.1, v) ∈ ms' ∧ m.2.canonical = v.canonical := by
  obtain ⟨name, hname⟩ := (isJson_of_mem (v := m.2) hms hm).1
  have hfound := canonical_obj_eq_iff.1 h name
  rw [lookupKey_of_mem hms (by rwa [← hname]), Option.map_some, eq_comm, Option.map_eq_some_iff] at hfound
  obtain ⟨v, hv, heq⟩ := hfound
  exact ⟨v, hname ▸ mem_of_lookupKey hv, heq.symm⟩

/-- JSON values are equal exactly if they have one canonical form. -/
theorem equal?_eq_true_iff {v w : Value} (hv : v.isJson = true) (hw : w.isJson = true) :
    v.equal? w = some true ↔ v.canonical = w.canonical := by
  induction v using Value.induction generalizing w with
  | scalar a =>
    cases w with
    | scalar b =>
      cases a <;> cases b
      case num.num m n => simpa [equal?, canonical] using Number.equal?_eq_true_iff hv hw
      all_goals first
        | cases hv; done
        | cases hw; done
        | simp [equal?, canonical]
    | arr | obj => cases a <;> simp [equal?, canonical]
    | set => cases hw
  | arr vs ih =>
    cases w with
    | scalar b => cases b <;> simp [equal?, canonical]
    | obj ns => simp [equal?, canonical]
    | set => cases hw
    | arr ws =>
      rw [canonical_arr_eq_iff, equal?]
      split
      · rename_i hlength
        rw [itemsEqual?_eq_true_iff (beq_iff_eq.1 hlength)]
        have hitem : ∀ v ∈ vs, ∀ w ∈ ws, (v.equal? w = some true ↔ v.canonical = w.canonical) := fun v hmem w hmem' =>
          ih v hmem (itemsJson_iff.1 hv v hmem) (itemsJson_iff.1 hw w hmem')
        constructor
        · exact fun h => (forall₂_mem h).imp fun v w ⟨hmem, hmem', heq⟩ => (hitem v hmem w hmem').1 heq
        · exact fun h => (forall₂_mem h).imp fun v w ⟨hmem, hmem', heq⟩ => (hitem v hmem w hmem').2 heq
      · rename_i hlength
        refine iff_of_false nofun fun h => hlength ?_
        rw [h.length_eq, beq_self_eq_true]
  | obj ms ih =>
    cases w with
    | scalar b => cases b <;> simp [equal?, canonical]
    | arr ns => simp [equal?, canonical]
    | set => cases hw
    | obj ns =>
      rw [canonical_obj_eq_iff, equal?]
      split
      · rename_i hkeys
        rw [membersEqual?_eq_true_iff]
        rw [sameKeys_iff hv hw] at hkeys
        constructor
        · intro h name
          cases hlookup : lookupKey (.str name) ms with
          | none =>
            have hnone := hkeys name
            rw [hlookup, eq_comm, Option.isSome_none, Option.isSome_eq_false_iff, Option.isNone_iff_eq_none] at hnone
            rw [hnone]
          | some v =>
            -- Both lookups find a member, since the keys are the same, and those are equal by the hypothesis on
            -- members.
            have hmem := mem_of_lookupKey hlookup
            obtain ⟨w, hfound, heq⟩ := h _ hmem
            rw [hfound, Option.map_some, Option.map_some]
            exact congrArg some ((ih _ hmem (isJson_of_mem hv hmem).2 (isJson_of_mem hw (mem_of_lookupKey hfound)).2).1 heq)
        · intro h m hm
          obtain ⟨w, hmem, heq⟩ := exists_member_of_canonical hv (canonical_obj_eq_iff.2 h) hm
          obtain ⟨⟨name, hname⟩, hjson⟩ := isJson_of_mem hw hmem
          refine ⟨w, ?_, (ih m hm (isJson_of_mem hv hm).2 hjson).2 heq⟩
          rw [hname] at hmem ⊢
          exact lookupKey_of_mem hw hmem
      · rename_i hkeys
        refine iff_of_false nofun fun h => hkeys ?_
        exact (sameKeys_iff hv hw).2 fun name => isSome_congr (h name)
  | set => cases hv

section Congruence

variable {p q : Bool}

private theorem itemsEqual?_congr {vs vs' ws : List Value} (hlength : vs'.length = ws.length)
    (h : List.Forall₂ (fun v v' => ∀ w p q, v.equal? w = some p → v'.equal? w = some q → p = q) vs vs')
    (hp : itemsEqual? vs ws = some p) (hq : itemsEqual? vs' ws = some q) : p = q := by
  obtain ⟨heq, hall⟩ := List.forall₂_iff_get.1 h
  cases p with
  | true =>
    cases q with
    | true => rfl
    | false =>
      obtain ⟨i, hi', hi, hfalse⟩ := exists_of_itemsEqual?_eq_false hq
      rw [itemsEqual?_eq_true_iff (heq.trans hlength)] at hp
      exact hall i (heq ▸ hi') hi' ws[i] _ _ ((List.forall₂_iff_get.1 hp).2 i (heq ▸ hi') hi) hfalse
  | false =>
    cases q with
    | false => rfl
    | true =>
      obtain ⟨i, hi', hi, hfalse⟩ := exists_of_itemsEqual?_eq_false hp
      rw [itemsEqual?_eq_true_iff hlength] at hq
      exact hall i hi' (heq ▸ hi') ws[i] _ _ hfalse ((List.forall₂_iff_get.1 hq).2 i (heq ▸ hi') hi)

/-- Members under the same names are compared with the same values. -/
private theorem membersEqual?_congr {ms ms' ns : List (Scalar × Value)}
    (h : ∀ m ∈ ms, ∃ m' ∈ ms', m'.1 = m.1 ∧ ∀ w p q, m.2.equal? w = some p → m'.2.equal? w = some q → p = q)
    (h' : ∀ m' ∈ ms', ∃ m ∈ ms, m'.1 = m.1 ∧ ∀ w p q, m.2.equal? w = some p → m'.2.equal? w = some q → p = q)
    (hp : membersEqual? ms ns = some p) (hq : membersEqual? ms' ns = some q) : p = q := by
  cases p with
  | true =>
    cases q with
    | true => rfl
    | false =>
      obtain ⟨m', hm', hfalse⟩ := exists_of_membersEqual?_eq_false hq
      obtain ⟨m, hm, hkey, hagree⟩ := h' m' hm'
      obtain ⟨w, hw, htrue⟩ := membersEqual?_eq_true_iff.1 hp m hm
      exact hagree w _ _ htrue (hfalse w (by rwa [hkey]))
  | false =>
    cases q with
    | false => rfl
    | true =>
      obtain ⟨m, hm, hfalse⟩ := exists_of_membersEqual?_eq_false hp
      obtain ⟨m', hm', hkey, hagree⟩ := h m hm
      obtain ⟨w, hw, htrue⟩ := membersEqual?_eq_true_iff.1 hq m' hm'
      exact hagree w _ _ (hfalse w (by rwa [← hkey])) htrue

private theorem scalar_equal?_congr {a b : Scalar} {w : Value} (ha : a.isJson = true) (hb : b.isJson = true)
    (h : (scalar a).canonical = (scalar b).canonical) : (scalar a).equal? w = (scalar b).equal? w := by
  cases a <;> cases b
  case num.num m n =>
    have hvalue : m.value = n.value := by simpa [canonical] using h
    cases w with
    | scalar c =>
      cases c with
      | num k => exact Number.equal?_congr ha hb hvalue
      | null | bool | str | bytes => rfl
    | arr | obj | set => rfl
  case bytes.bytes => cases ha
  all_goals
    simp only [canonical, reduceCtorEq, Canonical.bool.injEq, Canonical.str.injEq] at h
  all_goals first
    | rfl
    | rw [h]

/-- JSON values of one canonical form are equal to the same values, where that is answered for both. -/
theorem equal?_congr {v v' w : Value} (hv : v.isJson = true) (hv' : v'.isJson = true) (h : v.canonical = v'.canonical)
    (hp : v.equal? w = some p) (hq : v'.equal? w = some q) : p = q := by
  induction v using Value.induction generalizing v' w p q with
  | set => cases hv
  | scalar a =>
    cases v' with
    | scalar b =>
      rw [scalar_equal?_congr hv hv' h] at hp
      exact Option.some_inj.1 (hp.symm.trans hq)
    | arr | obj => cases a <;> simp [canonical] at h
    | set => cases hv'
  | arr vs ih =>
    cases v' with
    | scalar b => cases b <;> simp [canonical] at h
    | obj | set => simp [canonical] at h
    | arr vs' =>
      cases w with
      | arr ws =>
        rw [canonical_arr_eq_iff] at h
        rw [equal?, h.length_eq] at hp
        rw [equal?] at hq
        split at hp
        · rename_i hlength
          rw [if_pos hlength] at hq
          refine itemsEqual?_congr (beq_iff_eq.1 hlength) ((forall₂_mem h).imp ?_) hp hq
          rintro v v' ⟨hmem, hmem', heq⟩ w p q hp hq
          exact ih v hmem (itemsJson_iff.1 hv v hmem) (itemsJson_iff.1 hv' v' hmem') heq hp hq
        · rename_i hlength
          rw [if_neg hlength] at hq
          exact Option.some_inj.1 (hp.symm.trans hq)
      | scalar b => cases b <;> exact Option.some_inj.1 (hp.symm.trans hq)
      | obj | set => exact Option.some_inj.1 (hp.symm.trans hq)
  | obj ms ih =>
    cases v' with
    | scalar b => cases b <;> simp [canonical] at h
    | arr | set => simp [canonical] at h
    | obj ms' =>
      cases w with
      | obj ns =>
        have hlookup := canonical_obj_eq_iff.1 h
        rw [equal?, sameKeys_congr hv hv' fun name => isSome_congr (hlookup name)] at hp
        rw [equal?] at hq
        split at hp
        · rename_i hkeys
          rw [if_pos hkeys] at hq
          refine membersEqual?_congr (fun m hm => ?_) (fun m' hm' => ?_) hp hq
          · obtain ⟨v', hmem', heq⟩ := exists_member_of_canonical hv h hm
            refine ⟨_, hmem', rfl, fun w p q hp hq => ?_⟩
            exact ih m hm (isJson_of_mem hv hm).2 (isJson_of_mem hv' hmem').2 heq hp hq
          · obtain ⟨v, hmem, heq⟩ := exists_member_of_canonical hv' h.symm hm'
            refine ⟨_, hmem, rfl, fun w p q hp hq => ?_⟩
            exact ih _ hmem (isJson_of_mem hv hmem).2 (isJson_of_mem hv' hm').2 heq.symm hp hq
        · rename_i hkeys
          rw [if_neg hkeys] at hq
          exact Option.some_inj.1 (hp.symm.trans hq)
      | scalar b => cases b <;> exact Option.some_inj.1 (hp.symm.trans hq)
      | arr | set => exact Option.some_inj.1 (hp.symm.trans hq)

end Congruence

end Value

end Conform
