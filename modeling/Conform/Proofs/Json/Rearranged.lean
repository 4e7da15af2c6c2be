import Conform.Proofs.Json.Canonical
import Conform.Proofs.Pointer
import Mathlib.Data.List.Perm.Basic

/-!
# Members in another order

`Value.Rearranged`: a value with the members of its objects in another order, at any depth.  A JSON value that is
rearranged is one (`Rearranged.isJson`), has its parts under the same names and indexes, rearranged in their turn
(`Rearranged.lookupKey`, `Rearranged.eval`), and is the same apart from how it is written (`Rearranged.canonical`).
-/

namespace Conform

/-- The value with the members of objects in another order, at any depth. -/
inductive Value.Rearranged : Value → Value → Prop where
  | scalar (a : Scalar) : Rearranged (.scalar a) (.scalar a)
  | set (es : List Scalar) : Rearranged (.set es) (.set es)
  | arr {vs ws : List Value} (h : List.Forall₂ Rearranged vs ws) : Rearranged (.arr vs) (.arr ws)
  | obj {ms ns ns' : List (Scalar × Value)} (hkeys : ms.map (·.1) = ns.map (·.1))
      (hvalues : List.Forall₂ Rearranged (ms.map (·.2)) (ns.map (·.2))) (horder : ns.Perm ns') :
    Rearranged (.obj ms) (.obj ns')

/-- Members under one key, of which one is the other rearranged. -/
def MemberRearranged (m n : Scalar × Value) : Prop := m.1 = n.1 ∧ m.2.Rearranged n.2

namespace Value.Rearranged

variable {v w : Value} {vs ws : List Value} {ms ns : List (Scalar × Value)}

theorem eq_scalar {a : Scalar} (h : (Value.scalar a).Rearranged w) : w = .scalar a := by
  cases h
  rfl

theorem items (h : (Value.arr vs).Rearranged (.arr ws)) : List.Forall₂ Rearranged vs ws := by
  cases h with
  | arr h => exact h

theorem members (h : (Value.obj ms).Rearranged (.obj ns)) :
    ∃ ks, List.Forall₂ MemberRearranged ms ks ∧ ks.Perm ns := by
  cases h with
  | @obj _ ks _ hkeys hvalues horder =>
    refine ⟨ks, ?_, horder⟩
    rw [List.forall₂_map_left_iff, List.forall₂_map_right_iff] at hvalues
    have hkeys : List.Forall₂ (fun m k => m.1 = k.1) ms ks := by
      rwa [← List.forall₂_eq_eq_eq, List.forall₂_map_left_iff, List.forall₂_map_right_iff] at hkeys
    obtain ⟨hlength, hvalues⟩ := List.forall₂_iff_get.1 hvalues
    exact List.forall₂_iff_get.2 ⟨hlength, fun i hi hi' => ⟨(List.forall₂_iff_get.1 hkeys).2 i hi hi', hvalues i hi hi'⟩⟩

theorem of_members {ks : List (Scalar × Value)} (h : List.Forall₂ MemberRearranged ms ks) (horder : ks.Perm ns) :
    (Value.obj ms).Rearranged (.obj ns) := by
  refine .obj ?_ ?_ horder
  · rw [← List.forall₂_eq_eq_eq, List.forall₂_map_left_iff, List.forall₂_map_right_iff]
    exact h.imp fun _ _ h => h.1
  · rw [List.forall₂_map_left_iff, List.forall₂_map_right_iff]
    exact h.imp fun _ _ h => h.2

protected theorem refl (v : Value) : v.Rearranged v := by
  induction v using Value.induction with
  | scalar a => exact .scalar a
  | set es => exact .set es
  | arr vs ih => exact .arr (List.forall₂_same.2 ih)
  | obj ms ih => exact of_members (List.forall₂_same.2 fun m hm => ⟨rfl, ih m hm⟩) (.refl ms)

theorem of_perm (h : ms.Perm ns) : (Value.obj ms).Rearranged (.obj ns) :=
  of_members (List.forall₂_same.2 fun m _ => ⟨rfl, .refl m.2⟩) h

theorem of_entry {key : Scalar} (h : v.Rearranged w) : (Value.obj ((key, v) :: ms)).Rearranged (.obj ((key, w) :: ms)) := by
  have hmember : MemberRearranged (key, v) (key, w) := ⟨rfl, h⟩
  have hrest : List.Forall₂ MemberRearranged ms ms := List.forall₂_same.2 fun m _ => ⟨rfl, .refl m.2⟩
  exact of_members (.cons hmember hrest) (.refl _)

/-- Values of which one is the other rearranged are of one kind. -/
theorem eq_arr (h : (Value.arr vs).Rearranged w) : ∃ ws, w = .arr ws := by
  cases h with
  | arr h => exact ⟨_, rfl⟩

theorem eq_obj (h : (Value.obj ms).Rearranged w) : ∃ ns, w = .obj ns := by
  cases h with
  | obj => exact ⟨_, rfl⟩

protected theorem symm (h : v.Rearranged w) : w.Rearranged v := by
  induction v using Value.induction generalizing w with
  | scalar a => exact h.eq_scalar ▸ .scalar a
  | set es =>
    cases h
    exact .set es
  | arr vs ih =>
    obtain ⟨ws, rfl⟩ := h.eq_arr
    exact .arr ((forall₂_mem h.items).imp fun v w ⟨hv, _, h⟩ => ih v hv h).flip
  | obj ms ih =>
    obtain ⟨ns, rfl⟩ := h.eq_obj
    obtain ⟨ks, hks, horder⟩ := h.members
    have hback : List.Forall₂ MemberRearranged ks ms :=
      ((forall₂_mem hks).imp fun m k ⟨hm, _, h⟩ => ⟨h.1.symm, ih m hm h.2⟩ : List.Forall₂ (fun m k =>
        MemberRearranged k m) ms ks).flip
    obtain ⟨js, hjs, horder'⟩ := List.perm_comp_forall₂ horder.symm hback
    exact of_members hjs horder'

/-- A member has its partner under the same key. -/
theorem exists_mem (h : (Value.obj ms).Rearranged (.obj ns)) {m : Scalar × Value} (hm : m ∈ ms) :
    ∃ n ∈ ns, MemberRearranged m n := by
  obtain ⟨ks, hks, horder⟩ := h.members
  obtain ⟨k, hk, hmk⟩ := exists_right_of_forall₂ hks hm
  exact ⟨k, horder.mem_iff.1 hk, hmk⟩

/-- A member that is a scalar is one of both. -/
theorem mem_scalar (h : (Value.obj ms).Rearranged (.obj ns)) {key a : Scalar} (ha : (key, .scalar a) ∈ ms) :
    (key, .scalar a) ∈ ns := by
  obtain ⟨⟨key', w⟩, hw, rfl, haw⟩ := h.exists_mem ha
  have haw : (Value.scalar a).Rearranged w := haw
  rwa [haw.eq_scalar] at hw

/-- A single member that is a scalar cannot be rearranged. -/
theorem eq_single {key a : Scalar} (h : (Value.obj [(key, .scalar a)]).Rearranged w) : w = .obj [(key, .scalar a)] := by
  obtain ⟨ns, rfl⟩ := h.eq_obj
  obtain ⟨ks, hks, horder⟩ := h.members
  cases hks with
  | cons hk hks =>
    cases hks
    obtain ⟨hkey, hvalue⟩ := hk
    have horder := List.singleton_perm.1 horder
    rw [← horder, Value.obj.injEq, List.cons.injEq, Prod.ext_iff]
    exact ⟨⟨hkey.symm, hvalue.eq_scalar⟩, rfl⟩

protected theorem isJson (h : v.Rearranged w) (hv : v.isJson = true) : w.isJson = true := by
  induction v using Value.induction generalizing w with
  | scalar a => rwa [h.eq_scalar]
  | set es => cases hv
  | arr vs ih =>
    obtain ⟨ws, rfl⟩ := h.eq_arr
    refine itemsJson_iff.2 fun w hw => ?_
    obtain ⟨v, hmem, h⟩ := exists_left_of_forall₂ h.items hw
    exact ih v hmem h (itemsJson_iff.1 hv v hmem)
  | obj ms ih =>
    obtain ⟨ns, rfl⟩ := h.eq_obj
    obtain ⟨ks, hks, horder⟩ := h.members
    obtain ⟨hnodup, hms⟩ := membersJson_iff.1 hv
    have hkeys : ms.map (·.1) = ks.map (·.1) := by
      rw [← List.forall₂_eq_eq_eq, List.forall₂_map_left_iff, List.forall₂_map_right_iff]
      exact hks.imp fun _ _ h => h.1
    refine membersJson_iff.2 ⟨(horder.map (·.1)).nodup_iff.1 (hkeys ▸ hnodup), fun n hn => ?_⟩
    obtain ⟨m, hm, hkey, h⟩ := exists_left_of_forall₂ hks (horder.mem_iff.2 hn)
    obtain ⟨hname, hjson⟩ := hms m hm
    exact ⟨hkey ▸ hname, ih m hm h hjson⟩

/-- Under a key the one value is found rearranged in the other, or in neither is any. -/
theorem found (h : (Value.obj ms).Rearranged (.obj ns)) (hms : membersJson ms = true) (key : Scalar) :
    Option.Rel Rearranged (lookupKey key ms) (lookupKey key ns) := by
  have hpartner {ms ns : List (Scalar × Value)} (h : (Value.obj ms).Rearranged (.obj ns)) (hms : membersJson ms = true)
      {v : Value} (hv : lookupKey key ms = some v) : ∃ w, lookupKey key ns = some w ∧ v.Rearranged w := by
    obtain ⟨name, rfl⟩ := exists_str_of_lookupKey hms (Option.isSome_iff_exists.2 ⟨v, hv⟩)
    obtain ⟨⟨key, w⟩, hw, rfl, hvw⟩ := h.exists_mem (mem_of_lookupKey hv)
    exact ⟨w, lookupKey_of_mem (h.isJson hms) hw, hvw⟩
  cases hv : lookupKey key ms with
  | some v =>
    obtain ⟨w, hw, hvw⟩ := hpartner h hms hv
    rw [hw]
    exact .some hvw
  | none =>
    cases hw : lookupKey key ns with
    | none => exact .none
    | some w =>
      obtain ⟨v, hv', -⟩ := hpartner h.symm (h.isJson hms) hw
      rw [hv] at hv'
      cases hv'

theorem lookupKey_eq_some (h : (Value.obj ms).Rearranged (.obj ns)) (hms : membersJson ms = true) {key : Scalar}
    (hv : lookupKey key ms = some v) : ∃ w, lookupKey key ns = some w ∧ v.Rearranged w := by
  have hfound := h.found hms key
  rw [hv] at hfound
  cases hw : lookupKey key ns with
  | none =>
    rw [hw] at hfound
    cases hfound
  | some w =>
    rw [hw] at hfound
    cases hfound with
    | some hvw => exact ⟨w, rfl, hvw⟩

theorem lookupKey_eq_none (h : (Value.obj ms).Rearranged (.obj ns)) (hms : membersJson ms = true) {key : Scalar}
    (hv : lookupKey key ms = none) : lookupKey key ns = none := by
  have hfound := h.found hms key
  rw [hv] at hfound
  cases hw : lookupKey key ns with
  | none => rfl
  | some w =>
    rw [hw] at hfound
    cases hfound

theorem isSome_found (h : (Value.obj ms).Rearranged (.obj ns)) (hms : membersJson ms = true) (key : Scalar) :
    (lookupKey key ms).isSome = (lookupKey key ns).isSome := by
  cases hv : lookupKey key ms with
  | none => rw [h.lookupKey_eq_none hms hv]
  | some v =>
    obtain ⟨w, hw, -⟩ := h.lookupKey_eq_some hms hv
    rw [hw]
    rfl

/-- An item has its partner at the same index. -/
theorem getElem? (h : (Value.arr vs).Rearranged (.arr ws)) {i : Nat} (hv : vs[i]? = some v) :
    ∃ w, ws[i]? = some w ∧ v.Rearranged w := by
  obtain ⟨hi, rfl⟩ := List.getElem?_eq_some_iff.1 hv
  obtain ⟨hlength, hitems⟩ := List.forall₂_iff_get.1 h.items
  exact ⟨ws.get ⟨i, hlength ▸ hi⟩, List.getElem?_eq_getElem _, hitems i hi (hlength ▸ hi)⟩

/-- A pointer leads to the same part of both values, rearranged. -/
protected theorem eval {p : Pointer} {u : Value} (h : v.Rearranged w) (hv : v.isJson = true) (hu : p.eval v = .ok u) :
    ∃ u', p.eval w = .ok u' ∧ u.Rearranged u' := by
  refine (Pointer.eval_induction (P := fun p u => u.isJson = true ∧ ∃ u', p.eval w = .ok u' ∧ u.Rearranged u')
    (fun p vs t i u hvs hi hu => ?_) (fun p ms name u hms hu => ?_) ⟨hv, w, rfl, h⟩ hu).2
  · obtain ⟨hjson, u', hu', h⟩ := hvs
    obtain ⟨ws, rfl⟩ := h.eq_arr
    obtain ⟨x, hx, hux⟩ := h.getElem? hu
    refine ⟨itemsJson_iff.1 hjson u (List.mem_of_getElem? hu), x, ?_, hux⟩
    exact Pointer.walk_append_token hu' fun here => by simp only [Pointer.step, hi, hx]
  · obtain ⟨hjson, u', hu', h⟩ := hms
    obtain ⟨ns, rfl⟩ := h.eq_obj
    obtain ⟨x, hx, hux⟩ := h.lookupKey_eq_some hjson hu
    exact ⟨(isJson_of_mem hjson (mem_of_lookupKey hu)).2, x, Pointer.eval_child hu' hx, hux⟩

protected theorem canonical (h : v.Rearranged w) (hv : v.isJson = true) : v.canonical = w.canonical := by
  induction v using Value.induction generalizing w with
  | scalar a => rw [h.eq_scalar]
  | set es => cases hv
  | arr vs ih =>
    obtain ⟨ws, rfl⟩ := h.eq_arr
    rw [canonical_arr_eq_iff]
    exact (forall₂_mem h.items).imp fun v w ⟨hmem, _, h⟩ => ih v hmem h (itemsJson_iff.1 hv v hmem)
  | obj ms ih =>
    obtain ⟨ns, rfl⟩ := h.eq_obj
    rw [canonical_obj_eq_iff]
    intro name
    cases hlookup : lookupKey (.str name) ms with
    | none => rw [h.lookupKey_eq_none hv hlookup]
    | some v =>
      obtain ⟨w, hw, hvw⟩ := h.lookupKey_eq_some hv hlookup
      have hmem := mem_of_lookupKey hlookup
      rw [hw, Option.map_some, Option.map_some, ih _ hmem hvw (isJson_of_mem hv hmem).2]

/-- What is read of the values of arrays is the same, if it is the same of their items. -/
theorem mapM_eq {α : Type} {read : Value → Option α} (h : List.Forall₂ Rearranged vs ws)
    (hread : ∀ v w : Value, v.Rearranged w → read v = read w) : vs.mapM read = ws.mapM read := by
  induction h with
  | nil => rfl
  | cons hvw _ ih => rw [List.mapM_cons, List.mapM_cons, hread _ _ hvw, ih]

theorem text?_eq (h : v.Rearranged w) : v.text? = w.text? := by
  cases h <;> rfl

theorem member?_eq_some (h : v.Rearranged w) (hv : v.isJson = true) {name : String} {u : Value}
    (hu : v.member? name = some u) : ∃ u', w.member? name = some u' ∧ u.Rearranged u' := by
  cases v with
  | obj ms =>
    obtain ⟨ns, rfl⟩ := h.eq_obj
    exact h.lookupKey_eq_some hv hu
  | scalar | arr | set => cases hu

theorem member?_eq_none (h : v.Rearranged w) (hv : v.isJson = true) {name : String} (hu : v.member? name = none) :
    w.member? name = none := by
  cases hw : w.member? name with
  | none => rfl
  | some u =>
    obtain ⟨u', hu', -⟩ := h.symm.member?_eq_some (h.isJson hv) hw
    rw [hu] at hu'
    cases hu'

/-- A member that is a text is the same text. -/
theorem member?_text (h : v.Rearranged w) (hv : v.isJson = true) (name : String) :
    (v.member? name).bind (·.text?) = (w.member? name).bind (·.text?) := by
  cases hu : v.member? name with
  | none => rw [h.member?_eq_none hv hu]
  | some u =>
    obtain ⟨u', hu', huu⟩ := h.member?_eq_some hv hu
    rw [hu', Option.bind_some, Option.bind_some, huu.text?_eq]

end Value.Rearranged

end Conform
