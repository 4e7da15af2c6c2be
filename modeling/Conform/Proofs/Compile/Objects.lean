import Conform.Proofs.Pointer
import Conform.Compile.Document

/-!
# Schema objects

What passes from a value to its items and members, with their pointers, passes to all its schema objects
(`of_mem_schemaObjects`).  So each of them lies where its pointer says (`eval_of_mem_schemaObjects`).  The schema objects
of a schema object are among those of the value (`schemaObjects_trans`), and where keys are texts no two of them have the
same pointer (`nodup_schemaObjects`).
-/

namespace Conform

section Induction

set_option linter.unusedSectionVars false

variable {R : Pointer → Value → Prop} {p : Pointer} {w : Value}
  (hitem : ∀ q vs i v, R q (.arr vs) → vs[i]? = some v → R (q.item i) v)
  (hmember : ∀ q ms key v, R q (.obj ms) → (key, v) ∈ ms → R (q.key key) v)

include hitem hmember

mutual

/-- What passes on to items and members holds of the schema objects of a value. -/
theorem of_mem_schemaObjects {q : Pointer} {v : Value} (hq : R q v) (h : (p, w) ∈ schemaObjects q v) : R p w := by
  match v with
  | .scalar _ | .set _ => simp [schemaObjects] at h
  | .arr vs =>
    rw [schemaObjects] at h
    refine of_mem_schemaItems (fun i u hu => ?_) h
    rw [Nat.zero_add]
    exact hitem q vs i u hq hu
  | .obj ms =>
    rw [schemaObjects, List.mem_cons] at h
    rcases h with h | h
    · cases h
      exact hq
    · exact of_mem_schemaMembers (fun key u hu => hmember q ms key u hq hu) h

/-- What holds of items and passes on holds of the schema objects among them. -/
theorem of_mem_schemaItems {q : Pointer} {start : Nat} {vs : List Value}
    (hq : ∀ i u, vs[i]? = some u → R (q.item (start + i)) u) (h : (p, w) ∈ schemaItems q start vs) : R p w := by
  match vs with
  | [] => simp [schemaItems] at h
  | v :: vs =>
    rw [schemaItems, List.mem_append] at h
    rcases h with h | h
    · exact of_mem_schemaObjects (hq 0 v rfl) h
    · refine of_mem_schemaItems (fun i u hu => ?_) h
      have hnext := hq (i + 1) u hu
      rwa [Nat.add_comm i 1, ← Nat.add_assoc] at hnext

/-- What holds of members and passes on holds of the schema objects below them. -/
theorem of_mem_schemaMembers {q : Pointer} {ms : List (Scalar × Value)}
    (hq : ∀ key u, (key, u) ∈ ms → R (q.key key) u) (h : (p, w) ∈ schemaMembers q ms) : R p w := by
  match ms with
  | [] => simp [schemaMembers] at h
  | (key, v) :: ms =>
    have hv := hq key v (by simp)
    rw [schemaMembers, List.mem_append] at h
    rcases h with h | h
    · split at h
      · cases h
      · split at h
        · exact of_mem_namedSchemas hv h
        · exact of_mem_schemaObjects hv h
    · exact of_mem_schemaMembers (fun key u hu => hq key u (List.mem_cons_of_mem _ hu)) h

/-- What holds of a value of schemas under names and passes on holds of the schema objects in it. -/
theorem of_mem_namedSchemas {q : Pointer} {v : Value} (hq : R q v) (h : (p, w) ∈ namedSchemas q v) : R p w := by
  match v with
  | .scalar _ | .set _ => simp [namedSchemas] at h
  | .arr vs =>
    rw [namedSchemas] at h
    refine of_mem_schemaItems (fun i u hu => ?_) h
    rw [Nat.zero_add]
    exact hitem q vs i u hq hu
  | .obj ms =>
    rw [namedSchemas] at h
    exact of_mem_entrySchemas (fun key u hu => hmember q ms key u hq hu) h

/-- What holds of schemas under names and passes on holds of the schema objects in them. -/
theorem of_mem_entrySchemas {q : Pointer} {ms : List (Scalar × Value)}
    (hq : ∀ key u, (key, u) ∈ ms → R (q.key key) u) (h : (p, w) ∈ entrySchemas q ms) : R p w := by
  match ms with
  | [] => simp [entrySchemas] at h
  | (key, v) :: ms =>
    rw [entrySchemas, List.mem_append] at h
    rcases h with h | h
    · exact of_mem_schemaObjects (hq key v (by simp)) h
    · exact of_mem_entrySchemas (fun key u hu => hq key u (List.mem_cons_of_mem _ hu)) h

end

end Induction

/-- The schema objects of a JSON value lie in it where their pointers say. -/
theorem eval_of_mem_schemaObjects {D w : Value} {p : Pointer} (hD : D.isJson = true)
    (h : (p, w) ∈ schemaObjects .root D) : p.eval D = .ok w := by
  have hlies : p.eval D = .ok w ∧ w.isJson = true := by
    refine of_mem_schemaObjects (R := fun p w => p.eval D = .ok w ∧ w.isJson = true) (fun q vs i v hq hv => ?_)
      (fun q ms key v hq hv => ?_) ⟨rfl, hD⟩ h
    · exact ⟨Pointer.eval_item hq.1 hv, itemsJson_iff.1 hq.2 v (List.mem_of_getElem? hv)⟩
    · obtain ⟨⟨name, rfl⟩, hjson⟩ := isJson_of_mem hq.2 hv
      exact ⟨Pointer.eval_child hq.1 (lookupKey_of_mem hq.2 hv), hjson⟩
  exact hlies.1

/-! ### Where schema objects come from -/

section Members

variable {e : Pointer × Value} {p : Pointer} {ms : List (Scalar × Value)}

theorem mem_schemaItems {start : Nat} {vs : List Value} :
    e ∈ schemaItems p start vs ↔ ∃ i v, vs[i]? = some v ∧ e ∈ schemaObjects (p.item (start + i)) v := by
  induction vs generalizing start with
  | nil => simp [schemaItems]
  | cons v vs ih =>
    rw [schemaItems, List.mem_append, ih]
    constructor
    · rintro (h | ⟨i, w, hw, h⟩)
      · exact ⟨0, v, rfl, h⟩
      · refine ⟨i + 1, w, hw, ?_⟩
        rwa [Nat.add_comm i 1, ← Nat.add_assoc]
    · rintro ⟨i, w, hw, h⟩
      cases i with
      | zero =>
        cases hw
        exact .inl h
      | succ i =>
        refine .inr ⟨i, w, hw, ?_⟩
        rwa [Nat.add_comm i 1, ← Nat.add_assoc] at h

theorem mem_entrySchemas : e ∈ entrySchemas p ms ↔ ∃ m ∈ ms, e ∈ schemaObjects (p.key m.1) m.2 := by
  induction ms with
  | nil => simp [entrySchemas]
  | cons m ms ih =>
    obtain ⟨key, v⟩ := m
    rw [entrySchemas, List.mem_append, ih]
    simp

/-- The schema objects at and below the value of a member. -/
def memberSchemas (p : Pointer) (m : Scalar × Value) : List (Pointer × Value) :=
  if m.1.isAmong dataKeywords then []
  else if m.1.isAmong nameKeywords then namedSchemas (p.key m.1) m.2
  else schemaObjects (p.key m.1) m.2

theorem mem_schemaMembers : e ∈ schemaMembers p ms ↔ ∃ m ∈ ms, e ∈ memberSchemas p m := by
  induction ms with
  | nil => simp [schemaMembers]
  | cons m ms ih =>
    obtain ⟨key, v⟩ := m
    rw [schemaMembers, List.mem_append, ih]
    simp [memberSchemas]

end Members

/-- The schema objects of a schema object are among those of the value, wherever it lies in it. -/
private theorem both_trans {w : Value} {x : Pointer × Value} {v : Value} : ∀ p q : Pointer, x ∈ schemaObjects p w →
    ((p, w) ∈ schemaObjects q v → x ∈ schemaObjects q v) ∧ ((p, w) ∈ namedSchemas q v → x ∈ namedSchemas q v) := by
  induction v using Value.induction with
  | scalar a => simp [schemaObjects, namedSchemas]
  | set es => simp [schemaObjects, namedSchemas]
  | arr vs ih =>
    intro p q hx
    have hitems : (p, w) ∈ schemaItems q 0 vs → x ∈ schemaItems q 0 vs := by
      intro h
      obtain ⟨i, v, hv, h⟩ := mem_schemaItems.1 h
      exact mem_schemaItems.2 ⟨i, v, hv, (ih v (List.mem_of_getElem? hv) p _ hx).1 h⟩
    simp only [schemaObjects, namedSchemas]
    exact ⟨hitems, hitems⟩
  | obj ms ih =>
    intro p q hx
    constructor
    · intro h
      rw [schemaObjects] at h
      rcases List.mem_cons.1 h with heq | h
      · cases heq
        exact hx
      · obtain ⟨m, hm, h⟩ := mem_schemaMembers.1 h
        rw [schemaObjects]
        refine List.mem_cons_of_mem _ (mem_schemaMembers.2 ⟨m, hm, ?_⟩)
        unfold memberSchemas at h ⊢
        split
        · rw [if_pos ‹_›] at h
          cases h
        · rw [if_neg ‹_›] at h
          split
          · rw [if_pos ‹_›] at h
            exact (ih m hm p _ hx).2 h
          · rw [if_neg ‹_›] at h
            exact (ih m hm p _ hx).1 h
    · intro h
      rw [namedSchemas] at h ⊢
      obtain ⟨m, hm, h⟩ := mem_entrySchemas.1 h
      exact mem_entrySchemas.2 ⟨m, hm, (ih m hm p _ hx).1 h⟩

/-- The schema objects of a schema object are among those of the value. -/
theorem schemaObjects_trans {p q : Pointer} {v w : Value} {x : Pointer × Value} (h : (p, w) ∈ schemaObjects q v)
    (hx : x ∈ schemaObjects p w) : x ∈ schemaObjects q v := (both_trans p q hx).1 h

/-! ### Pointers of schema objects -/

section Pointers

variable {p q : Pointer} {w : Value}

private theorem tokens_prefix_child (p : Pointer) (token : String) : p.tokens <+: (p.child token).tokens :=
  List.prefix_append p.tokens [token]

/-- A pointer that leads on from a part leads on from no other part. -/
private theorem eq_of_child_prefix {token token' : String} {tokens : List String} (h : (q.child token).tokens <+: tokens)
    (h' : (q.child token').tokens <+: tokens) : token = token' := by
  have hprefix : (q.child token).tokens <+: (q.child token').tokens :=
    List.prefix_of_prefix_length_le h h' (by simp [Pointer.child])
  have htoken := (List.prefix_append_right_inj q.tokens).1 hprefix
  simpa using htoken

theorem prefix_of_mem_schemaObjects {v : Value} (h : (p, w) ∈ schemaObjects q v) : q.tokens <+: p.tokens :=
  of_mem_schemaObjects (R := fun p _ => q.tokens <+: p.tokens)
    (fun _ _ _ _ hr _ => hr.trans (tokens_prefix_child _ _)) (fun _ _ _ _ hr _ => hr.trans (tokens_prefix_child _ _))
    (List.prefix_refl _) h

theorem prefix_of_mem_namedSchemas {v : Value} (h : (p, w) ∈ namedSchemas q v) : q.tokens <+: p.tokens :=
  of_mem_namedSchemas (R := fun p _ => q.tokens <+: p.tokens)
    (fun _ _ _ _ hr _ => hr.trans (tokens_prefix_child _ _)) (fun _ _ _ _ hr _ => hr.trans (tokens_prefix_child _ _))
    (List.prefix_refl _) h

theorem prefix_of_mem_memberSchemas {m : Scalar × Value} (h : (p, w) ∈ memberSchemas q m) :
    (q.key m.1).tokens <+: p.tokens := by
  unfold memberSchemas at h
  split at h
  · cases h
  · split at h
    · exact prefix_of_mem_namedSchemas h
    · exact prefix_of_mem_schemaObjects h

/-- The members have different texts for keys, and so have all objects in their values. -/
private structure Keyed (ms : List (Scalar × Value)) : Prop where
  nodup : (ms.map (·.1)).Nodup
  texts : ∀ m ∈ ms, ∃ name, m.1 = .str name
  values : ∀ m ∈ ms, m.2.every Value.isKeyed = true

private theorem keyed_of_every {ms : List (Scalar × Value)} (h : (Value.obj ms).every Value.isKeyed = true) :
    Keyed ms where
  nodup := (isKeyed_obj_iff.1 (Value.of_every h)).1
  texts := (isKeyed_obj_iff.1 (Value.of_every h)).2
  values _ hm := every_of_mem_members h hm

private theorem Keyed.tail {m : Scalar × Value} {ms : List (Scalar × Value)} (h : Keyed (m :: ms)) : Keyed ms where
  nodup := (List.nodup_cons.1 h.nodup).2
  texts m' hm' := h.texts m' (List.mem_cons_of_mem _ hm')
  values m' hm' := h.values m' (List.mem_cons_of_mem _ hm')

/-- No pointer leads on from the first key and from another one. -/
private theorem Keyed.not_prefix {m m' : Scalar × Value} {ms : List (Scalar × Value)} (h : Keyed (m :: ms)) (hm' : m' ∈ ms)
    (hm : (q.key m.1).tokens <+: p.tokens) (hp : (q.key m'.1).tokens <+: p.tokens) : False := by
  obtain ⟨name, hname⟩ := h.texts m (List.mem_cons_self ..)
  obtain ⟨name', hname'⟩ := h.texts m' (List.mem_cons_of_mem _ hm')
  have hwords : m.1.words = m'.1.words := eq_of_child_prefix hm hp
  rw [hname, hname'] at hwords
  have heq : m'.1 = m.1 := by
    rw [hname, hname', show name = name' from hwords]
  have hmem : m'.1 ∈ ms.map (·.1) := List.mem_map_of_mem hm'
  rw [heq] at hmem
  exact (List.nodup_cons.1 h.nodup).1 hmem

/-- No two entries with pointers that lead on from different parts have the same pointer. -/
private theorem nodup_append {xs ys : List (Pointer × Value)} (hxs : (xs.map (·.1)).Nodup) (hys : (ys.map (·.1)).Nodup)
    (h : ∀ {p v w}, (p, v) ∈ xs → (p, w) ∈ ys → False) : ((xs ++ ys).map (·.1)).Nodup := by
  rw [List.map_append, List.nodup_append]
  refine ⟨hxs, hys, ?_⟩
  rintro p hp _ hp' rfl
  obtain ⟨⟨_, v⟩, hv, rfl⟩ := List.mem_map.1 hp
  obtain ⟨⟨_, w⟩, hw, rfl⟩ := List.mem_map.1 hp'
  exact h hv hw

mutual

/-- Where keys are texts, no two schema objects of a value have the same pointer. -/
theorem nodup_schemaObjects {q : Pointer} {v : Value} (hv : v.every Value.isKeyed = true) :
    ((schemaObjects q v).map (·.1)).Nodup := by
  match v with
  | .scalar _ | .set _ => simp [schemaObjects]
  | .arr vs =>
    rw [schemaObjects]
    exact nodup_schemaItems fun v hmem => every_of_mem_items hv hmem
  | .obj ms =>
    rw [schemaObjects, List.map_cons, List.nodup_cons]
    refine ⟨fun hmem => ?_, nodup_schemaMembers (keyed_of_every hv)⟩
    obtain ⟨⟨_, w⟩, hw, rfl⟩ := List.mem_map.1 hmem
    obtain ⟨m, -, hw⟩ := mem_schemaMembers.1 hw
    have hlength := (prefix_of_mem_memberSchemas hw).length_le
    simp [Pointer.key, Pointer.child] at hlength

private theorem nodup_schemaItems {q : Pointer} {start : Nat} {vs : List Value}
    (hvs : ∀ v ∈ vs, v.every Value.isKeyed = true) : ((schemaItems q start vs).map (·.1)).Nodup := by
  match vs with
  | [] => simp [schemaItems]
  | v :: vs =>
    rw [schemaItems]
    refine nodup_append (nodup_schemaObjects (hvs v (List.mem_cons_self ..)))
      (nodup_schemaItems fun u hu => hvs u (List.mem_cons_of_mem _ hu)) fun h h' => ?_
    obtain ⟨i, u, -, h'⟩ := mem_schemaItems.1 h'
    -- Different indexes are spelt differently.
    have htoken := eq_of_child_prefix (prefix_of_mem_schemaObjects h) (prefix_of_mem_schemaObjects h')
    have hindex := congrArg Pointer.index? htoken
    rw [Pointer.index?_toString, Pointer.index?_toString] at hindex
    have heq := Except.ok.inj hindex
    omega

private theorem nodup_schemaMembers {q : Pointer} {ms : List (Scalar × Value)} (hms : Keyed ms) :
    ((schemaMembers q ms).map (·.1)).Nodup := by
  match ms with
  | [] => simp [schemaMembers]
  | (key, v) :: ms =>
    have hv := hms.values _ (List.mem_cons_self ..)
    rw [schemaMembers]
    refine nodup_append ?_ (nodup_schemaMembers hms.tail) fun h h' => ?_
    · split
      · exact List.nodup_nil
      · split
        · exact nodup_namedSchemas hv
        · exact nodup_schemaObjects hv
    · obtain ⟨m, hm, h'⟩ := mem_schemaMembers.1 h'
      have h : _ ∈ memberSchemas q (key, v) := h
      exact hms.not_prefix hm (prefix_of_mem_memberSchemas h) (prefix_of_mem_memberSchemas h')

private theorem nodup_namedSchemas {q : Pointer} {v : Value} (hv : v.every Value.isKeyed = true) :
    ((namedSchemas q v).map (·.1)).Nodup := by
  match v with
  | .scalar _ | .set _ => simp [namedSchemas]
  | .arr vs =>
    rw [namedSchemas]
    exact nodup_schemaItems fun v hmem => every_of_mem_items hv hmem
  | .obj ms =>
    rw [namedSchemas]
    exact nodup_entrySchemas (keyed_of_every hv)

private theorem nodup_entrySchemas {q : Pointer} {ms : List (Scalar × Value)} (hms : Keyed ms) :
    ((entrySchemas q ms).map (·.1)).Nodup := by
  match ms with
  | [] => simp [entrySchemas]
  | (key, v) :: ms =>
    rw [entrySchemas]
    refine nodup_append (nodup_schemaObjects (hms.values _ (List.mem_cons_self ..))) (nodup_entrySchemas hms.tail)
      fun h h' => ?_
    obtain ⟨m, hm, h'⟩ := mem_entrySchemas.1 h'
    exact hms.not_prefix hm (prefix_of_mem_schemaObjects h) (prefix_of_mem_schemaObjects h')

end

end Pointers

end Conform
