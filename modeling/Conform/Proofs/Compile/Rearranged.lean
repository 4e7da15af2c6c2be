import Conform.Proofs.Compile.Settled
import Conform.Proofs.Json.Rearranged

/-!
# Documents with members in another order

A document whose members are rearranged has the same bases, the same names and the same targets of references, and its
schema objects lie at the same places (`Document.Rearranged.baseAt`, `claims`, `target`).  So it is contained if the other is
(`contained`), and its compilation comes to the same locations, rearranged in their turn (`comesTo`).
-/

namespace Conform

/-! ### Bases -/

namespace Value.Rearranged

variable {v w : Value} {vs ws : List Value} {ms ns : List (Scalar × Value)}

/-- A member is the same text in both, or in neither is it any text. -/
theorem member?_eq_str (h : v.Rearranged w) (hv : v.isJson = true) {name text : String}
    (hu : v.member? name = some (.str text)) : w.member? name = some (.str text) := by
  obtain ⟨u, hu', htext⟩ := h.member?_eq_some hv hu
  rw [hu', htext.eq_scalar]

theorem baseWithin (h : v.Rearranged w) (hv : v.isJson = true) (base : Option String) :
    baseWithin base v = Conform.baseWithin base w := by
  unfold Conform.baseWithin
  split
  · rename_i name hname
    rw [h.member?_eq_str hv hname]
  · rename_i hnone
    split
    · rename_i name hname
      exact absurd (h.symm.member?_eq_str (h.isJson hv) hname) (hnone name)
    · rfl

theorem isSchema_eq (h : v.Rearranged w) : v.isSchema = w.isSchema := by
  cases h <;> rfl

/-- A step down from a value leads to the same part, rearranged, or it fails for both. -/
theorem baseStep (h : v.Rearranged w) (hv : v.isJson = true) (token : String) :
    (∃ e, baseStep token v = .error e ∧ Conform.baseStep token w = .error e) ∨
      (baseStep token v = .ok none ∧ Conform.baseStep token w = .ok none) ∨
      ∃ u u', Conform.baseStep token v = .ok (some u) ∧ Conform.baseStep token w = .ok (some u') ∧ u.Rearranged u' ∧
        u.isJson = true := by
  cases v with
  | scalar a =>
    rw [h.eq_scalar]
    exact .inr (.inl ⟨rfl, rfl⟩)
  | set es => cases hv
  | obj ms =>
    obtain ⟨ns, rfl⟩ := h.eq_obj
    refine .inr ?_
    cases hu : lookupKey (.str token) ms with
    | none => exact .inl ⟨congrArg Except.ok hu, congrArg Except.ok (h.lookupKey_eq_none hv hu)⟩
    | some u =>
      obtain ⟨u', hu', huu⟩ := h.lookupKey_eq_some hv hu
      exact .inr ⟨u, u', congrArg Except.ok hu, congrArg Except.ok hu', huu, (isJson_of_mem hv (mem_of_lookupKey hu)).2⟩
  | arr vs =>
    obtain ⟨ws, rfl⟩ := h.eq_arr
    simp only [Conform.baseStep]
    split
    · exact .inr (.inl ⟨rfl, rfl⟩)
    · split
      · exact .inl ⟨_, rfl, rfl⟩
      · cases hu : vs[Text.decimalOf token.toList]? with
        | none =>
          have hlength := h.items.length_eq
          have hnone : ws[Text.decimalOf token.toList]? = none := by
            rw [List.getElem?_eq_none_iff] at hu ⊢
            omega
          rw [hnone]
          dsimp only
          split
          · exact .inl ⟨_, rfl, rfl⟩
          · exact .inr (.inl ⟨rfl, rfl⟩)
        | some u =>
          obtain ⟨u', hu', huu⟩ := h.getElem? hu
          rw [hu']
          exact .inr (.inr ⟨u, u', rfl, rfl, huu, itemsJson_iff.1 hv u (List.mem_of_getElem? hu)⟩)

/-- The same bases come into force on the way down. -/
theorem baseAlong (h : v.Rearranged w) (hv : v.isJson = true) (base : Option String) (tokens : List String) :
    baseAlong base tokens v = Conform.baseAlong base tokens w := by
  induction tokens generalizing base v w with
  | nil => rfl
  | cons token tokens ih =>
    rw [Conform.baseAlong, Conform.baseAlong, h.baseWithin hv]
    refine congrArg _ (funext fun inner => ?_)
    rcases h.baseStep hv token with ⟨e, he, he'⟩ | ⟨hnone, hnone'⟩ | ⟨u, u', hu, hu', huu, hjson⟩
    · rw [he, he']
    · rw [hnone, hnone']
    · rw [hu, hu']
      exact ih huu hjson inner

/-! ### Schema objects -/

/-- The schema objects of both lie at the same places, rearranged, and so do those of values of schemas under names. -/
private theorem both_schemaObjects {v : Value} : ∀ (w : Value) (q p : Pointer) (u : Value), v.Rearranged w →
    ((p, u) ∈ Conform.schemaObjects q v → ∃ u', (p, u') ∈ Conform.schemaObjects q w ∧ u.Rearranged u') ∧
      ((p, u) ∈ namedSchemas q v → ∃ u', (p, u') ∈ namedSchemas q w ∧ u.Rearranged u') := by
  induction v using Value.induction with
  | scalar a => simp [Conform.schemaObjects, namedSchemas]
  | set es => simp [Conform.schemaObjects, namedSchemas]
  | arr vs ih =>
    intro w q p u h
    obtain ⟨ws, rfl⟩ := h.eq_arr
    have hitems : (p, u) ∈ schemaItems q 0 vs → ∃ u', (p, u') ∈ schemaItems q 0 ws ∧ u.Rearranged u' := by
      intro hu
      obtain ⟨i, v, hv, hu⟩ := mem_schemaItems.1 hu
      obtain ⟨w, hw, hvw⟩ := h.getElem? hv
      obtain ⟨u', hu', huu⟩ := (ih v (List.mem_of_getElem? hv) w _ p u hvw).1 hu
      exact ⟨u', mem_schemaItems.2 ⟨i, w, hw, hu'⟩, huu⟩
    simp only [Conform.schemaObjects, namedSchemas]
    exact ⟨hitems, hitems⟩
  | obj ms ih =>
    intro w q p u h
    obtain ⟨ns, rfl⟩ := h.eq_obj
    simp only [Conform.schemaObjects, namedSchemas]
    constructor
    · intro hu
      rcases List.mem_cons.1 hu with heq | hu
      · cases heq
        exact ⟨.obj ns, List.mem_cons_self, h⟩
      · obtain ⟨⟨key, x⟩, hx, hu⟩ := mem_schemaMembers.1 hu
        obtain ⟨⟨key', y⟩, hy, rfl, hxy⟩ := h.exists_mem hx
        -- Which key leads to schemas, and to what kind of them, depends on the key alone, and both have the same keys.
        have hmember : ∃ u', (p, u') ∈ memberSchemas q (key, y) ∧ u.Rearranged u' := by
          unfold memberSchemas at hu ⊢
          split
          · rw [if_pos ‹_›] at hu
            cases hu
          · rw [if_neg ‹_›] at hu
            split
            · rw [if_pos ‹_›] at hu
              exact (ih _ hx y _ p u hxy).2 hu
            · rw [if_neg ‹_›] at hu
              exact (ih _ hx y _ p u hxy).1 hu
        obtain ⟨u', hu', huu⟩ := hmember
        exact ⟨u', List.mem_cons_of_mem _ (mem_schemaMembers.2 ⟨_, hy, hu'⟩), huu⟩
    · intro hu
      obtain ⟨⟨key, x⟩, hx, hu⟩ := mem_entrySchemas.1 hu
      obtain ⟨⟨key', y⟩, hy, rfl, hxy⟩ := h.exists_mem hx
      obtain ⟨u', hu', huu⟩ := (ih _ hx y _ p u hxy).1 hu
      exact ⟨u', mem_entrySchemas.2 ⟨_, hy, hu'⟩, huu⟩

/-- The schema objects of both lie at the same places, rearranged. -/
theorem schemaObjects (h : v.Rearranged w) {q p : Pointer} {u : Value} (hu : (p, u) ∈ Conform.schemaObjects q v) :
    ∃ u', (p, u') ∈ Conform.schemaObjects q w ∧ u.Rearranged u' := (both_schemaObjects w q p u h).1 hu

theorem hasAnchor (h : v.Rearranged w) (hv : v.isJson = true) (name : String) :
    hasAnchor name v = Conform.hasAnchor name w := by
  have hany (member text : String) : (v.member? member).any (·.text? == some text) =
      (w.member? member).any (·.text? == some text) := by
    have htext := h.member?_text hv member
    cases hx : v.member? member with
    | none => rw [h.member?_eq_none hv hx]
    | some x =>
      obtain ⟨y, hy, hxy⟩ := h.member?_eq_some hv hx
      rw [hy, Option.any_some, Option.any_some, hxy.text?_eq]
  rw [Conform.hasAnchor, Conform.hasAnchor, hany, hany]

end Value.Rearranged

/-! ### Documents -/

namespace Document

/-- The document with the members of its objects in another order. -/
structure Rearranged (d d' : Document) : Prop where
  key : d.key = d'.key
  uri : d.uri = d'.uri
  content : d.content.Rearranged d'.content

variable {d d' : Document} {uri : String} {p : Pointer} {e : Failure}

theorem Distinct.findAnchor?_eq_some (hd : d.Distinct) {name : String} : findAnchor? d.content name = some p ↔
      ∃ v, (p, v) ∈ schemaObjects .root d.content ∧ hasAnchor name v = true := by
  unfold findAnchor?
  constructor
  · intro h
    obtain ⟨⟨q, v⟩, hfound, rfl⟩ := Option.map_eq_some_iff.1 h
    exact ⟨v, List.mem_of_find?_eq_some hfound, by simpa using List.find?_some hfound⟩
  · rintro ⟨v, hmem, hv⟩
    cases hfound : (schemaObjects .root d.content).find? fun entry => hasAnchor name entry.2 with
    | none =>
      have hnone := List.find?_eq_none.1 hfound (p, v) hmem
      exact absurd hv hnone
    | some entry =>
      obtain ⟨q, u⟩ := entry
      have hu : hasAnchor name u = true := by simpa using List.find?_some hfound
      rw [hd.anchors hmem (List.mem_of_find?_eq_some hfound) hv hu]
      rfl

namespace Rearranged

protected theorem symm (h : d.Rearranged d') : d'.Rearranged d := ⟨h.key.symm, h.uri.symm, h.content.symm⟩

variable (h : d.Rearranged d') (hd : d.content.isJson = true)

include h hd

theorem isJson : d'.content.isJson = true := h.content.isJson hd

theorem baseAt (p : Pointer) : d.baseAt p = d'.baseAt p := by
  rw [Document.baseAt, Document.baseAt, h.uri, h.content.baseAlong hd]

theorem dialect? : d.dialect? = d'.dialect? := by
  unfold Document.dialect?
  cases hu : d.content.member? "$schema" with
  | none => rw [h.content.member?_eq_none hd hu]
  | some u =>
    obtain ⟨u', hu', huu⟩ := h.content.member?_eq_some hd hu
    rw [hu', h.uri]
    cases huu <;> rfl

/-- The schema objects of both lie at the same places, rearranged. -/
theorem schemaObjects {v : Value} (hv : (p, v) ∈ schemaObjects .root d.content) :
    ∃ v', (p, v') ∈ Conform.schemaObjects .root d'.content ∧ v.Rearranged v' ∧ v.isJson = true := by
  obtain ⟨v', hv', hvv⟩ := h.content.schemaObjects hv
  exact ⟨v', hv', hvv, Pointer.isJson_of_eval hd (eval_of_mem_schemaObjects hd hv)⟩

theorem claims (hclaims : d.Claims uri ⟨d, p⟩) : d'.Claims uri ⟨d', p⟩ := by
  cases hclaims with
  | document huri => exact .document (h.uri ▸ huri)
  | part hmem hname hanchor huri hne =>
    obtain ⟨v', hv', hvv, hjson⟩ := h.schemaObjects hd hmem
    rw [h.baseAt hd] at huri
    exact .part hv' (hvv.member?_eq_str hjson hname) hanchor huri hne

theorem misnamed (hmisnamed : d.Misnamed e) : d'.Misnamed e := by
  obtain ⟨p, v, name, hmem, hname, hanchor, he⟩ := hmisnamed
  obtain ⟨v', hv', hvv, hjson⟩ := h.schemaObjects hd hmem
  rw [h.baseAt hd] at he
  exact ⟨p, v', name, hv', hvv.member?_eq_str hjson hname, hanchor, he⟩

theorem names (hnames : d.Names uri ⟨d, p⟩) : d'.Names uri ⟨d', p⟩ := by
  cases hnames with
  | whole huri => exact .whole (h.uri ▸ huri)
  | part hne hown hclaims => exact .part hne (h.uri ▸ hown) (h.claims hd hclaims)

omit h in
omit hd in
theorem distinct (h : d.Rearranged d') (hd : d.Distinct) : d'.Distinct where
  json := h.isJson hd.json
  names hown hclaims hclaims' := by
    have hd' := h.isJson hd.json
    exact hd.names (h.uri ▸ hown) (h.symm.claims hd' hclaims) (h.symm.claims hd' hclaims')
  anchors {name p v p' v'} hv hv' hname hname' := by
    have hd' := h.isJson hd.json
    obtain ⟨u, hu, hvu, hjson⟩ := h.symm.schemaObjects hd' hv
    obtain ⟨u', hu', hvu', hjson'⟩ := h.symm.schemaObjects hd' hv'
    rw [hvu.hasAnchor hjson] at hname
    rw [hvu'.hasAnchor hjson'] at hname'
    exact hd.anchors hu hu' hname hname'

end Rearranged

end Document

/-! ### Locations -/

namespace Location

/-- The locations are at one place of a document and of the document rearranged. -/
structure Rearranged (l l' : Location) : Prop where
  document : l.document.Rearranged l'.document
  value : l.value.Rearranged l'.value
  json : l.value.isJson = true
  pointer : l.pointer = l'.pointer
  base : l.base = l'.base
  dialect : l.dialect = l'.dialect

namespace Rearranged

variable {l l' i t : Location} {ms ns : List (Scalar × Value)} {v w : Value} {path : Pointer} {name : String}

protected theorem symm (h : l.Rearranged l') : l'.Rearranged l :=
  ⟨h.document.symm, h.value.symm, h.value.isJson h.json, h.pointer.symm, h.base.symm, h.dialect.symm⟩

theorem place (h : l.Rearranged l') : l.place = l'.place := by
  rw [Location.place, Location.place, h.document.key, h.pointer]

theorem part (h : l.Rearranged l') (hvw : v.Rearranged w) (hv : v.isJson = true) (path : Pointer) :
    (l.part path v).Rearranged (l'.part path w) :=
  ⟨h.document, hvw, hv, rfl, h.base, h.dialect⟩

theorem site (h : l.Rearranged l') (path : Pointer) : l.site path = l'.site path := by
  rw [Location.site, Location.site, h.base]

/-- Inside objects of the locations. -/
theorem members (h : l.Rearranged l') (hvalue : l.value = .obj ms) :
    ∃ ns, l'.value = .obj ns ∧ (Value.obj ms).Rearranged (.obj ns) ∧ membersJson ms = true := by
  have hrearranged := h.value
  have hjson := h.json
  rw [hvalue] at hrearranged hjson
  obtain ⟨ns, hns⟩ := hrearranged.eq_obj
  exact ⟨ns, hns, hns ▸ hrearranged, hjson⟩

theorem isReplaced (h : l.Rearranged l') (hobj : (Value.obj ms).Rearranged (.obj ns)) (hms : membersJson ms = true) :
    l.isReplaced ms = l'.isReplaced ns := by
  rw [Location.isReplaced, Location.isReplaced, hasKey, hasKey, h.dialect, hobj.isSome_found hms]

theorem inner (h : l.Rearranged l') (hobj : (Value.obj ms).Rearranged (.obj ns)) (hms : membersJson ms = true)
    (hinner : l.Inner ms i) : ∃ inner', l'.Inner ns inner' ∧ i.Rearranged inner' := by
  unfold Inner at hinner ⊢
  rw [← h.isReplaced hobj hms]
  split
  · rw [if_pos ‹_›] at hinner
    subst hinner
    exact ⟨l', rfl, h⟩
  · rw [if_neg ‹_›] at hinner
    obtain ⟨base, ⟨hbase, hid⟩, rfl⟩ := hinner
    refine ⟨{ l' with base }, ⟨base, ⟨?_, fun w hw => ?_⟩, rfl⟩, ⟨h.document, h.value, h.json, h.pointer, rfl, h.dialect⟩⟩
    · rw [← hbase, hobj.baseWithin hms, h.base]
    · obtain ⟨v, hv, hwv⟩ := hobj.symm.lookupKey_eq_some (hobj.isJson hms) hw
      obtain ⟨name, rfl⟩ := hid v hv
      exact ⟨name, hwv.symm.eq_scalar⟩

/-- The one can be a schema if the other can. -/
theorem isDescribed {setup : Setup} (h : l.Rearranged l') (hl : l.IsDescribed setup) : l'.IsDescribed setup := by
  intro ns hns hreplaced ref href
  obtain ⟨ms, hvalue, hobj, hjson⟩ := h.symm.members hns
  rw [h.symm.isReplaced hobj hjson] at hreplaced
  refine hl ms hvalue hreplaced ref ?_
  obtain ⟨v, hv, hvw⟩ := hobj.lookupKey_eq_some hjson href
  rw [Describes, hv, hvw.eq_single]

/-! ### Parts -/

theorem parts {vs ws : List Value} (h : l.Rearranged l') (hvw : (Value.arr vs).Rearranged (.arr ws))
    (hvs : itemsJson vs = true) (ht : t ∈ l.parts path vs) : ∃ t' ∈ l'.parts path ws, t.Rearranged t' := by
  obtain ⟨⟨v, i⟩, hv, rfl⟩ := List.mem_map.1 ht
  have hi := List.mem_zipIdx_iff_getElem?.1 hv
  obtain ⟨w, hw, hvw⟩ := hvw.getElem? hi
  refine ⟨l'.part (path.item i) w, List.mem_map.2 ⟨(w, i), List.mem_zipIdx_iff_getElem?.2 hw, rfl⟩, ?_⟩
  exact h.part hvw (itemsJson_iff.1 hvs v (List.mem_of_getElem? hi)) _

theorem entries (h : l.Rearranged l') (hobj : (Value.obj ms).Rearranged (.obj ns)) (hms : membersJson ms = true)
    (ht : t ∈ l.entries path ms) : ∃ t' ∈ l'.entries path ns, t.Rearranged t' := by
  obtain ⟨⟨key, v⟩, hv, rfl⟩ := List.mem_map.1 ht
  obtain ⟨⟨key', w⟩, hw, rfl, hvw⟩ := hobj.exists_mem hv
  exact ⟨_, List.mem_map_of_mem hw, h.part hvw (isJson_of_mem hms hv).2 _⟩

theorem branch (h : l.Rearranged l') (hobj : (Value.obj ms).Rearranged (.obj ns)) (hms : membersJson ms = true)
    (ht : t ∈ l.branch ms name) : ∃ t' ∈ l'.branch ns name, t.Rearranged t' := by
  obtain ⟨v, hv, rfl⟩ := Option.map_eq_some_iff.1 (Option.mem_toList.1 ht)
  obtain ⟨w, hw, hvw⟩ := hobj.lookupKey_eq_some hms hv
  refine ⟨l'.part (l'.pointer.child name) w, by simp [Location.branch, hw], ?_⟩
  rw [← h.pointer]
  exact h.part hvw (isJson_of_mem hms (mem_of_lookupKey hv)).2 _

theorem keywordParts {keyword : Keyword} (h : l.Rearranged l') (hobj : (Value.obj ms).Rearranged (.obj ns))
    (hms : membersJson ms = true) (hvw : v.Rearranged w) (hv : v.isJson = true) (ht : t ∈ l.keywordParts ms keyword name v) :
    ∃ t' ∈ l'.keywordParts ns keyword name w, t.Rearranged t' := by
  have hone {name : String} (ht : t ∈ [l.part (l.pointer.child name) v]) :
      ∃ t' ∈ [l'.part (l'.pointer.child name) w], t.Rearranged t' := by
    rw [List.mem_singleton.1 ht, ← h.pointer]
    exact ⟨_, List.mem_singleton.2 rfl, h.part hvw hv _⟩
  cases keyword with
  | passive | reference | type | enum | const | required | uniqueItems | limit | size | pattern | format | default
    | extension | unknown => simp [Location.keywordParts] at ht
  | negation | propertyNames | contains | additionalProperties | additionalItems => exact hone ht
  | combination counting =>
    cases v with
    | arr vs =>
      obtain ⟨ws, rfl⟩ := hvw.eq_arr
      simp only [Location.keywordParts, ← h.pointer] at ht ⊢
      exact h.parts hvw hv ht
    | scalar | obj | set => simp [Location.keywordParts] at ht
  | items =>
    cases v with
    | arr vs =>
      obtain ⟨ws, rfl⟩ := hvw.eq_arr
      simp only [Location.keywordParts, ← h.pointer] at ht ⊢
      exact h.parts hvw hv ht
    | scalar a =>
      rw [hvw.eq_scalar] at hone ⊢
      exact hone ht
    | obj ks =>
      obtain ⟨ks', rfl⟩ := hvw.eq_obj
      exact hone ht
    | set es => cases hv
  | properties | patternProperties =>
    cases v with
    | obj ks =>
      obtain ⟨ks', rfl⟩ := hvw.eq_obj
      simp only [Location.keywordParts, ← h.pointer] at ht ⊢
      exact h.entries hvw hv ht
    | scalar | arr | set => simp [Location.keywordParts] at ht
  | condition =>
    simp only [Location.keywordParts, List.mem_append] at ht ⊢
    rcases ht with (ht | ht) | ht
    · obtain ⟨t', ht', h⟩ := h.branch hobj hms ht
      exact ⟨t', .inl (.inl ht'), h⟩
    · obtain ⟨t', ht', h⟩ := h.branch hobj hms ht
      exact ⟨t', .inl (.inr ht'), h⟩
    · obtain ⟨t', ht', h⟩ := hone ht
      exact ⟨t', .inr ht', h⟩

theorem subschemas (h : l.Rearranged l') (hobj : (Value.obj ms).Rearranged (.obj ns)) (hms : membersJson ms = true)
    (ht : t ∈ l.subschemas ms) : ∃ t' ∈ l'.subschemas ns, t.Rearranged t' := by
  obtain ⟨⟨key, v⟩, hv, ht⟩ := List.mem_flatMap.1 ht
  obtain ⟨⟨key', w⟩, hw, rfl, hvw⟩ := hobj.exists_mem hv
  obtain ⟨⟨name, rfl⟩, hjson⟩ := isJson_of_mem hms hv
  obtain ⟨t', ht', htt⟩ := h.keywordParts hobj hms hvw hjson ht
  exact ⟨t', List.mem_flatMap.2 ⟨_, hw, ht'⟩, htt⟩

theorem whole (h : l.Rearranged l') (hl : l.Whole) : l'.Whole := by
  intro ns i' hns hreplaced hinner t' ht'
  obtain ⟨ms, hvalue, hobj, hjson⟩ := h.symm.members hns
  rw [h.symm.isReplaced hobj hjson] at hreplaced
  obtain ⟨i, hi, hinner⟩ := h.symm.inner hobj hjson hinner
  obtain ⟨t, ht, htt⟩ := hinner.subschemas hobj hjson ht'
  rw [htt.value.isSchema_eq]
  exact hl ms i hvalue hreplaced hi t ht

end Rearranged

end Location

namespace Document.Rearranged

variable {d d' : Document} {l l' t root : Location} {uri ref : String} {fragment : Option String} {p : Pointer}

theorem targetPointer? (h : d.Rearranged d') (hd : d.Distinct) {origin : Pointer}
    (htarget : targetPointer? d.content origin fragment = .ok (some p)) :
    Conform.targetPointer? d'.content origin fragment = .ok (some p) := by
  unfold Conform.targetPointer? at htarget ⊢
  split at htarget
  · exact htarget
  · split at htarget
    · rename_i hnil
      exact htarget
    · exact htarget
    · rename_i name hname hne
      obtain ⟨v, hv, hanchor⟩ := hd.findAnchor?_eq_some.1 (Except.ok.inj htarget)
      obtain ⟨v', hv', hvv, hjson⟩ := h.schemaObjects hd.json hv
      rw [hvv.hasAnchor hjson] at hanchor
      have hfound := (h.distinct hd).findAnchor?_eq_some.2 ⟨v', hv', hanchor⟩
      exact congrArg Except.ok hfound

theorem valueAt? (h : d.Rearranged d') (hd : d.content.isJson = true) {v : Value}
    (hv : Scope.valueAt? d.content p = .ok (some v)) :
    ∃ v', Scope.valueAt? d'.content p = .ok (some v') ∧ v.Rearranged v' ∧ v.isJson = true := by
  have heval := Scope.eval_of_valueAt? hv
  obtain ⟨v', hv', hvv⟩ := h.content.eval hd heval
  refine ⟨v', ?_, hvv, Pointer.isJson_of_eval hd heval⟩
  unfold Scope.valueAt?
  rw [hv']

/-- A reference leads to the same place of both documents. -/
theorem leads (h : d.Rearranged d') (hd : d.Distinct) (hl : l.Rearranged l') (ht : d.Leads l ref t fragment) :
    ∃ t', d'.Leads l' ref t' fragment ∧ t.Rearranged t' := by
  obtain ⟨full, uri, ⟨_, origin⟩, hfull, hsplit, hhome, hpointer, hvalue, hdocument, hbase, dialect, hdialect, heq⟩ := ht
  obtain rfl := hhome.document
  dsimp only at hpointer hvalue hdocument
  obtain ⟨v', hv', hvv, hjson⟩ := h.valueAt? hd.json hvalue
  rw [hdocument] at hbase hdialect
  refine ⟨⟨d', v', t.pointer, t.base, t.dialect⟩, ⟨full, uri, ⟨d', origin⟩, ?_, hsplit, h.names hd.json hhome,
    h.targetPointer? hd hpointer, hv', rfl, ?_, dialect, ?_, ?_⟩, ?_⟩
  · rwa [← hl.base]
  · rwa [← h.baseAt hd.json]
  · rwa [← h.dialect? hd.json]
  · rwa [← hl.dialect]
  · exact ⟨hdocument ▸ h, hvv, hjson, rfl, rfl, rfl⟩

theorem locatedAt (h : d.Rearranged d') (hd : d.content.isJson = true) (hl : d.LocatedAt p l) :
    ∃ l', d'.LocatedAt p l' ∧ l.Rearranged l' := by
  obtain ⟨hdocument, hpointer, hvalue, hdialect, hbase⟩ := hl
  obtain ⟨v', hv', hvv, hjson⟩ := h.valueAt? hd hvalue
  refine ⟨⟨d', v', p, l.base, l.dialect⟩, ⟨rfl, rfl, hv', ?_, ?_⟩, ⟨hdocument ▸ h, hvv, hjson, hpointer, rfl, rfl⟩⟩
  · rwa [← h.dialect? hd]
  · rwa [← h.baseAt hd]

theorem goes (h : d.Rearranged d') (hd : d.Distinct) (hl : l.Rearranged l') (hgo : Location.Goes d.Leads l t) :
    ∃ t', Location.Goes d'.Leads l' t' ∧ t.Rearranged t' := by
  cases hgo with
  | part hvalue hreplaced hinner hsub =>
    obtain ⟨ns, hns, hobj, hms⟩ := hl.members hvalue
    obtain ⟨inner', hinner', hinner⟩ := hl.inner hobj hms hinner
    obtain ⟨t', ht', htt⟩ := hinner.subschemas hobj hms hsub
    rw [hl.isReplaced hobj hms] at hreplaced
    exact ⟨t', .part hns hreplaced hinner' ht', htt⟩
  | reference hvalue hinner href htarget =>
    obtain ⟨ns, hns, hobj, hms⟩ := hl.members hvalue
    obtain ⟨inner', hinner', hinner⟩ := hl.inner hobj hms hinner
    obtain ⟨t', ht', htt⟩ := h.leads hd hinner htarget
    exact ⟨t', .reference hns hinner' (hobj.mem_scalar href) ht', htt⟩

/-- The compilations of both documents come to the same places. -/
theorem comesTo (h : d.Rearranged d') (hd : d.Distinct) {root' : Location} (hroot : root.Rearranged root')
    (hl : d.ComesTo root l) : ∃ l', d'.ComesTo root' l' ∧ l.Rearranged l' := by
  induction hl with
  | refl => exact ⟨root', .refl, hroot⟩
  | tail _ hgo ih =>
    obtain ⟨l', hl', hll⟩ := ih
    obtain ⟨t', ht', htt⟩ := h.goes hd hll hgo
    exact ⟨t', hl'.tail ht', htt⟩

theorem refers (hl : l.Rearranged l') (hrefers : l.Refers uri) : l'.Refers uri := by
  obtain ⟨members, inner, ref, full, fragment, hvalue, hinner, href, hfull, hsplit⟩ := hrefers
  obtain ⟨ns, hns, hobj, hms⟩ := hl.members hvalue
  obtain ⟨inner', hinner', hinner⟩ := hl.inner hobj hms hinner
  rw [hinner.base] at hfull
  exact ⟨ns, inner', ref, full, fragment, hns, hinner', hobj.mem_scalar href, hfull, hsplit⟩

/-- A document is contained whatever the order of its members. -/
theorem contained (h : d.Rearranged d') (hd : d.Contained) : d'.Contained where
  toDistinct := h.distinct hd.toDistinct
  refers hroot hl hrefers := by
    have hd' := h.distinct hd.toDistinct
    obtain ⟨root, hroot', hroots⟩ := h.symm.locatedAt hd'.json hroot
    obtain ⟨l, hl', hll⟩ := h.symm.comesTo hd' hroots hl
    obtain ⟨⟨_, p⟩, hhome⟩ := hd.refers hroot' hl' (refers hll hrefers)
    obtain rfl := hhome.document
    exact ⟨⟨d', p⟩, h.names hd.json hhome⟩

/-- Where the one compilation visits a location, the other visits that place. -/
theorem visits (h : d.Rearranged d') (hd : d.Contained) {setup : Setup} {root' : Location} (hroot : root.Rearranged root')
    (hroot' : d'.Has root') (hl : d.Visits setup root l) : ∃ l', d'.Visits setup root' l' ∧ l.Rearranged l' := by
  obtain ⟨l', hl', hll⟩ := h.comesTo hd.toDistinct hroot hl.comesTo
  obtain ⟨hdocument, hlies⟩ := hl'.lies (h.contained hd) hroot'
  have hbased : d.baseAt l.pointer = .ok l.base := by
    have hbased := hl.has.based
    rwa [Location.Based, hl.has.document] at hbased
  refine ⟨l', ⟨hl', ⟨hdocument, hlies, ?_, ?_⟩, hll.whole hl.whole, hll.isDescribed hl.described⟩, hll⟩
  · rw [Location.Based, hdocument, ← h.baseAt hd.json, ← hll.pointer, ← hll.base]
    exact hbased
  · rw [← h.dialect? hd.json, ← hll.dialect]
    exact hl.has.dialect

end Document.Rearranged

end Conform

