import Conform.Proofs.Compile.Built
import Conform.Proofs.Pointer
import Mathlib.Logic.Relation

/-!
# Locations of schemas

The subschemas of an object lie where their pointers say (`Location.Lies.part`), and a location is known by its
document, its place and what it inherits (`Location.Lies.ext`).  `Location.Step` goes from a location to the ones
that are compiled on its behalf.
-/

namespace Conform

/-! ### Steps of a base -/

/-- The part that a base goes on in is a member or an item. -/
theorem part_of_baseStep {token : String} {v w : Value} (h : baseStep token v = .ok (some w)) :
    (∃ ms, v = .obj ms ∧ (.str token, w) ∈ ms) ∨ ∃ (vs : List Value) (i : Nat), v = .arr vs ∧ vs[i]? = some w := by
  cases v with
  | scalar | set => cases h
  | obj ms => exact .inl ⟨ms, rfl, mem_of_lookupKey (Except.ok.inj h)⟩
  | arr vs =>
    refine .inr ⟨vs, Text.decimalOf token.toList, rfl, ?_⟩
    simp only [baseStep] at h
    split at h
    · cases h
    split at h
    · cases h
    split at h
    · cases h
      assumption
    · split at h <;> cases h

/-- A base goes no further only for a token that is not read as an integer. -/
theorem eq_badNumeral_of_baseStep {token : String} {v : Value} {e : Failure} (h : baseStep token v = .error e) :
    e = .pointer (.badNumeral token) := by
  cases v with
  | scalar | set | obj => cases h
  | arr vs =>
    simp only [baseStep] at h
    split at h
    · cases h
    split at h
    · cases h
      rfl
    split at h
    · cases h
    · split at h <;> cases h
      rfl

namespace Location

variable {l sub : Location} {members : List (Scalar × Value)}

/-- A subschema lies in a member that is no data: it is the value of the member or an item of it, or it is one of
the schemas under names that the value is made of. -/
theorem mem_subschemas_named (h : sub ∈ l.subschemas members) : ∃ name v, (.str name, v) ∈ members ∧
    (Scalar.str name).isAmong dataKeywords = false ∧
    ((Scalar.str name).isAmong nameKeywords = false ∧ (sub = l.part (l.pointer.child name) v ∨
        ∃ vs i w, v = .arr vs ∧ vs[i]? = some w ∧ sub = l.part ((l.pointer.child name).item i) w) ∨
      (name = "properties" ∨ name = "patternProperties") ∧ ∃ es key w, v = .obj es ∧ (key, w) ∈ es ∧
        sub = l.part ((l.pointer.child name).key key) w) := by
  obtain ⟨⟨key, v⟩, hmem, hpart⟩ := List.mem_flatMap.1 h
  cases key with
  | null | bool | num | bytes => simp [memberParts] at hpart
  | str name =>
    have hparts : ∀ {path : Pointer} {vs : List Value}, sub ∈ l.parts path vs →
        ∃ i w, vs[i]? = some w ∧ sub = l.part (path.item i) w := by
      intro path vs hp
      obtain ⟨⟨w, i⟩, hw, rfl⟩ := List.mem_map.1 hp
      exact ⟨i, w, List.mem_zipIdx_iff_getElem?.1 hw, rfl⟩
    have hentries : ∀ {path : Pointer} {es : List (Scalar × Value)}, sub ∈ l.entries path es →
        ∃ key w, (key, w) ∈ es ∧ sub = l.part (path.key key) w := by
      intro path es hp
      obtain ⟨⟨key, w⟩, hw, rfl⟩ := List.mem_map.1 hp
      exact ⟨key, w, hw, rfl⟩
    have hone : sub ∈ [l.part (l.pointer.child name) v] → sub = l.part (l.pointer.child name) v := by simp
    have hbranch : ∀ {name : String}, sub ∈ l.branch members name →
        ∃ w, (.str name, w) ∈ members ∧ sub = l.part (l.pointer.child name) w := by
      intro name hp
      obtain ⟨w, hw, rfl⟩ := Option.map_eq_some_iff.1 (Option.mem_toList.1 hp)
      exact ⟨w, mem_of_lookupKey hw, rfl⟩
    unfold memberParts at hpart
    dsimp only at hpart
    generalize hkeyword : Keyword.ofName name = keyword at hpart
    have hname := Keyword.eq_name_of_ofName hkeyword
    cases keyword with
    | negation | propertyNames | contains | additionalProperties | additionalItems =>
      cases hname rfl
      exact ⟨_, v, hmem, rfl, .inl ⟨rfl, .inl (hone hpart)⟩⟩
    | combination counting =>
      cases v with
      | arr vs =>
        obtain ⟨i, w, hw, rfl⟩ := hparts hpart
        cases hname rfl
        refine ⟨_, _, hmem, ?_, .inl ⟨?_, .inr ⟨vs, i, w, rfl, hw, rfl⟩⟩⟩
        all_goals cases counting <;> rfl
      | scalar | obj | set => simp [keywordParts] at hpart
    | items =>
      cases hname rfl
      cases v with
      | arr vs =>
        obtain ⟨i, w, hw, rfl⟩ := hparts hpart
        exact ⟨_, _, hmem, rfl, .inl ⟨rfl, .inr ⟨vs, i, w, rfl, hw, rfl⟩⟩⟩
      | scalar | obj | set => exact ⟨_, _, hmem, rfl, .inl ⟨rfl, .inl (hone hpart)⟩⟩
    | properties | patternProperties =>
      cases v with
      | obj es =>
        obtain ⟨key, w, hw, rfl⟩ := hentries hpart
        cases hname rfl
        exact ⟨_, _, hmem, rfl, .inr ⟨by simp [Keyword.name, Keyword.table], es, key, w, rfl, hw, rfl⟩⟩
      | scalar | arr | set => simp [keywordParts] at hpart
    | condition =>
      have hif := Keyword.eq_if_of_ofName hkeyword
      subst hif
      simp only [keywordParts, List.mem_append] at hpart
      rcases hpart with (hpart | hpart) | hpart
      · obtain ⟨w, hw, rfl⟩ := hbranch hpart
        exact ⟨"then", w, hw, rfl, .inl ⟨rfl, .inl rfl⟩⟩
      · obtain ⟨w, hw, rfl⟩ := hbranch hpart
        exact ⟨"else", w, hw, rfl, .inl ⟨rfl, .inl rfl⟩⟩
      · exact ⟨"if", v, hmem, rfl, .inl ⟨rfl, .inl (hone hpart)⟩⟩
    | passive | reference | type | enum | const | required | uniqueItems | limit | size | pattern | format | default
      | extension | unknown => simp [keywordParts] at hpart

/-- A subschema is the value of a member, an item of it, or a member of it. -/
theorem mem_subschemas (h : sub ∈ l.subschemas members) : ∃ name v, (.str name, v) ∈ members ∧
    (sub = l.part (l.pointer.child name) v ∨
      (∃ vs i w, v = .arr vs ∧ vs[i]? = some w ∧ sub = l.part ((l.pointer.child name).item i) w) ∨
      ∃ es key w, v = .obj es ∧ (key, w) ∈ es ∧ sub = l.part ((l.pointer.child name).key key) w) := by
  obtain ⟨name, v, hmem, -, ⟨-, hwhole | hitem⟩ | ⟨-, hentry⟩⟩ := mem_subschemas_named h
  · exact ⟨name, v, hmem, .inl hwhole⟩
  · exact ⟨name, v, hmem, .inr (.inl hitem)⟩
  · exact ⟨name, v, hmem, .inr (.inr hentry)⟩

/-- The subschemas of an object are in its document and under what it is under. -/
theorem of_mem_subschemas (h : sub ∈ l.subschemas members) :
    sub.document = l.document ∧ sub.base = l.base ∧ sub.dialect = l.dialect := by
  obtain ⟨name, v, -, rfl | ⟨vs, i, w, -, -, rfl⟩ | ⟨es, key, w, -, -, rfl⟩⟩ := mem_subschemas h
  all_goals exact ⟨rfl, rfl, rfl⟩

/-- The subschemas of a JSON object are JSON values. -/
theorem isJson_of_mem_subschemas (hms : membersJson members = true) (h : sub ∈ l.subschemas members) :
    sub.value.isJson = true := by
  obtain ⟨name, v, hmem, hpart⟩ := mem_subschemas h
  have hv := (isJson_of_mem hms hmem).2
  rcases hpart with rfl | ⟨vs, i, w, rfl, hw, rfl⟩ | ⟨es, key, w, rfl, hw, rfl⟩
  · exact hv
  · exact itemsJson_iff.1 hv w (List.mem_of_getElem? hw)
  · exact (isJson_of_mem hv hw).2

/-- The location lies in its document where its pointer says. -/
def Lies (l : Location) : Prop := l.pointer.eval l.document.content = .ok l.value

/-- Where the objects have texts for keys, the subschemas of an object that lies in its document lie in it. -/
theorem Lies.part_of_keyed (hl : l.Lies) (hvalue : l.value = .obj members)
    (hms : (Value.obj members).every Value.isKeyed = true) (h : sub ∈ l.subschemas members) : sub.Lies := by
  obtain ⟨name, v, hmem, hpart⟩ := mem_subschemas h
  unfold Lies at hl
  rw [hvalue] at hl
  have hchild := Pointer.eval_child hl (lookupKey_of_nodup (isKeyed_obj_iff.1 (Value.of_every hms)).1 hmem)
  rcases hpart with rfl | ⟨vs, i, w, rfl, hw, rfl⟩ | ⟨es, key, w, rfl, hw, rfl⟩
  · exact hchild
  · exact Pointer.eval_item hchild hw
  · obtain ⟨hnodup, htexts⟩ := isKeyed_obj_iff.1 (Value.of_every (every_of_mem_members hms hmem))
    obtain ⟨name, rfl : key = .str name⟩ := htexts _ hw
    exact Pointer.eval_child hchild (lookupKey_of_nodup hnodup hw)

theorem Lies.part (hl : l.Lies) (hvalue : l.value = .obj members) (hms : membersJson members = true)
    (h : sub ∈ l.subschemas members) : sub.Lies :=
  hl.part_of_keyed hvalue (Value.every_isKeyed hms) h

/-- The pointer of the location leads to its value, in a document of any kind. -/
def Sits (l : Location) : Prop := Pointer.Leads l.document.content l.pointer l.value

theorem Sits.part (hl : l.Sits) (hvalue : l.value = .obj members) (h : sub ∈ l.subschemas members) : sub.Sits := by
  obtain ⟨name, v, hmem, hpart⟩ := mem_subschemas h
  unfold Sits at hl
  rw [hvalue] at hl
  have hchild : Pointer.Leads l.document.content (l.pointer.child name) v := .member (k := .str name) hl hmem
  rcases hpart with rfl | ⟨vs, i, w, rfl, hw, rfl⟩ | ⟨es, key, w, rfl, hw, rfl⟩
  · exact hchild
  · exact .item hchild (Pointer.index?_toString i) hw
  · exact .member hchild hw

theorem Lies.sits (hl : l.Lies) : l.Sits := Pointer.leads_of_eval hl

/-- At one place of one document lies one value. -/
theorem Lies.value_eq {l' : Location} (hl : l.Lies) (hl' : l'.Lies) (hdocument : l.document = l'.document)
    (hpointer : l.pointer = l'.pointer) : l.value = l'.value := by
  unfold Lies at hl hl'
  rw [hdocument, hpointer, hl'] at hl
  exact (Except.ok.inj hl).symm

/-- Two locations at one place of one document, under the same, are one. -/
theorem Lies.ext {l' : Location} (hl : l.Lies) (hl' : l'.Lies) (hdocument : l.document = l'.document)
    (hpointer : l.pointer = l'.pointer) (hbase : l.base = l'.base) (hdialect : l.dialect = l'.dialect) : l = l' := by
  have hvalue := hl.value_eq hl' hdocument hpointer
  obtain ⟨d, v, p, base, dialect⟩ := l
  obtain ⟨d', v', p', base', dialect'⟩ := l'
  dsimp only at hdocument hpointer hbase hdialect hvalue
  subst hdocument hpointer hbase hdialect hvalue
  rfl

/-! ### Reaching locations -/

/-- The compilation of a location comes to another one right away, where URIs name such homes: to a subschema, or to
what a reference leads to. -/
inductive Step (homes : String → Home → Prop) (l : Location) : Location → Prop where
  | part {members : List (Scalar × Value)} {inner sub : Location} (hvalue : l.value = .obj members)
      (hreplaced : l.isReplaced members = false) (hinner : l.Inner members inner)
      (hsub : sub ∈ inner.subschemas members) : Step homes l sub
  | reference {members : List (Scalar × Value)} {inner t : Location} {ref : String} {fragment : Option String}
      (hvalue : l.value = .obj members) (hinner : l.Inner members inner) (href : (.str "$ref", .str ref) ∈ members)
      (htarget : TargetOf homes inner ref t fragment) : Step homes l t

/-- The compilation of a location comes to another one. -/
def Reaches (homes : String → Home → Prop) : Location → Location → Prop := Relation.ReflTransGen (Step homes)

/-- Inside an object everything but the base is as around it. -/
theorem Inner.eq {inner : Location} (h : l.Inner members inner) : inner = { l with base := inner.base } := by
  unfold Inner at h
  split at h
  · rw [h]
  · obtain ⟨base, -, rfl⟩ := h
    rfl

theorem Inner.value {inner : Location} (h : l.Inner members inner) : inner.value = l.value := by rw [h.eq]

theorem Inner.document {inner : Location} (h : l.Inner members inner) : inner.document = l.document := by rw [h.eq]

theorem Inner.pointer {inner : Location} (h : l.Inner members inner) : inner.pointer = l.pointer := by rw [h.eq]

theorem Inner.dialect {inner : Location} (h : l.Inner members inner) : inner.dialect = l.dialect := by rw [h.eq]

/-- Inside an object without a name everything is as around it. -/
theorem Inner.eq_of_nameless {inner : Location} (hid : lookupKey (.str "$id") members = none) (h : l.Inner members inner) :
    inner = l := by
  unfold Inner at h
  split at h
  · exact h
  · obtain ⟨base, ⟨hbase, -⟩, rfl⟩ := h
    rw [baseWithin, Value.member?, hid] at hbase
    cases hbase
    rfl

theorem inner_of_nameless (hid : lookupKey (.str "$id") members = none) : l.Inner members l := by
  unfold Inner
  split
  · rfl
  · refine ⟨l.base, ⟨by rw [baseWithin, Value.member?, hid], fun v hv => ?_⟩, rfl⟩
    cases hid.symm.trans hv

theorem Inner.sits {inner : Location} (h : l.Inner members inner) (hl : l.Sits) : inner.Sits := by
  unfold Sits
  rw [h.pointer, h.document, h.value]
  exact hl

theorem Inner.lies {inner : Location} (h : l.Inner members inner) (hl : l.Lies) : inner.Lies := by
  unfold Lies
  rw [h.pointer, h.document, h.value]
  exact hl

end Location

/-- The location of a pointer in a document, as it is compiled when a document is asked for. -/
structure Document.LocatedAt (d : Document) (p : Pointer) (l : Location) : Prop where
  document : l.document = d
  pointer : l.pointer = p
  value : Scope.valueAt? d.content p = .ok (some l.value)
  dialect : d.dialect? = .ok l.dialect
  base : d.baseAt p = .ok l.base

theorem Scope.eval_of_valueAt? {content v : Value} {p : Pointer} (h : Scope.valueAt? content p = .ok (some v)) :
    p.eval content = .ok v := by
  unfold Scope.valueAt? at h
  split at h
  · rename_i hp
    cases h
    exact hp
  · cases h
  · cases h

theorem Document.LocatedAt.lies {d : Document} {p : Pointer} {l : Location} (h : d.LocatedAt p l) : l.Lies := by
  unfold Location.Lies
  rw [h.document, h.pointer]
  exact Scope.eval_of_valueAt? h.value

theorem Document.LocatedAt.eq {d : Document} {p : Pointer} {l l' : Location} (h : d.LocatedAt p l)
    (h' : d.LocatedAt p l') : l = l' := by
  refine h.lies.ext h'.lies (h.document.trans h'.document.symm) (h.pointer.trans h'.pointer.symm) ?_ ?_
  · exact Except.ok.inj (h.base.symm.trans h'.base)
  · exact Except.ok.inj (h.dialect.symm.trans h'.dialect)

/-- The compilation of a document at its root comes to the location, where URIs name such homes. -/
def Document.Reaches (homes : String → Home → Prop) (d : Document) (l : Location) : Prop :=
  ∃ root, d.LocatedAt .root root ∧ root.Reaches homes l

namespace TargetOf

variable {homes : String → Home → Prop} {l t : Location} {ref : String} {fragment : Option String}

theorem lies (h : TargetOf homes l ref t fragment) : t.Lies := by
  obtain ⟨full, uri, home, -, -, -, -, hvalue, hdocument, -⟩ := h
  unfold Location.Lies
  rw [hdocument]
  exact Scope.eval_of_valueAt? hvalue

/-- A reference leads to one location, if its URI names one home. -/
theorem unique {homes' : String → Home → Prop} {t' : Location} {fragment' : Option String}
    (hone : ∀ full uri fragment home home', resolveUri l.base ref = .ok full → Uri.splitFragment full = (uri, fragment) →
      homes uri home → homes' uri home' → home = home')
    (h : TargetOf homes l ref t fragment) (h' : TargetOf homes' l ref t' fragment') : t = t' ∧ fragment = fragment' := by
  have hlies := h.lies
  have hlies' := h'.lies
  obtain ⟨full, uri, home, hfull, hsplit, hhome, hpointer, -, hdocument, hbase, dialect, hdialect, heq⟩ := h
  obtain ⟨full', uri', home', hfull', hsplit', hhome', hpointer', -, hdocument', hbase', dialect', hdialect', heq'⟩ := h'
  rw [hfull] at hfull'
  cases hfull'
  rw [hsplit] at hsplit'
  cases hsplit'
  cases hone full uri fragment home home' hfull hsplit hhome hhome'
  rw [hpointer] at hpointer'
  have hpointer' : t.pointer = t'.pointer := Option.some.inj (Except.ok.inj hpointer')
  rw [hdocument, hpointer'] at hbase
  rw [hdocument', hbase] at hbase'
  rw [hdocument] at hdialect
  rw [hdocument', hdialect] at hdialect'
  cases hdialect'
  refine ⟨hlies.ext hlies' (hdocument.trans hdocument'.symm) hpointer' (Except.ok.inj hbase') ?_, rfl⟩
  rw [heq, heq']

end TargetOf

end Conform
