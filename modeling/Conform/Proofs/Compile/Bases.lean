import Conform.Proofs.Compile.Locations

/-!
# Bases of locations

The URI in force above a part of a value is the one inside the value (`Document.baseAt_child`).  So the locations that a
compilation comes to are under the base that their documents have in force there, as soon as all that is compiled on
behalf of an object are schemas (`Location.Based.part`): the base walks through every object on its way, and takes the
name of an object of schemas under names for that of a schema.
-/

namespace Conform

/-- The value can be a schema. -/
def Value.isSchema : Value → Bool
  | .bool _ | .obj _ => true
  | _ => false

/-- The value is no object with a name. -/
def Value.isNameless (v : Value) : Bool := (v.member? "$id").isNone

/-! ### Walking down -/

/-- Where a pointer goes on, a base does. -/
theorem baseStep_of_step {here : Pointer} {token : String} {v w : Value} (h : Pointer.step here token v = .ok w) :
    baseStep token v = .ok (some w) := by
  cases v with
  | scalar | set => cases h
  | obj ms =>
    simp only [Pointer.step] at h
    split at h
    · rename_i hlookup
      cases h
      exact congrArg Except.ok hlookup
    · cases h
  | arr vs =>
    simp only [Pointer.step] at h
    split at h
    · cases h
    · rename_i i hindex
      split at h
      · rename_i hw
        cases h
        -- A base takes every index that a pointer takes, and those with a leading zero besides.
        unfold Pointer.index? at hindex
        dsimp only at hindex
        split at hindex
        · cases hindex
        · rename_i hdigits
          split at hindex
          · rename_i hdecimal
            cases hindex
            simp only [Bool.or_eq_true, not_or] at hdigits
            simp only [baseStep, hdigits.1, hdecimal, hw, Bool.or_eq_true, or_self]
            simp
          · cases hindex
      · cases h

/-- The base above the last token is the one inside the value that the token leads on from. -/
theorem baseAlong_append {base : Option String} {ts : List String} {t : String} {v u : Value} {o : Option Value}
    {here : Pointer} (h : Pointer.walk here ts v = .ok u) (ht : baseStep t u = .ok o) :
    baseAlong base (ts ++ [t]) v = (baseAlong base ts v).bind fun b => baseWithin b u := by
  induction ts generalizing base v here with
  | nil =>
    cases h
    simp only [List.nil_append, baseAlong, ht]
    cases hb : baseWithin base u with
    | error e => rw [Except.bind, hb]; rfl
    | ok b =>
      rw [Except.bind, hb]
      cases o <;> rfl
  | cons s ts ih =>
    rw [Pointer.walk] at h
    split at h
    · cases h
    · rename_i w hstep
      simp only [List.cons_append, baseAlong, baseStep_of_step hstep]
      cases baseWithin base v with
      | error e => rfl
      | ok b => exact ih h

namespace Document

variable {d : Document} {p : Pointer} {base : Option String}

theorem baseAt_child {t : String} {u : Value} {o : Option Value} (hp : p.eval d.content = .ok u)
    (hbase : d.baseAt p = .ok base) (ht : baseStep t u = .ok o) : d.baseAt (p.child t) = baseWithin base u := by
  unfold baseAt at hbase ⊢
  rw [Pointer.child, baseAlong_append hp ht, hbase]
  rfl

theorem baseAt_member {name : String} {ms : List (Scalar × Value)} (hp : p.eval d.content = .ok (.obj ms))
    (hbase : d.baseAt p = .ok base) : d.baseAt (p.child name) = baseWithin base (.obj ms) :=
  baseAt_child hp hbase rfl

/-- An item of an array is under the base of the array. -/
theorem baseAt_item {vs : List Value} {i : Nat} {v : Value} (hp : p.eval d.content = .ok (.arr vs))
    (hbase : d.baseAt p = .ok base) (hv : vs[i]? = some v) : d.baseAt (p.item i) = .ok base := by
  have hstep : Pointer.step (p.item i) (toString i) (.arr vs) = .ok v := by
    simp only [Pointer.step, Pointer.index?_toString, hv]
  exact baseAt_child hp hbase (baseStep_of_step hstep)

end Document

/-- On no way into a value without names does another base come into force. -/
theorem baseAlong_of_nameless {base base' : Option String} {ts : List String} {v : Value}
    (hv : v.every Value.isNameless = true) (h : baseAlong base ts v = .ok base') : base' = base := by
  -- The induction is on the way: no name here changes the base, and what lies below has no names either.
  induction ts generalizing v with
  | nil => exact (Except.ok.inj h).symm
  | cons t ts ih =>
    have hwithin : baseWithin base v = .ok base := by
      have hnone := Value.of_every hv
      rw [Value.isNameless, Option.isNone_iff_eq_none] at hnone
      rw [baseWithin, hnone]
    obtain ⟨base'', hbase, h⟩ := bind_eq_ok.1 h
    cases Except.ok.inj (hwithin.symm.trans hbase)
    obtain ⟨w, hw, h⟩ := bind_eq_ok.1 h
    cases w with
    | none => exact (Except.ok.inj h).symm
    | some w =>
      refine ih (v := w) ?_ h
      rcases part_of_baseStep hw with ⟨ms, rfl, hmem⟩ | ⟨vs, i, rfl, hitem⟩
      · exact every_of_mem_members hv hmem
      · exact every_of_mem_items hv (List.mem_of_getElem? hitem)

namespace Location

variable {l inner sub : Location} {members : List (Scalar × Value)}

/-- The location is under the base that its document has in force there. -/
def Based (l : Location) : Prop := l.document.baseAt l.pointer = .ok l.base

/-- Two locations at one place of one document, both under the base that is in force there, are one. -/
theorem Based.ext {l' : Location} (hbased : l.Based) (hbased' : l'.Based) (hl : l.Lies) (hl' : l'.Lies)
    (hdocument : l.document = l'.document) (hpointer : l.pointer = l'.pointer) (hdialect : l.dialect = l'.dialect) :
    l = l' := by
  unfold Based at hbased hbased'
  rw [hdocument, hpointer, hbased'] at hbased
  exact hl.ext hl' hdocument hpointer (Except.ok.inj hbased).symm hdialect

/-- All that is compiled on behalf of the location can be schemas. -/
def Whole (l : Location) : Prop :=
  ∀ members inner, l.value = .obj members → l.isReplaced members = false → l.Inner members inner →
    ∀ sub ∈ inner.subschemas members, sub.value.isSchema = true

theorem Inner.baseInside (h : l.Inner members inner) (hreplaced : l.isReplaced members = false) :
    BaseInside l.base members inner.base := by
  rw [Inner, if_neg (by simp [hreplaced])] at h
  obtain ⟨base, hbase, rfl⟩ := h
  exact hbase

/-- No object of schemas under names that are compiled on behalf of the location has a name itself. -/
def NamelessMaps (l : Location) : Prop :=
  ∀ members name es text, l.value = .obj members → l.isReplaced members = false →
    name = "properties" ∨ name = "patternProperties" → (.str name, .obj es) ∈ members →
      (Value.obj es).member? "$id" ≠ some (.str text)

private theorem NamelessMaps.baseWithin {name : String} {es : List (Scalar × Value)} {base : Option String}
    (h : l.NamelessMaps) (hvalue : l.value = .obj members) (hreplaced : l.isReplaced members = false)
    (hname : name = "properties" ∨ name = "patternProperties") (hmem : (.str name, .obj es) ∈ members) :
    baseWithin base (.obj es) = .ok base := by
  unfold Conform.baseWithin
  split
  · rename_i text htext
    exact absurd htext (h members name es text hvalue hreplaced hname hmem)
  · rfl

/-- An object has no name if all of its members can be schemas. -/
theorem Whole.namelessMaps (h : l.Whole) (hvalue : l.value = .obj members) (hreplaced : l.isReplaced members = false)
    (hinner : l.Inner members inner) : l.NamelessMaps := by
  intro members' name es text hvalue' _ hname hmem htext
  cases hvalue.symm.trans hvalue'
  have hentry : (Scalar.str "$id", .str text) ∈ es := mem_of_lookupKey htext
  have hsub : inner.part ((inner.pointer.child name).key (.str "$id")) (.str text) ∈ inner.subschemas members := by
    refine List.mem_flatMap.2 ⟨_, hmem, ?_⟩
    rcases hname with rfl | rfl
    all_goals exact List.mem_map_of_mem hentry
  have hschema := h members inner hvalue hreplaced hinner _ hsub
  cases hschema

/-- Where no two keys of the object are alike, its subschemas are under the bases that its document has in force, if no
object of schemas under names has a name. -/
theorem Based.part_of_namelessMaps (hl : l.Lies) (hbased : l.Based) (hvalue : l.value = .obj members)
    (hms : (members.map (·.1)).Nodup) (hreplaced : l.isReplaced members = false) (hinner : l.Inner members inner)
    (hmaps : l.NamelessMaps) (h : sub ∈ inner.subschemas members) : sub.Based := by
  unfold Lies at hl
  unfold Based at hbased ⊢
  rw [hvalue] at hl
  rw [(of_mem_subschemas h).1, (of_mem_subschemas h).2.1, hinner.document]
  obtain ⟨hbase, -⟩ := hinner.baseInside hreplaced
  obtain ⟨name, v, hmem, -, hpart⟩ := mem_subschemas_named h
  have hchild := Pointer.eval_child hl (lookupKey_of_nodup hms hmem)
  have hbasechild : l.document.baseAt (l.pointer.child name) = .ok inner.base := by
    rw [Document.baseAt_member hl hbased, hbase]
  rw [hinner.pointer] at hpart
  rcases hpart with ⟨-, rfl | ⟨vs, i, w, rfl, hw, rfl⟩⟩ | ⟨hname, es, key, w, rfl, hw, rfl, -⟩
  · exact hbasechild
  · exact Document.baseAt_item hchild hbasechild hw
  · show l.document.baseAt ((l.pointer.child name).child key.words) = .ok inner.base
    rw [Document.baseAt_member hchild hbasechild, hmaps.baseWithin hvalue hreplaced hname hmem]

/-- Where no two keys of the object are alike, its subschemas are under the bases that its document has in force. -/
theorem Based.part_of_nodup (hl : l.Lies) (hbased : l.Based) (hvalue : l.value = .obj members)
    (hms : (members.map (·.1)).Nodup) (hreplaced : l.isReplaced members = false) (hinner : l.Inner members inner)
    (hwhole : l.Whole) (h : sub ∈ inner.subschemas members) : sub.Based :=
  hbased.part_of_namelessMaps hl hvalue hms hreplaced hinner (hwhole.namelessMaps hvalue hreplaced hinner) h

theorem Based.part (hl : l.Lies) (hbased : l.Based) (hvalue : l.value = .obj members)
    (hms : membersJson members = true) (hreplaced : l.isReplaced members = false) (hinner : l.Inner members inner)
    (hwhole : l.Whole) (h : sub ∈ inner.subschemas members) : sub.Based :=
  hbased.part_of_nodup hl hvalue (membersJson_iff.1 hms).1 hreplaced hinner hwhole h

end Location

end Conform
