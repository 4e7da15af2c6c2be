import Conform.Proofs.Compile.Built
import Conform.Proofs.Compile.Loading
import Conform.Proofs.Compile.Runs
import Conform.Proofs.Json.Members
import Conform.Proofs.Pointer

/-!
# Checks of keywords

What the checks on the values of keywords give, and what they fail with (`Objection`).  Where a check refuses a value,
no value of the kind that is asked for is to be had.  A fault is told at the place of a value that the object has
(`Location.Holds`).
-/

namespace Conform

/-! ### Values in an object -/

/-- Wherever the object lies at the place of the location, the value lies at the path. -/
def Location.Holds (l : Location) (members : List (Scalar × Value)) (path : Pointer) (v : Value) : Prop :=
  ∀ D, Pointer.Leads D l.pointer (.obj members) → Pointer.Leads D path v

namespace Location

variable {l : Location} {members : List (Scalar × Value)} {path : Pointer}

theorem holds_of_mem {name : String} {v : Value} (h : (.str name, v) ∈ members) :
    l.Holds members (l.pointer.child name) v := fun _ hD => .member (k := .str name) hD h

theorem holds_of_lookupKey {name : String} {v : Value} (h : lookupKey (.str name) members = some v) :
    l.Holds members (l.pointer.child name) v := holds_of_mem (mem_of_lookupKey h)

theorem Holds.item {vs : List Value} {i : Nat} {v : Value} (h : l.Holds members path (.arr vs)) (hv : vs[i]? = some v) :
    l.Holds members (path.item i) v := fun D hD => .item (h D hD) (Pointer.index?_toString i) hv

theorem Holds.entry {ms : List (Scalar × Value)} {k : Scalar} {v : Value} (h : l.Holds members path (.obj ms))
    (hv : (k, v) ∈ ms) : l.Holds members (path.key k) v := fun D hD => .member (h D hD) hv

end Location

/-! ### Objections -/

/-- The text is a pattern of the object: that of its strings, or one of its names. -/
def IsPatternOf (members : List (Scalar × Value)) (text : String) : Prop :=
  (.str "pattern", .str text) ∈ members ∨
    ∃ ms v, (.str "patternProperties", .obj ms) ∈ members ∧ (.str text, v) ∈ ms

/-- The description of the object refers to a text elsewhere. -/
def Describes (members : List (Scalar × Value)) (ref : String) : Prop :=
  lookupKey (.str "description") members = some (.obj [(.str "$ref", .str ref)])

/-- What the checks of an object fail with. -/
inductive Objection (setup : Setup) (l : Location) (members : List (Scalar × Value)) : Failure → Prop where
  | fault {path : Pointer} {v : Value} (fault : SchemaFault) (hpath : l.Holds members path v) :
    Objection setup l members (.schema fault l.base (some path))
  | pattern {text : String} {e : Regex.ReadError} (htext : IsPatternOf members text)
      (h : Regex.ofText setup.world.characters text = .error e) (hother : ∀ reason position, e ≠ .fault reason position) :
    Objection setup l members (.regex text e)
  | patternKey {ms : List (Scalar × Value)} {key : Scalar} {v : Value}
      (hms : (.str "patternProperties", .obj ms) ∈ members) (hkey : (key, v) ∈ ms) (htext : ∀ text, key ≠ .str text) :
    Objection setup l members (.patternNotText key)
  | keyword {key : Scalar} {v : Value} (hkey : (key, v) ∈ members) (htext : ∀ text, key ≠ .str text) :
    Objection setup l members (.keywordNotText key)
  | name {name : String} {e : Failure} (hname : lookupKey (.str "$id") members = some (.str name))
      (h : resolveName l.base name = .error e) : Objection setup l members e
  | describing {ref : String} {e : Failure} (href : Describes members ref) (h : resolveUri l.base ref = .error e) :
    Objection setup l members e
  | description {ref uri : String} {e : Failure} {loader : Loader} (href : Describes members ref)
      (huri : resolveUri l.base ref = .ok uri) (h : ((Loader.readText setup.world uri).run.run loader).1 = .error e)
      (horigin : e.origin = .lookup ∨ e.origin = .calculation) : Objection setup l members e

/-- The failures that the checks of an object tell, in whatever state. -/
abbrev Tells (setup : Setup) (l : Location) (members : List (Scalar × Value)) : Failure → Session → Prop :=
  fun e _ => Objection setup l members e

/-- Any node at all, for any location. -/
abbrev anything : Location → Node → Prop := fun _ _ => True

/-- Any location at all, for any reference. -/
abbrev anywhere : Location → String → Location → Option String → Prop := fun _ _ _ _ => True

/-- The description of an object is no reference, or it may be one. -/
def DescriptionAllowed (setup : Setup) (members : List (Scalar × Value)) : Prop :=
  ∀ ref, Describes members ref → setup.options.descriptionReferences = true

namespace Scope

variable {C : Course Failure Session} {P : Session → Prop} {setup : Setup}
  {means : Session → Location → Node → Prop} {leads : Session → Location → String → Location → Option String → Prop}
  {descend : Location → Compiling Node} {l : Location} {members : List (Scalar × Value)}

/-! ### Values of keywords -/

/-- A check that nothing passes. -/
theorem runs_fail {α : Type} {Q : α → Session → Prop} {can : Session → Prop} {fault : SchemaFault} {path : Pointer}
    {v : Value} (hpath : l.Holds members path v) (h : C.Refuses P (Tells setup l members) can) (hcan : ∀ s, ¬can s) :
    Runs C P ((l.scope setup descend members).fail fault path : Compiling α) Q :=
  .refuse h hcan fun _ => .fault fault hpath

theorem runs_regex {text : String} {path : Pointer} {v : Value} (hpath : l.Holds members path v)
    (htext : IsPatternOf members text)
    (h : C.Refuses P (Tells setup l members) fun _ => ∃ regex, Regex.ofText setup.world.characters text = .ok regex) :
    Runs C P ((l.scope setup descend members).regex text path) fun regex _ =>
      Regex.ofText setup.world.characters text = .ok regex := by
  unfold regex
  split
  · rename_i regex hregex
    exact .pure fun _ _ => hregex
  · rename_i herror
    change Regex.ofText setup.world.characters text = _ at herror
    exact runs_fail hpath h fun _ => by simp [herror]
  · rename_i e hother herror
    change Regex.ofText setup.world.characters text = _ at herror
    exact .refuse h (fun _ => by simp [herror]) fun _ => .pattern htext herror fun reason position he =>
      hother reason position he

theorem runs_keyRegex {ms : List (Scalar × Value)} {key : Scalar} {v : Value} {path : Pointer}
    (hpath : l.Holds members path v) (hms : (.str "patternProperties", .obj ms) ∈ members) (hkey : (key, v) ∈ ms)
    (h : C.Refuses P (Tells setup l members) fun _ =>
      ∃ regex text, key = .str text ∧ Regex.ofText setup.world.characters text = .ok regex) :
    Runs C P ((l.scope setup descend members).keyRegex key path) fun regex _ =>
      ∃ text, key = .str text ∧ Regex.ofText setup.world.characters text = .ok regex := by
  unfold keyRegex
  split
  · rename_i text
    refine (runs_regex hpath (.inr ⟨ms, v, hms, hkey⟩) (h.part fun s ⟨regex, text', heq, hregex⟩ => ?_)).weaken
      (fun _ h => h) fun regex _ _ hregex => ⟨text, rfl, hregex⟩
    cases heq
    exact ⟨regex, hregex⟩
  · rename_i hne
    exact .refuse h (fun _ ⟨_, text, heq, _⟩ => hne text heq) fun _ => .patternKey hms hkey hne

theorem runs_size {name : String} {value : Value} {path : Pointer} (hpath : l.Holds members path value)
    (h : C.Refuses P (Tells setup l members) fun _ => ∃ k, value.size? = some k) :
    Runs C P ((l.scope setup descend members).size name value path) fun k _ => value.size? = some k := by
  unfold size
  split
  · split
    · rename_i hn
      exact .pure fun _ _ => by simp [Value.size?, hn]
    · rename_i hn
      exact runs_fail hpath h fun _ => by simp [Value.size?, hn]
  · rename_i hne
    refine runs_fail hpath h fun _ hsome => ?_
    obtain ⟨k, hk⟩ := hsome
    unfold Value.size? at hk
    split at hk
    · exact hne _ rfl
    · cases hk

theorem runs_size? {name : String}
    (h : C.Refuses P (Tells setup l members) fun _ => ∃ k, SizeUnder members name k) :
    Runs C P ((l.scope setup descend members).size? name) fun k _ => SizeUnder members name k := by
  unfold size?
  split
  · rename_i value hvalue
    have hvalue : lookupKey (.str name) members = some value := hvalue
    refine (runs_size (Location.holds_of_lookupKey hvalue) (h.part fun _ ⟨k, hk⟩ => ?_)).bindStatic fun k hk =>
      .pure fun _ _ => ⟨value, hvalue, hk⟩
    cases k with
    | none => rw [SizeUnder, hvalue] at hk; cases hk
    | some k =>
      obtain ⟨v, hv, hk⟩ := hk
      rw [hvalue] at hv
      cases hv
      exact ⟨k, hk⟩
  · rename_i hvalue
    exact .pure fun _ _ => hvalue

theorem runs_bound {name : String} {relation : Relation} {value : Value} {path : Pointer}
    (hpath : l.Holds members path value)
    (h : C.Refuses P (Tells setup l members) fun _ => ∃ b, value.bound? relation = some b) :
    Runs C P ((l.scope setup descend members).bound name relation value path) fun b _ =>
      value.bound? relation = some b := by
  unfold bound
  split
  · split
    · rename_i hfinite
      split
      · rename_i hpositive
        exact runs_fail hpath h fun _ => by simp only [Value.bound?, hfinite, hpositive]; simp
      · rename_i hpositive
        exact .pure fun _ _ => by simp [Value.bound?, hfinite, hpositive]
    · rename_i hfinite
      exact runs_fail hpath h fun _ => by simp [Value.bound?, hfinite]
  · rename_i hne
    refine runs_fail hpath h fun _ hsome => ?_
    obtain ⟨b, hb⟩ := hsome
    unfold Value.bound? at hb
    split at hb
    · exact hne _ rfl
    · cases hb

theorem runs_texts {name : String} {value : Value} {path : Pointer} (hpath : l.Holds members path value)
    (h : C.Refuses P (Tells setup l members) fun _ => ∃ names, value.texts? = some names) :
    Runs C P ((l.scope setup descend members).texts name value path) fun names _ => value.texts? = some names := by
  unfold texts
  split
  · split
    · rename_i names hnames
      exact .pure fun _ _ => hnames
    · rename_i hnames
      exact runs_fail hpath h fun _ => by simp [Value.texts?, hnames]
  · rename_i hne
    refine runs_fail hpath h fun _ hsome => ?_
    obtain ⟨names, hnames⟩ := hsome
    unfold Value.texts? at hnames
    split at hnames
    · exact hne _ rfl
    · cases hnames

private theorem mapM_of_zipIdx {vs : List Value} {k : Nat} {names : List String}
    (h : List.Forall₂ (fun (vi : Value × Nat) name => vi.1.typeName? = some name) (vs.zipIdx k) names) :
    vs.mapM Value.typeName? = some names := by
  induction vs generalizing k names with
  | nil =>
    cases h
    rfl
  | cons v vs ih =>
    cases h with
    | cons hv hvs =>
      rw [List.mapM_cons, hv, ih hvs]
      rfl

/-- Where types are listed, every item is the name of one. -/
private theorem typeName?_of_mem {vs : List Value} {names : List String} (h : vs.mapM Value.typeName? = some names)
    {v : Value} (hv : v ∈ vs) : ∃ name, v.typeName? = some name := by
  induction vs generalizing names with
  | nil => cases hv
  | cons w vs ih =>
    rw [List.mapM_cons] at h
    obtain ⟨name, hname, h⟩ := Option.bind_eq_some_iff.1 h
    obtain ⟨rest, hrest, -⟩ := Option.bind_eq_some_iff.1 h
    rcases List.mem_cons.1 hv with rfl | hv
    · exact ⟨name, hname⟩
    · exact ih hrest hv

private theorem runs_typeName (v : Value) (p : Pointer) (hpath : l.Holds members p v)
    (h : C.Refuses P (Tells setup l members) fun _ => ∃ name, v.typeName? = some name) :
    Runs C P (match v with
      | .str name => if typeNames.contains name then pure name else (l.scope setup descend members).fail (.badType v) p
      | _ => (l.scope setup descend members).fail (.badType v) p) fun name _ => v.typeName? = some name := by
  split
  · split
    · rename_i hname
      exact .pure fun _ _ => by simp only [Value.typeName?, hname, ↓reduceIte]
    · rename_i hname
      refine runs_fail hpath h fun _ hsome => ?_
      obtain ⟨t, ht⟩ := hsome
      simp only [Value.typeName?, hname] at ht
      cases ht
  · rename_i hne
    refine runs_fail hpath h fun _ hsome => ?_
    obtain ⟨t, ht⟩ := hsome
    unfold Value.typeName? at ht
    split at ht
    · exact hne _ rfl
    · cases ht

theorem runs_types {value : Value} {path : Pointer} (hpath : l.Holds members path value)
    (h : C.Refuses P (Tells setup l members) fun _ => ∃ names, value.types? = some names) :
    Runs C P ((l.scope setup descend members).types value path) fun names _ => value.types? = some names := by
  unfold types
  split
  · rename_i name
    refine (runs_typeName (.str name) path hpath (h.part fun _ hsome => ?_)).bindStatic fun t ht =>
      .pure fun _ _ => by simp [Value.types?, ht]
    obtain ⟨names, hnames⟩ := hsome
    obtain ⟨t, ht, -⟩ := Option.map_eq_some_iff.1 hnames
    exact ⟨t, ht⟩
  · exact runs_fail hpath h fun _ hsome => by simp [Value.types?] at hsome
  · rename_i vs hne
    have hvs : ∀ names, (Value.arr vs).types? = some names ↔ vs.mapM Value.typeName? = some names := by
      cases vs with
      | nil => exact absurd rfl hne
      | cons v vs => exact fun _ => Iff.rfl
    refine (Runs.mapM fun vi hvi => runs_typeName vi.1 _ (hpath.item (List.mem_zipIdx_iff_getElem?.1 hvi))
      (h.part fun _ hsome => ?_)).weaken (fun _ h => h) fun names _ _ hnames => (hvs names).2 (mapM_of_zipIdx hnames)
    obtain ⟨names, hnames⟩ := hsome
    exact typeName?_of_mem ((hvs names).1 hnames) (List.fst_mem_of_mem_zipIdx hvi)
  · rename_i hstr _ hne
    refine runs_fail hpath h fun _ hsome => ?_
    obtain ⟨names, hnames⟩ := hsome
    unfold Value.types? at hnames
    split at hnames
    · cases hnames
    · exact hne _ rfl
    · obtain ⟨t, ht, -⟩ := Option.map_eq_some_iff.1 hnames
      unfold Value.typeName? at ht
      split at ht
      · exact hstr _ rfl
      · cases ht

end Scope

end Conform
