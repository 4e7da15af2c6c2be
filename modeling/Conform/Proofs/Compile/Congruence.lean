import Conform.Proofs.Compile.Building

/-!
# Congruences of compilations

A relation between computations that the steps of a compilation keep (`Congruence`): it relates what reads nothing of a
session to itself, and it passes from two computations to what is put together from them.  So it relates the compilations
of an object whose descents differ, as long as it relates the descents (`Congruence.object`); where references lead, and
what the self-checks do, is left to each relation.
-/

namespace Conform

namespace Scope

variable {setup : Setup} {descend : Location → Compiling Node} {l : Location} {members : List (Scalar × Value)}

/-- What the first look at a member leaves for later is part of the object. -/
theorem part_of_early {member : Scalar × Value} {keyword : Keyword} {name : String} {value : Value}
    {s : Session} (hmem : member ∈ members)
    (h : (((l.scope setup descend members).early member).run.run s).1 = .ok (.late keyword name value)) :
    l.part (l.pointer.child name) value ∈ l.subschemas members := by
  obtain ⟨key, v⟩ := member
  cases key with
  | str text =>
    unfold early at h
    dsimp only at h
    split at h
    · cases h
      exact Location.part_of_isLate hmem ‹_›
    · rw [run_bind] at h
      split at h <;> cases h
  | null | bool | num | bytes => cases h

/-- The base that is in force inside an object, which is filed under it. -/
def ownBase (s : Scope) : Compiling (Option String) := do
  match lookupKey (.str "$id") s.members with
  | none => return s.base
  | some (.str name) =>
    let uri ← Compiling.ofExcept (resolveName s.base name)
    if uri.isEmpty then return s.base
    Compiling.register uri ⟨s.document, s.pointer⟩
    return some uri
  | some _ => s.fail (.shape "$id" .text) (s.pointer.child "$id")

theorem enter_eq (s : Scope) : s.enter = s.ownBase >>= fun base => pure { s with base } := by
  unfold enter ownBase
  generalize lookupKey (.str "$id") s.members = id
  cases id with
  | none => rfl
  | some id =>
    cases id with
    | arr | obj | set => rfl
    | scalar id =>
      cases id with
      | null | bool | num | bytes => rfl
      | str name =>
        dsimp only
        rw [bind_assoc]
        congr 1
        funext uri
        split <;> rfl

theorem inside_of_ownBase {base : Option String} {s : Session}
    (h : ((l.scope setup descend members).ownBase.run.run s).1 = .ok base) : BaseInside l.base members base := by
  have hkeeps : Keeps (fun _ => True) (l.scope setup descend members).enter fun s =>
      ∃ base, BaseInside l.base members base ∧ s = ({ l with base }).scope setup descend members :=
    runs_keeping_iff.1 (runs_enter (fun _ _ _ _ _ _ _ _ => ⟨trivial, trivial⟩) fun _ _ _ _ _ _ => trivial)
  rw [enter_eq] at hkeeps
  have hgives := (hkeeps s trivial).2
  rw [run_bind] at hgives
  generalize (l.scope setup descend members).ownBase.run.run s = r at h hgives
  obtain ⟨r, t⟩ := r
  cases h
  obtain ⟨base', hbase, heq⟩ := hgives _ rfl
  have hsame : base = base' := congrArg Scope.base heq
  rwa [hsame]

end Scope

/-- The steps of a compilation keep the relation. -/
structure Congruence (R : {α : Type} → Compiling α → Compiling α → Prop) : Prop where
  ofPure : ∀ {α : Type} (a : α), R (pure a) (pure a)
  ofThrow : ∀ {α : Type} (e : Failure), R (throw e : Compiling α) (throw e)
  /-- The second computation rests on what the first can give. -/
  bindOf : ∀ {α β : Type} {x y : Compiling α} {f g : α → Compiling β}, R x y →
    (∀ a, (∃ t, (y.run.run t).1 = .ok a) → R (f a) (g a)) → R (x >>= f) (y >>= g)
  register : ∀ uri home, R (Compiling.register uri home) (Compiling.register uri home)
  /-- A text is read, or it is told that it cannot be. -/
  readText : ∀ w uri {f : Failure → Compiling String}, (∀ e, ∃ told, f e = throw told) →
    R (tryCatch (Compiling.ofLoading (Loader.readText w uri)) f)
      (tryCatch (Compiling.ofLoading (Loader.readText w uri)) f)

namespace Congruence

variable {R : {α : Type} → Compiling α → Compiling α → Prop}

protected theorem ite {α : Type} {c : Prop} [Decidable c] {x y x' y' : Compiling α} (hx : R x y) (hx' : R x' y') :
    R (if c then x else x') (if c then y else y') := by
  split
  · exact hx
  · exact hx'

variable (hR : Congruence R)
include hR

section Rules

variable {α β : Type} {x y : Compiling α} {f g : α → Compiling β}

protected theorem bind (hx : R x y) (hf : ∀ a, R (f a) (g a)) : R (x >>= f) (y >>= g) := hR.bindOf hx fun a _ => hf a

/-- The result is put to the same use. -/
theorem andPure (hx : R x y) (h : α → β) : R (x >>= fun a => pure (h a)) (y >>= fun a => pure (h a)) :=
  hR.bind hx fun a => hR.ofPure (h a)

/-- A failure is not gone on from. -/
theorem throw_bind (e : Failure) : R (throw e >>= f) (throw e >>= g) :=
  hR.bindOf (hR.ofThrow e) fun _ ⟨_, ha⟩ => by cases ha

protected theorem ofExcept (x : Except Failure α) : R (Compiling.ofExcept x) (Compiling.ofExcept x) := by
  unfold Compiling.ofExcept
  split
  · exact hR.ofPure _
  · exact hR.ofThrow _

protected theorem mapM {γ : Type} {f g : γ → Compiling β} {l : List γ} (hf : ∀ c ∈ l, R (f c) (g c)) :
    R (l.mapM f) (l.mapM g) := by
  induction l with
  | nil =>
    rw [List.mapM_nil, List.mapM_nil]
    exact hR.ofPure []
  | cons c l ih =>
    rw [List.mapM_cons, List.mapM_cons]
    refine hR.bind (hf c List.mem_cons_self) fun b => ?_
    exact hR.andPure (ih fun d hd => hf d (List.mem_cons_of_mem _ hd)) _

protected theorem forIn {γ : Type} {f : γ → PUnit → Compiling (ForInStep PUnit)} {l : List γ}
    (hf : ∀ c u, R (f c u) (f c u)) : R (forIn l PUnit.unit f) (forIn l PUnit.unit f) := by
  induction l with
  | nil =>
    rw [List.forIn_nil]
    exact hR.ofPure _
  | cons c l ih =>
    rw [List.forIn_cons]
    refine hR.bind (hf c _) fun step => ?_
    cases step with
    | done => exact hR.ofPure _
    | yield => exact ih

end Rules

/-! ### Documents -/

theorem registerPart (d : Document) (p : Pointer) (schema : Value) :
    R (Compiling.registerPart d p schema) (Compiling.registerPart d p schema) := by
  unfold Compiling.registerPart
  split
  · split
    · exact hR.ofPure _
    · refine hR.bind (hR.ofExcept _) fun uri => ?_
      split
      · exact hR.register uri _
      · exact hR.ofPure _
  · exact hR.ofPure _

theorem registerDocument (d : Document) : R (Compiling.registerDocument d) (Compiling.registerDocument d) := by
  have hparts : R (do
      for entry in schemaObjects .root d.content do
        Compiling.registerPart d entry.1 entry.2) (do
      for entry in schemaObjects .root d.content do
        Compiling.registerPart d entry.1 entry.2) :=
    hR.bind (hR.forIn fun entry _ => hR.andPure (hR.registerPart d entry.1 entry.2) _) fun _ => hR.ofPure _
  unfold Compiling.registerDocument
  split
  · exact hR.bind (hR.register _ _) fun _ => hparts
  · exact hparts

/-! ### Checks that depend on nothing but the scope -/

section Checks

variable {sc : Scope} {name : String} {value : Value} {path : Pointer}

theorem fail {α : Type} {fault : SchemaFault} : R (sc.fail fault path : Compiling α) (sc.fail fault path) := hR.ofThrow _

theorem entries : R (sc.entries name value path) (sc.entries name value path) := by
  unfold Scope.entries
  split
  · exact hR.ofPure _
  · exact hR.fail

theorem regex {text : String} : R (sc.regex text path) (sc.regex text path) := by
  unfold Scope.regex
  split
  · exact hR.ofPure _
  · exact hR.fail
  · exact hR.ofThrow _

theorem keyRegex {key : Scalar} : R (sc.keyRegex key path) (sc.keyRegex key path) := by
  unfold Scope.keyRegex
  split
  · exact hR.regex
  · exact hR.ofThrow _

theorem types : R (sc.types value path) (sc.types value path) := by
  have hcheck : ∀ name path, R (if typeNames.contains name then pure name
      else sc.fail (.badType (.str name)) path : Compiling String) (if typeNames.contains name then pure name
      else sc.fail (.badType (.str name)) path) := by
    intro name path
    split
    · exact hR.ofPure _
    · exact hR.fail
  unfold Scope.types
  dsimp only
  split
  · exact hR.andPure (hcheck _ _) _
  · exact hR.fail
  · refine hR.mapM fun vi _ => ?_
    obtain ⟨v, i⟩ := vi
    dsimp only
    split
    · exact hcheck _ _
    · exact hR.fail
  · exact hR.fail

theorem size : R (sc.size name value path) (sc.size name value path) := by
  unfold Scope.size
  split
  · split
    · exact hR.ofPure _
    · exact hR.fail
  · exact hR.fail

theorem size? : R (sc.size? name) (sc.size? name) := by
  unfold Scope.size?
  split
  · exact hR.andPure hR.size _
  · exact hR.ofPure _

theorem bound {relation : Relation} : R (sc.bound name relation value path) (sc.bound name relation value path) := by
  unfold Scope.bound
  split
  · split
    · split
      · exact hR.fail
      · exact hR.ofPure _
    · exact hR.fail
  · exact hR.fail

theorem texts : R (sc.texts name value path) (sc.texts name value path) := by
  unfold Scope.texts
  split
  · split
    · exact hR.ofPure _
    · exact hR.fail
  · exact hR.fail

theorem format : R (sc.format name value path) (sc.format name value path) := by
  unfold Scope.format
  split
  · split
    · exact hR.ofPure _
    · exact hR.ofPure _
    · exact hR.ofPure _
  · exact hR.fail

theorem title : R sc.title sc.title := by
  unfold Scope.title
  split
  · exact hR.ofPure _
  · exact hR.ofPure _
  · exact hR.ofPure _
  · exact hR.fail

theorem referredDescription {ref : String} : R (sc.referredDescription ref) (sc.referredDescription ref) := by
  unfold Scope.referredDescription
  refine hR.bind (hR.ofExcept _) fun uri => hR.andPure ?_ _
  refine hR.readText _ _ fun e => ?_
  split
  · exact ⟨_, rfl⟩
  · exact ⟨_, rfl⟩
  · exact ⟨_, rfl⟩

theorem description : R sc.description sc.description := by
  unfold Scope.description
  split
  · exact hR.ofPure _
  · exact hR.ofPure _
  · exact hR.ofPure _
  · split
    · exact hR.andPure hR.referredDescription _
    · exact hR.fail
  · exact hR.fail

theorem ownBase : R sc.ownBase sc.ownBase := by
  unfold Scope.ownBase
  split
  · exact hR.ofPure _
  · refine hR.bind (hR.ofExcept _) fun uri => ?_
    split
    · exact hR.ofPure _
    · exact hR.andPure (hR.register _ _) _
  · exact hR.fail

end Checks

/-! ### Keywords -/

section Keywords

variable {setup : Setup} {descend descend' : Location → Compiling Node} {l : Location} {members : List (Scalar × Value)}
  {name : String} {value : Value} {path : Pointer}

theorem schemas {vs : List Value} (hd : ∀ part ∈ l.parts path vs, R (descend part) (descend' part)) :
    R ((l.scope setup descend members).schemas vs path) ((l.scope setup descend' members).schemas vs path) :=
  hR.mapM fun _ h => hd _ (Location.part_mem_parts h)

theorem branch (hd : ∀ part ∈ l.branch members name, R (descend part) (descend' part)) : R (do
      match lookupKey (.str name) members with
      | some v => return some (← (l.scope setup descend members).schema v (l.pointer.child name))
      | none => return none) (do
      match lookupKey (.str name) members with
      | some v => return some (← (l.scope setup descend' members).schema v (l.pointer.child name))
      | none => return none) := by
  split
  · rename_i v h
    exact hR.andPure (hd (l.part (l.pointer.child name) v) (by simp [Location.branch, h])) some
  · exact hR.ofPure _

theorem conditional (hd : ∀ part ∈ l.keywordParts members .condition name value, R (descend part) (descend' part)) :
    R ((l.scope setup descend members).conditional value) ((l.scope setup descend' members).conditional value) := by
  refine hR.bind (hR.branch fun part (h : part ∈ l.branch members "then") =>
    hd part (by simp [Location.keywordParts, h])) fun t => ?_
  refine hR.bind (hR.branch fun part (h : part ∈ l.branch members "else") =>
    hd part (by simp [Location.keywordParts, h])) fun e => ?_
  exact hR.andPure (hd (l.part (l.pointer.child "if") value) (by simp [Location.keywordParts])) _

theorem node? {keyword : Keyword}
    (hd : ∀ part ∈ l.keywordParts members keyword name value, R (descend part) (descend' part))
    (hr : keyword = .reference → R ((l.scope setup descend members).reference value)
      ((l.scope setup descend' members).reference value)) :
    R ((l.scope setup descend members).node? keyword name value)
      ((l.scope setup descend' members).node? keyword name value) := by
  have hone : (∀ part ∈ [l.part (l.pointer.child name) value], R (descend part) (descend' part)) →
      R ((l.scope setup descend members).schema value (l.pointer.child name))
        ((l.scope setup descend' members).schema value (l.pointer.child name)) :=
    fun h => h (l.part (l.pointer.child name) value) (List.mem_singleton_self _)
  cases keyword with
  | passive | unknown | additionalProperties | additionalItems | const | default | extension => exact hR.ofPure _
  | reference => exact hR.andPure (hr rfl) some
  | combination counting =>
    unfold Scope.node?
    dsimp only
    split
    · exact hR.andPure (hR.schemas hd) _
    · exact hR.fail
  | negation | propertyNames => exact hR.andPure (hone hd) _
  | condition => exact hR.andPure (hR.conditional hd) some
  | type => exact hR.andPure hR.types _
  | enum =>
    unfold Scope.node?
    dsimp only
    split
    · exact hR.ofPure _
    · exact hR.fail
  | properties =>
    cases value with
    | obj ms =>
      unfold Scope.node? Scope.entries
      dsimp only
      rw [pure_bind, pure_bind]
      exact hR.andPure (hR.mapM fun m hm => hR.andPure (hd _ (List.mem_map_of_mem hm)) _) _
    | scalar | arr | set => exact hR.throw_bind _
  | patternProperties =>
    cases value with
    | obj ms =>
      unfold Scope.node? Scope.entries
      dsimp only
      rw [pure_bind, pure_bind]
      refine hR.andPure (hR.mapM fun m hm => ?_) _
      exact hR.bind hR.keyRegex fun regex => hR.andPure (hd _ (List.mem_map_of_mem hm)) _
    | scalar | arr | set => exact hR.throw_bind _
  | required => exact hR.andPure hR.texts _
  | items =>
    cases value with
    | arr vs => exact hR.andPure (hR.schemas hd) _
    | scalar | obj | set => exact hR.andPure (hone hd) _
  | uniqueItems =>
    unfold Scope.node?
    dsimp only
    split
    · exact hR.ofPure _
    · exact hR.fail
  | contains =>
    exact hR.bind (hone hd) fun n => hR.bind hR.size? fun minimum => hR.andPure hR.size? _
  | limit relation => exact hR.andPure hR.bound _
  | size sized lower => exact hR.andPure hR.size _
  | pattern =>
    unfold Scope.node?
    dsimp only
    split
    · exact hR.andPure hR.regex _
    · exact hR.fail
  | format => exact hR.format

theorem early {member : Scalar × Value} (hmem : member ∈ members)
    (hd : ∀ part ∈ l.subschemas members, R (descend part) (descend' part))
    (hr : ∀ value, (.str "$ref", value) ∈ members → R ((l.scope setup descend members).reference value)
      ((l.scope setup descend' members).reference value)) :
    R ((l.scope setup descend members).early member) ((l.scope setup descend' members).early member) := by
  obtain ⟨key, value⟩ := member
  cases key with
  | str name =>
    unfold Scope.early
    dsimp only
    split
    · exact hR.ofPure _
    · refine hR.andPure (hR.node? (fun part h => hd part (List.mem_flatMap.2 ⟨_, hmem, h⟩)) fun href => ?_) _
      exact hr value (Keyword.eq_ref_of_ofName href ▸ hmem)
  | null | bool | num | bytes => exact hR.ofThrow _

theorem lateNode {keyword : Keyword} {siblings : List Node}
    (hd : R (descend (l.part (l.pointer.child name) value)) (descend' (l.part (l.pointer.child name) value))) :
    R ((l.scope setup descend members).lateNode keyword name value siblings)
      ((l.scope setup descend' members).lateNode keyword name value siblings) := by
  refine hR.bind hd fun n => ?_
  cases keyword <;> exact hR.ofPure _

theorem children (hd : ∀ part ∈ l.subschemas members, R (descend part) (descend' part))
    (hr : ∀ value, (.str "$ref", value) ∈ members → R ((l.scope setup descend members).reference value)
      ((l.scope setup descend' members).reference value)) :
    R (l.scope setup descend members).children (l.scope setup descend' members).children := by
  unfold Scope.children
  refine hR.bindOf (hR.mapM fun m hm => hR.early hm hd hr) fun firsts ⟨t, hfirsts⟩ => ?_
  have hgiven : List.Forall₂ (fun m child => ∃ s, (((l.scope setup descend' members).early m).run.run s).1 = .ok child)
      members firsts :=
    (Keeps.mapM (I := fun _ => True) (fun m _ => (Keeps.trivial _).witnessed) t trivial).2 firsts hfirsts
  refine hR.andPure (hR.mapM fun child hchild => ?_) _
  cases child with
  | early node => exact hR.ofPure _
  | late keyword name value =>
    obtain ⟨m, hm, s, hs⟩ := exists_left_of_forall₂ hgiven hchild
    exact hR.andPure (hR.lateNode (hd _ (Scope.part_of_early hm hs))) some

/-! ### References -/

/-- What a reference leads to is related to itself if the home of its URI is. -/
theorem target {ref : String} (hhome : ∀ full uri fragment, resolveUri l.base ref = .ok full →
      Uri.splitFragment full = (uri, fragment) →
      R ((l.scope setup descend members).home uri) ((l.scope setup descend' members).home uri)) :
    R ((l.scope setup descend members).target ref path) ((l.scope setup descend' members).target ref path) := by
  unfold Scope.target
  refine hR.bindOf (hR.ofExcept _) fun full ⟨_, hfull⟩ => ?_
  rw [Compiling.run_ofExcept] at hfull
  split
  rename_i uri fragment hsplit
  refine hR.bind (hhome full uri fragment hfull hsplit) fun home => hR.bind (hR.ofExcept _) fun p => ?_
  split
  · exact hR.fail
  · refine hR.bind (hR.ofExcept _) fun value => ?_
    split
    · exact hR.fail
    · exact hR.bind (hR.ofExcept _) fun _ => hR.andPure (hR.ofExcept _) _

/-! ### Objects -/

theorem group (hd : ∀ part ∈ l.subschemas members, R (descend part) (descend' part))
    (hr : ∀ value, (.str "$ref", value) ∈ members → R ((l.scope setup descend members).reference value)
      ((l.scope setup descend' members).reference value))
    (hcheck : ∀ n, R ((l.scope setup descend members).selfCheck n) ((l.scope setup descend' members).selfCheck n)) :
    R (l.scope setup descend members).group (l.scope setup descend' members).group := by
  refine hR.bind hR.title fun title => hR.bind hR.description fun description => ?_
  exact hR.bind (hR.children hd hr) fun children => hR.andPure (hcheck _) _

/-- The compilations of an object are related if those of its parts are, and what becomes of its reference and its
samples. -/
theorem object (hd : l.isReplaced members = false → ∀ inner, l.Inner members inner →
      ∀ part ∈ inner.subschemas members, R (descend part) (descend' part))
    (hr : ∀ inner, l.Inner members inner → ∀ value, (.str "$ref", value) ∈ members →
      R ((inner.scope setup descend members).reference value) ((inner.scope setup descend' members).reference value))
    (hcheck : ∀ inner n, l.Inner members inner →
      R ((inner.scope setup descend members).selfCheck n) ((inner.scope setup descend' members).selfCheck n)) :
    R (l.scope setup descend members).object (l.scope setup descend' members).object := by
  have hmain : R (Scope.objectAt setup descend l members) (Scope.objectAt setup descend' l members) := by
    unfold Scope.objectAt
    split
    · rename_i ref hdialect href
      have hreplaced : l.isReplaced members = true := by simp [Location.isReplaced, hasKey, hdialect, href]
      exact hR.andPure (hr l (by rw [Location.Inner, if_pos hreplaced]) ref (mem_of_lookupKey href)) _
    · rename_i hne
      have hreplaced : l.isReplaced members = false := Location.isReplaced_eq_false hne
      rw [Scope.enter_eq, Scope.enter_eq, bind_assoc, bind_assoc]
      have hbase : R (l.scope setup descend members).ownBase (l.scope setup descend' members).ownBase := hR.ownBase
      -- Both enter the object under one base, which is known only as far as it comes out of a run.
      refine hR.bindOf hbase fun base hruns => ?_
      obtain ⟨s, hs⟩ := hruns
      rw [pure_bind, pure_bind]
      have hinner : l.Inner members { l with base } := by
        rw [Location.Inner, if_neg (by simp [hreplaced])]
        exact ⟨base, Scope.inside_of_ownBase hs, rfl⟩
      exact hR.group (l := { l with base }) (hd hreplaced _ hinner) (hr _ hinner) fun n => hcheck _ n hinner
  unfold Scope.object
  exact Congruence.ite (hR.bind hR.fail fun _ => hmain) hmain

end Keywords

end Congruence

end Conform
