import Conform.Proofs.Compile.Neighbours
import Conform.Proofs.Schema.Reading
import Conform.Proofs.Schema.Tree

/-!
# What compiled objects answer

The node of a keyword answers as the keyword reads (`answers_keyword`, `answers_neighbourNode`), if the nodes of the
schemas inside it do; hence so do the nodes of all keywords of an object together (`answers_children`).
-/

namespace Conform

open Direct

/-! ### Values of keywords -/

private theorem filterMap_text? (texts : List String) : (texts.map Value.str).filterMap Value.text? = texts := by
  induction texts with
  | nil => rfl
  | cons text texts ih =>
    rw [List.map_cons, List.filterMap_cons, ih]
    rfl

private theorem eq_str_of_typeName? {v : Value} {name : String} (h : v.typeName? = some name) : v = .str name := by
  unfold Value.typeName? at h
  split at h
  · split at h
    · cases h
      rfl
    · cases h
  · cases h

theorem texts_of_texts? {item : Value} {names : List String} (h : item.texts? = some names) : texts item = names := by
  rw [Value.eq_arr_of_texts? h]
  exact filterMap_text? names

theorem texts_of_types? {item : Value} {names : List String} (h : item.types? = some names) : texts item = names := by
  unfold Value.types? at h
  split at h
  · cases h
  · rename_i vs _
    rw [Value.eq_map_str_of_mapM (fun v name => eq_str_of_typeName?) h]
    exact filterMap_text? names
  · obtain ⟨name, hname, rfl⟩ := Option.map_eq_some_iff.1 h
    cases eq_str_of_typeName? hname
    rfl

theorem eq_num_of_size? {item : Value} {k : Int} (h : item.size? = some k) : ∃ n, item = .num n ∧ k = n.truncate := by
  unfold Value.size? at h
  split at h
  · split at h
    · cases h
      exact ⟨_, rfl, rfl⟩
    · cases h
  · cases h

theorem eq_num_of_bound? {item : Value} {relation : Relation} {b : Number} (hitem : item.isJson = true)
    (h : item.bound? relation = some b) : item = .num b := by
  unfold Value.bound? at h
  split at h
  · split at h
    · cases h
      rw [(exact_of_isJson hitem).1]
    · cases h
  · cases h

/-- A name that stands for no keyword of its own is read as saying nothing. -/
theorem keyword_eq_true {characters : CharacterNames} {read : Value → Value → Bool} {ms : List (Scalar × Value)}
    {refer : String → Value → Bool} {name : String} {item v : Value} (hname : Keyword.ofName name ∈ [.passive, .extension, .unknown]) :
    Direct.keyword characters read ms refer name item v = true := by
  unfold Direct.keyword Direct.constraint
  split
  case h_13 =>
    split
    case h_18 => rfl
    all_goals exact absurd hname (by decide)
  all_goals exact absurd hname (by decide)

section Keywords

variable {setup : Setup} {means : Location → Node → Prop} {leads : Location → String → Location → Option String → Prop}
  {l : Location} {ms : List (Scalar × Value)} {read : Value → Value → Bool} {refer : String → Value → Bool}

private theorem faithful_parts {path : Pointer} {vs : List Value} {ns : List Node} (h : PartsOf means l path vs ns)
    (hread : ∀ s c, means s c → c ∈ ns → Faithful read s.value c) : List.Forall₂ (Faithful read) vs ns := by
  refine (forall₂_mem (forall₂_of_zipIdx h)).imp fun v n hn => ?_
  obtain ⟨-, hn, i, hm⟩ := hn
  exact hread _ n hm hn

private theorem answers_branchOf {name : String} {n : Option Node} {v : Value} (h : BranchOf means l ms name n)
    (hread : ∀ s c, means s c → c ∈ n.toList → Faithful read s.value c) (hv : v.isJson = true) :
    Answers (Node.acceptsBranch n v) (branch read ms name v) := by
  refine answers_branch hv ?_
  cases n with
  | none => exact h
  | some n =>
    obtain ⟨s, hs, hn⟩ := h
    exact ⟨s, hs, hread _ n hn (by simp)⟩

/-- The node of a keyword answers as the keyword reads. -/
theorem answers_keyword {keyword : Keyword} {name : String} {item v : Value} {n : Node}
    (hname : Keyword.ofName name = keyword) (h : KeywordOf setup means leads l ms keyword name item (some n))
    (hitem : item.isJson = true) (hv : v.isJson = true) (hformat : ∀ name, setup.format name = none)
    (hextension : ∀ name base path value, setup.keyword name base path value = none)
    (hcontains : keyword ≠ .contains) (hmultiple : keyword ≠ .limit .multipleOf)
    (hread : ∀ s c, means s c → c ∈ n.subnodes → Faithful read s.value c)
    (hrefer : ∀ ref t fragment, leads l ref t fragment → refer ref = read t.value) :
    Answers (n.accepts v) (Direct.keyword setup.world.characters read ms refer name item v) := by
  have hown := Keyword.eq_name_of_ofName hname
  cases h.node with
  | contains => exact absurd rfl hcontains
  | reference hleads hm =>
    cases hown rfl
    rename_i ref t fragment m
    have hr : Direct.keyword setup.world.characters read ms refer "$ref" (.str ref) v = refer ref v := rfl
    rw [show Keyword.reference.name = "$ref" from rfl, hr, hrefer ref t fragment hleads]
    exact hread t m hm (by simp [Node.subnodes]) v hv
  | @combination counting _ _ _ hns =>
    cases hown rfl
    have hparts := faithful_parts hns hread
    cases counting with
    | all => exact answers_allOf hparts hv
    | any => exact answers_anyOf hparts hv
    | one => exact answers_oneOf hparts hv
  | negation hm =>
    cases hown rfl
    exact answers_not (hread _ _ hm (by simp [Node.subnodes])) hv
  | condition ht he hc =>
    cases hown rfl
    exact answers_if hv (hread _ _ hc (by simp [Node.subnodes]))
      (answers_branchOf ht (fun s c hs hc => hread s c hs (by simp [Node.subnodes, hc])) hv)
      (answers_branchOf he (fun s c hs hc => hread s c hs (by simp [Node.subnodes, hc])) hv)
  | type hnames =>
    cases hown rfl
    exact answers_type (texts_of_types? hnames)
  | enum =>
    cases hown rfl
    exact answers_enum
  | const =>
    cases hown rfl
    exact answers_const
  | properties hes =>
    cases hown rfl
    refine answers_properties ((forall₂_mem hes).imp fun m e he => ?_) hitem hv
    exact ⟨he.2.2.1, hread _ e.2 he.2.2.2 (List.mem_map_of_mem he.2.1)⟩
  | patternProperties hes =>
    cases hown rfl
    refine answers_patternProperties ((forall₂_mem hes).imp fun m e he => ?_) hv
    exact ⟨he.2.2.1, hread _ e.2 he.2.2.2 (List.mem_map_of_mem he.2.1)⟩
  | propertyNames hm =>
    cases hown rfl
    exact answers_propertyNames (hread _ _ hm (by simp [Node.subnodes])) hv
  | required hnames =>
    cases hown rfl
    exact answers_required (texts_of_texts? hnames)
  | itemsTuple hns =>
    cases hown rfl
    exact answers_itemsTuple (faithful_parts hns hread) hv
  | items harray hm =>
    cases hown rfl
    exact answers_items harray (hread _ _ hm (by simp [Node.subnodes])) hv
  | uniqueItems =>
    cases hown rfl
    exact answers_uniqueItems
  | @limit relation _ _ hb =>
    cases hown rfl
    cases eq_num_of_bound? hitem hb
    cases relation with
    | multipleOf => exact absurd rfl hmultiple
    | atMost | below | atLeast | above => exact answers_limit (by simp) hv
  | @size sized lower _ _ hk =>
    cases hown rfl
    obtain ⟨m, rfl, rfl⟩ := eq_num_of_size? hk
    cases sized <;> cases lower <;> exact answers_size
  | pattern hregex =>
    cases hown rfl
    exact answers_pattern hregex
  | givenTest hgiven | givenFormat hgiven =>
    rw [hformat] at hgiven
    cases hgiven
  | format hf =>
    cases hown rfl
    exact answers_format hf
  | default =>
    cases hown rfl
    exact answers_ok true
  | givenKeyword hgiven =>
    rw [hextension] at hgiven
    cases hgiven
  | extension =>
    rw [keyword_eq_true (by simp [hname])]
    exact answers_ok true

/-- A keyword without a node reads as saying nothing. -/
private theorem keyword_of_none {name : String} {item v : Value}
    (h : KeywordOf setup means leads l ms (.ofName name) name item none) (hlate : (Keyword.ofName name).isLate = false)
    (hformat : ∀ name, setup.format name = none) :
    Direct.keyword setup.world.characters read ms refer name item v = true := by
  generalize hname : Keyword.ofName name = keyword at h hlate
  have hown := Keyword.eq_name_of_ofName hname
  cases keyword with
  | passive | unknown => exact keyword_eq_true (by simp [hname])
  | additionalProperties | additionalItems => cases hlate
  | uniqueItems =>
    cases hown rfl
    obtain ⟨b, rfl, h⟩ := h
    cases b with
    | true => cases h
    | false => rfl
  | format =>
    cases hown rfl
    obtain ⟨format, rfl, h⟩ := h
    unfold formatNode? at h
    rw [hformat] at h
    have hf := Option.map_eq_none_iff.1 h.symm
    have hr : Direct.keyword setup.world.characters read ms refer "format" (.str format) v =
        isFormatted setup.world.characters format v := rfl
    rw [show Keyword.format.name = "format" from rfl, hr, isFormatted, hf]
  | _ => simp [KeywordOf, ReferenceOf] at h

private theorem isNamed_eq {firsts : List Scope.Child} (hms : membersJson ms = true)
    (h : List.Forall₂ (EarlyOf setup means leads l ms) ms firsts) (key : Scalar) :
    isNamed ms key = (Scope.knownNames (firsts.filterMap Scope.Child.node?)).any (·.sameKey key) := by
  rw [knownNames_siblings hms h, isNamed]
  cases lookupKey (.str "properties") ms with
  | none => rfl
  | some item =>
    simp only [Option.any_some, hasKey, isSome_lookupKey, List.any_map]
    rfl

private theorem beyond_eq {firsts : List Scope.Child} (hms : membersJson ms = true)
    (h : List.Forall₂ (EarlyOf setup means leads l ms) ms firsts) (vs : List Value) :
    beyond ms vs = itemsBeyond ((Scope.tupleSize? (firsts.filterMap Scope.Child.node?)).getD 0)
      (Scope.tupleSize? (firsts.filterMap Scope.Child.node?)).isSome vs := by
  rw [tupleSize?_siblings hms h, beyond]
  cases lookupKey (.str "items") ms with
  | none => rfl
  | some item => cases item <;> rfl

/-- The node of a keyword that depends on its neighbours answers as the keyword reads. -/
theorem answers_neighbourNode {name : String} {item v : Value} {n : Node} {site : Site} {firsts : List Scope.Child}
    (hms : membersJson ms = true) (hfirsts : List.Forall₂ (EarlyOf setup means leads l ms) ms firsts)
    (hlate : (Keyword.ofName name).isLate = true) (hread : Faithful read item n) (hv : v.isJson = true) :
    Answers ((neighbourNode site (.ofName name) (firsts.filterMap Scope.Child.node?) n).accepts v)
      (Direct.keyword setup.world.characters read ms refer name item v) := by
  generalize hname : Keyword.ofName name = keyword at hlate ⊢
  have hown := Keyword.eq_name_of_ofName hname
  cases keyword with
  | additionalProperties =>
    cases hown rfl
    refine answers_additionalProperties (isNamed_eq hms hfirsts) (fun key => ?_) (knownPatterns_siblings hms hfirsts)
      hread hv
    rw [isMatched]
    cases lookupKey (.str "patternProperties") ms with
    | none => rfl
    | some item =>
      simp only [Option.any_some, List.any_map]
      rfl
  | additionalItems =>
    cases hown rfl
    exact answers_additionalItems (beyond_eq hms hfirsts) hread hv
  | _ => cases hlate

private theorem answers_filterMap {α : Type} {r : α → Bool} {v : Value} {as : List α} {results : List (Option Node)}
    (h : List.Forall₂ (fun a result => Answers (Node.acceptsBranch result v) (r a)) as results) :
    Answers (allOk (·.accepts v) (results.filterMap id)) (as.all r) := by
  intro b hb
  induction h with
  | nil =>
    cases hb
    rfl
  | @cons a result as results hr h ih =>
    rw [List.all_cons]
    cases result with
    | none =>
      rw [hr true rfl]
      exact ih hb
    | some n =>
      obtain ⟨here, hhere, hb⟩ := bind_eq_ok.1 hb
      rw [hr here hhere]
      cases here with
      | true => exact ih hb
      | false =>
        cases hb
        rfl

/-- The children of an object answer together as its members read. -/
theorem answers_children {children : List Node} {v : Value} (h : ChildrenOf setup means leads l ms children)
    (hms : membersJson ms = true) (hv : v.isJson = true) (hformat : ∀ name, setup.format name = none)
    (hextension : ∀ name base path value, setup.keyword name base path value = none)
    (hplain : ∀ name ∈ ["contains", "multipleOf"], lookupKey (.str name) ms = none)
    (hread : ∀ n ∈ children, ∀ s, ∀ c ∈ n.subnodes, means s c → Faithful read s.value c)
    (hrefer : ∀ ref t fragment, leads l ref t fragment → refer ref = read t.value) :
    Answers (Node.acceptsAll children v) (membersRead setup.world.characters read ms refer v) := by
  obtain ⟨firsts, results, hfirsts, hresults, rfl⟩ := h
  rw [Node.acceptsAll_eq]
  refine answers_filterMap ?_
  refine (forall₂_mem (forall₂_comp hfirsts hresults)).imp fun m result h => ?_
  obtain ⟨hm, hresult, c, ⟨name, hkey, hearly⟩, hlateOf⟩ := h
  obtain ⟨key, item⟩ := m
  cases hkey
  have hitem := (isJson_of_mem hms hm).2
  dsimp only
  have hread : ∀ n, result = some n → ∀ s, ∀ c ∈ n.subnodes, means s c → Faithful read s.value c :=
    fun n hn => hread n (List.mem_filterMap.2 ⟨result, hresult, hn⟩)
  have hne : ∀ other ∈ ["contains", "multipleOf"], name ≠ other := by
    rintro other hother rfl
    exact absurd (lookupKey_of_mem hms hm) (by simp [hplain name hother])
  -- A late keyword reads as its neighbours have told it; any other has a node of its own, or none and says nothing.
  split at hearly
  · rename_i hlate
    subst hearly
    obtain ⟨n, hn, rfl⟩ := hlateOf
    refine answers_neighbourNode hms hfirsts hlate (hread _ rfl _ n ?_ hn) hv
    unfold neighbourNode
    split <;> simp [Node.subnodes]
  · rename_i hlate
    obtain ⟨early, hearly, rfl⟩ := hearly
    cases hlateOf
    cases result with
    | none =>
      rw [keyword_of_none hearly (by simpa using hlate) hformat]
      exact answers_ok true
    | some n =>
      refine answers_keyword rfl hearly hitem hv hformat hextension (fun h => ?_) (fun h => ?_)
        (fun s c hc hmem => hread n rfl s c hmem hc) hrefer
      · exact hne "contains" (by simp) (Keyword.eq_name_of_ofName h rfl)
      · exact hne "multipleOf" (by simp) (Keyword.eq_name_of_ofName h rfl)

end Keywords

end Conform
