import Conform.Proofs.Compile.Checks

/-!
# Building a location

On every course that the descents take, what `build` yields is `Built` (`Scope.runs_object`).  Where a check refuses an
object, nothing at all can be built for it, whatever other locations mean.
-/

namespace Conform

theorem BaseInside.unique {base inner inner' : Option String} {members : List (Scalar × Value)}
    (h : BaseInside base members inner) (h' : BaseInside base members inner') : inner = inner' :=
  Except.ok.inj (h.1.symm.trans h'.1)

theorem Location.Inner.unique {l inner inner' : Location} {members : List (Scalar × Value)}
    (h : l.Inner members inner) (h' : l.Inner members inner') : inner = inner' := by
  unfold Location.Inner at h h'
  split at h
  · rw [if_pos ‹_›] at h'
    rw [h, h']
  · rw [if_neg ‹_›] at h'
    obtain ⟨base, hbase, rfl⟩ := h
    obtain ⟨base', hbase', rfl⟩ := h'
    rw [hbase.unique hbase']

/-- An object is replaced only by a reference, and in draft 07. -/
theorem Location.isReplaced_eq_false {l : Location} {members : List (Scalar × Value)}
    (h : ∀ ref, l.dialect = some .draft07 → lookupKey (.str "$ref") members = some ref → False) :
    l.isReplaced members = false := by
  cases hl : l.dialect with
  | none => simp [isReplaced, hl]
  | some dialect =>
    cases hk : lookupKey (.str "$ref") members with
    | none => simp [isReplaced, hasKey, hk]
    | some ref =>
      cases dialect with
      | draft07 => exact (h ref hl hk).elim
      | draft201909 => simp [isReplaced, hl]

/-- The node of an object holds that of its reference. -/
theorem GroupOf.reference {setup : Setup} {means : Location → Node → Prop}
    {leads : Location → String → Location → Option String → Prop} {l : Location} {members : List (Scalar × Value)}
    {value : Value} {n : Node} (h : GroupOf setup means leads l members n) (hmem : (.str "$ref", value) ∈ members) :
    ∃ r, ReferenceOf means leads l value r := by
  obtain ⟨_, _, _, -, -, ⟨firsts, _, hfirsts, -⟩, -⟩ := h
  obtain ⟨child, -, name, hname, hchild⟩ := exists_right_of_forall₂ hfirsts hmem
  cases hname
  rw [if_neg (by decide)] at hchild
  obtain ⟨result, ⟨r, hr, -⟩, -⟩ := hchild
  exact ⟨r, hr⟩

namespace Scope

variable {C : Course Failure Session} {P : Session → Prop} {setup : Setup}
  {means : Session → Location → Node → Prop} {leads : Session → Location → String → Location → Option String → Prop}
  {descend : Location → Compiling Node} {l : Location} {members : List (Scalar × Value)}

/-! ### Keywords -/

theorem runs_schemas {path : Pointer} {vs : List Value}
    (hd : ∀ part ∈ l.parts path vs, Runs C P (descend part) fun n s => means s part n) :
    Runs C P ((l.scope setup descend members).schemas vs path) fun ns s => PartsOf (means s) l path vs ns := by
  exact Runs.mapM fun _ h => hd _ (Location.part_mem_parts h)

theorem runs_branch {name : String}
    (hd : ∀ part ∈ l.branch members name, Runs C P (descend part) fun n s => means s part n) :
    Runs C P (do
      match lookupKey (.str name) members with
      | some v => return some (← (l.scope setup descend members).schema v (l.pointer.child name))
      | none => return none) fun branch s => BranchOf (means s) l members name branch := by
  split
  · rename_i v h
    refine (hd (l.part (l.pointer.child name) v) (by simp [Location.branch, h])).seq fun n => ?_
    exact .pure fun _ _ hn => ⟨v, h, hn⟩
  · rename_i h
    exact .pure fun _ _ => h

theorem runs_conditional {name : String} {value : Value}
    (hd : ∀ part ∈ l.keywordParts members .condition name value, Runs C P (descend part) fun n s => means s part n) :
    Runs C P ((l.scope setup descend members).conditional value) fun n s => ∃ t e c,
      BranchOf (means s) l members "then" t ∧ BranchOf (means s) l members "else" e ∧
        means s (l.part (l.pointer.child "if") value) c ∧ n = .conditional (l.site l.pointer) c t e := by
  refine (runs_branch fun part (h : part ∈ l.branch members "then") =>
    hd part (by simp [Location.keywordParts, h])).seq fun t => ?_
  refine (runs_branch fun part (h : part ∈ l.branch members "else") =>
    hd part (by simp [Location.keywordParts, h])).seq fun e => ?_
  refine (hd (l.part (l.pointer.child "if") value) (by simp [Location.keywordParts])).seq fun c => ?_
  exact .pure fun _ _ hc he ht => ⟨t, e, c, ht, he, hc, rfl⟩

theorem runs_format {name : String} {value : Value} {path : Pointer} (hpath : l.Holds members path value)
    (h : C.Refuses P (Tells setup l members) fun _ => ∃ format, value = .str format) :
    Runs C P ((l.scope setup descend members).format name value path) fun result _ =>
      ∃ format, value = .str format ∧ result = formatNode? setup (l.site path) format := by
  unfold format
  split
  · rename_i text
    split
    · rename_i checker check hformat
      have hformat : setup.format text = some (.test checker check) := hformat
      exact .pure fun _ _ => ⟨text, rfl, by rw [formatNode?, hformat]; rfl⟩
    · rename_i checker constraints hformat
      have hformat : setup.format text = some (.delegating checker constraints) := hformat
      exact .pure fun _ _ => ⟨text, rfl, by rw [formatNode?, hformat]; rfl⟩
    · rename_i hformat
      have hformat : setup.format text = none := hformat
      exact .pure fun _ _ => ⟨text, rfl, by rw [formatNode?, hformat]; rfl⟩
  · rename_i hne
    exact runs_fail hpath h fun _ ⟨format, hformat⟩ => hne format hformat

/-- The object of entries under a keyword. -/
theorem runs_entries {name : String} {value : Value} {path : Pointer} (hpath : l.Holds members path value)
    (h : C.Refuses P (Tells setup l members) fun _ => ∃ ms, value = .obj ms) :
    Runs C P ((l.scope setup descend members).entries name value path) fun ms _ => value = .obj ms := by
  unfold entries
  split
  · exact .pure fun _ _ => rfl
  · rename_i hne
    exact runs_fail hpath h fun _ ⟨ms, hms⟩ => hne ms hms

/-- A keyword that does not depend on its neighbours yields the node that it stands for. -/
theorem runs_node? {keyword : Keyword} {name : String} {value : Value} (hname : Keyword.ofName name = keyword)
    (hmem : (.str name, value) ∈ members)
    (h : C.Refuses P (Tells setup l members) fun _ =>
      ∃ result, KeywordOf setup anything anywhere l members keyword name value result)
    (hd : ∀ part ∈ l.keywordParts members keyword name value, Runs C P (descend part) fun n s => means s part n)
    (hr : keyword = .reference → Runs C P ((l.scope setup descend members).reference value) fun n s =>
      ReferenceOf (means s) (leads s) l value n) :
    Runs C P ((l.scope setup descend members).node? keyword name value) fun result s =>
      KeywordOf setup (means s) (leads s) l members keyword name value result := by
  have hone : (∀ part ∈ [l.part (l.pointer.child name) value], Runs C P (descend part) fun n s => means s part n) →
      Runs C P ((l.scope setup descend members).schema value (l.pointer.child name)) fun n s =>
        means s (l.part (l.pointer.child name) value) n := fun h => h (l.part (l.pointer.child name) value) (by simp)
  have hpath : l.Holds members (l.pointer.child name) value := Location.holds_of_mem hmem
  cases keyword with
  | passive | unknown | additionalProperties | additionalItems => exact .pure fun _ _ => rfl
  | reference => exact (hr rfl).seq fun n => .pure fun _ _ hn => ⟨n, hn, rfl⟩
  | combination counting =>
    unfold node?
    dsimp only
    split
    · exact (runs_schemas hd).seq fun ns => .pure fun _ _ hns => ⟨_, ns, rfl, by simp, hns, rfl⟩
    · rename_i hne
      refine runs_fail hpath h fun s ⟨result, vs, ns, hvs, hcons, _⟩ => ?_
      cases vs with
      | nil => exact hcons rfl
      | cons v vs => exact hne v vs hvs
  | negation => exact (hone hd).seq fun n => .pure fun _ _ hn => ⟨n, hn, rfl⟩
  | condition =>
    refine (runs_conditional hd).seq fun n => .pure fun _ _ hn => ?_
    obtain ⟨t, e, c, ht, he, hc, rfl⟩ := hn
    exact ⟨t, e, c, ht, he, hc, rfl⟩
  | type =>
    refine (runs_types hpath (h.part fun s ⟨result, names, hnames, _⟩ => ⟨names, hnames⟩)).seq fun names => ?_
    exact .pure fun _ _ hnames => ⟨names, hnames, rfl⟩
  | enum =>
    unfold node?
    dsimp only
    split
    · exact .pure fun _ _ => ⟨_, rfl, rfl⟩
    · rename_i hne
      exact runs_fail hpath h fun s ⟨result, vs, hvs, _⟩ => hne vs hvs
  | const => exact .pure fun _ _ => rfl
  | properties =>
    refine (runs_entries hpath (h.part fun s ⟨result, ms, es, hms, _⟩ => ⟨ms, hms⟩)).bindStatic fun ms hms => ?_
    subst hms
    refine (Runs.mapM fun m hm => ?_).seq fun es => .pure fun _ _ hes => ⟨ms, es, rfl, hes, rfl⟩
    exact (hd _ (List.mem_map_of_mem hm)).seq fun n => .pure fun _ _ hn => ⟨rfl, hn⟩
  | patternProperties =>
    refine (runs_entries hpath (h.part fun s ⟨result, ms, es, hms, _⟩ => ⟨ms, hms⟩)).bindStatic fun ms hms => ?_
    subst hms
    have hpatterns : name = "patternProperties" := Keyword.eq_name_of_ofName hname rfl
    refine (Runs.mapM fun m hm => ?_).seq fun es => .pure fun _ _ hes => ⟨ms, es, rfl, hes, rfl⟩
    refine (runs_keyRegex (hpath.entry hm) (hpatterns ▸ hmem) hm
      (h.part fun s ⟨result, ms', es, hms', hes, _⟩ => ?_)).seq fun regex => ?_
    · cases hms'
      obtain ⟨e, -, ⟨text, htext, hregex⟩, -⟩ := exists_right_of_forall₂ hes hm
      exact ⟨e.1, text, htext, hregex⟩
    · exact (hd _ (List.mem_map_of_mem hm)).seq fun n => .pure fun _ _ hn hregex => ⟨hregex, hn⟩
  | propertyNames => exact (hone hd).seq fun n => .pure fun _ _ hn => ⟨n, hn, rfl⟩
  | required =>
    refine (runs_texts hpath (h.part fun s ⟨result, names, hnames, _⟩ => ⟨names, hnames⟩)).seq fun names => ?_
    exact .pure fun _ _ hnames => ⟨names, hnames, rfl⟩
  | items =>
    cases value with
    | arr vs => exact (runs_schemas hd).seq fun ns => .pure fun _ _ hns => .inl ⟨vs, ns, rfl, hns, rfl⟩
    | scalar | obj | set => exact (hone hd).seq fun n => .pure fun _ _ hn => .inr ⟨rfl, n, hn, rfl⟩
  | uniqueItems =>
    unfold node?
    dsimp only
    split
    · exact .pure fun _ _ => ⟨_, rfl, rfl⟩
    · rename_i hne
      exact runs_fail hpath h fun s ⟨result, b, hb, _⟩ => hne b hb
  | contains =>
    refine (hone hd).seq fun n => ?_
    refine (runs_size? (h.part fun s ⟨result, n, minimum, maximum, _, hmin, _⟩ => ⟨minimum, hmin⟩)).seq
      fun minimum => ?_
    refine (runs_size? (h.part fun s ⟨result, n, minimum, maximum, _, _, hmax, _⟩ => ⟨maximum, hmax⟩)).seq
      fun maximum => ?_
    exact .pure fun _ _ hmax hmin hn => ⟨n, minimum, maximum, hn, hmin, hmax, rfl⟩
  | limit relation =>
    refine (runs_bound hpath (h.part fun s ⟨result, b, hb, _⟩ => ⟨b, hb⟩)).seq fun b => ?_
    exact .pure fun _ _ hb => ⟨b, hb, rfl⟩
  | size sized lower =>
    refine (runs_size hpath (h.part fun s ⟨result, k, hk, _⟩ => ⟨k, hk⟩)).seq fun k => ?_
    exact .pure fun _ _ hk => ⟨k, hk, rfl⟩
  | pattern =>
    have hpattern : name = "pattern" := Keyword.eq_name_of_ofName hname rfl
    unfold node?
    dsimp only
    split
    · rename_i text
      refine (runs_regex hpath (.inl (hpattern ▸ hmem)) (h.part fun s ⟨result, text', regex, htext, hregex, _⟩ => ?_)).seq
        fun regex => .pure fun _ _ hregex => ⟨text, regex, rfl, hregex, rfl⟩
      cases htext
      exact ⟨regex, hregex⟩
    · rename_i hne
      exact runs_fail hpath h fun s ⟨result, text, regex, htext, _⟩ => hne text htext
  | format =>
    exact (runs_format hpath (h.part fun s ⟨result, format, hformat, _⟩ => ⟨format, hformat⟩)).weaken (fun _ h => h)
      fun _ _ _ h => h
  | default => exact .pure fun _ _ => rfl
  | extension => exact .pure fun _ _ => rfl

/-! ### Children -/

theorem runs_early {member : Scalar × Value} (hmem : member ∈ members)
    (h : C.Refuses P (Tells setup l members) fun _ => ∃ child, EarlyOf setup anything anywhere l members member child)
    (hd : ∀ part ∈ l.subschemas members, Runs C P (descend part) fun n s => means s part n)
    (hr : ∀ value, (.str "$ref", value) ∈ members →
      Runs C P ((l.scope setup descend members).reference value) fun n s => ReferenceOf (means s) (leads s) l value n) :
    Runs C P ((l.scope setup descend members).early member) fun child s =>
      EarlyOf setup (means s) (leads s) l members member child := by
  obtain ⟨key, value⟩ := member
  cases key with
  | str name =>
    have hparts : ∀ part ∈ l.keywordParts members (.ofName name) name value,
        Runs C P (descend part) fun n s => means s part n :=
      fun part h => hd part (List.mem_flatMap.2 ⟨_, hmem, h⟩)
    unfold early
    dsimp only
    split
    · rename_i hlate
      exact .pure fun _ _ => ⟨name, rfl, by rw [if_pos hlate]⟩
    · rename_i hlate
      -- Only a member with the name of a reference needs what is told of references.
      have hreference := fun href => hr value (Keyword.eq_ref_of_ofName href ▸ hmem)
      refine (runs_node? rfl hmem (h.part fun s ⟨child, name', hname', hchild⟩ => ?_) hparts hreference).seq
        fun result => .pure fun _ _ hresult => ⟨name, rfl, by rw [if_neg hlate]; exact ⟨result, hresult, rfl⟩⟩
      cases hname'
      rw [if_neg hlate] at hchild
      obtain ⟨result, hresult, -⟩ := hchild
      exact ⟨result, hresult⟩
  | null | bool | num | bytes =>
    refine .refuse h (fun s ⟨child, name, hname, _⟩ => by cases hname) fun _ => .keyword hmem (by simp)

theorem runs_lateNode {keyword : Keyword} {name : String} {value : Value} {siblings : List Node}
    (hd : Runs C P (descend (l.part (l.pointer.child name) value)) fun n s =>
      means s (l.part (l.pointer.child name) value) n) :
    Runs C P ((l.scope setup descend members).lateNode keyword name value siblings) fun n s =>
      ∃ m, means s (l.part (l.pointer.child name) value) m ∧
        n = neighbourNode (l.site (l.pointer.child name)) keyword siblings m := by
  unfold lateNode neighbourNode
  refine Runs.seq hd fun m => ?_
  cases keyword <;> exact .pure fun _ _ hm => ⟨m, hm, rfl⟩

theorem part_of_late {means : Location → Node → Prop} {leads : Location → String → Location → Option String → Prop}
    {firsts : List Child} (h : List.Forall₂ (EarlyOf setup means leads l members) members firsts) {keyword : Keyword}
    {name : String} {value : Value} (hc : .late keyword name value ∈ firsts) :
    l.part (l.pointer.child name) value ∈ l.subschemas members := by
  obtain ⟨⟨key, v⟩, hm, name', hkey, hearly⟩ := exists_left_of_forall₂ h hc
  cases hkey
  split at hearly
  · rename_i hlate
    cases hearly
    exact Location.part_of_isLate hm hlate
  · obtain ⟨result, -, hearly⟩ := hearly
    cases hearly

theorem runs_children
    (h : C.Refuses P (Tells setup l members) fun _ => ∃ children, ChildrenOf setup anything anywhere l members children)
    (hd : ∀ part ∈ l.subschemas members, Runs C P (descend part) fun n s => means s part n)
    (hr : ∀ value, (.str "$ref", value) ∈ members →
      Runs C P ((l.scope setup descend members).reference value) fun n s => ReferenceOf (means s) (leads s) l value n) :
    Runs C P (l.scope setup descend members).children fun children s =>
      ChildrenOf setup (means s) (leads s) l members children := by
  unfold children
  refine (Runs.mapM fun m hm => runs_early hm (h.part fun s ⟨children, firsts, _, hfirsts, _⟩ => ?_) hd hr).bind
    fun firsts => .intro fun s₀ hfirsts => ?_
  · obtain ⟨child, -, hchild⟩ := exists_right_of_forall₂ hfirsts hm
    exact ⟨child, hchild⟩
  refine (Runs.mapM (S := fun child result s => LateOf (means s) l (firsts.filterMap Child.node?) child result)
    fun c hc => ?_).seq fun results => .pure fun _ hP hresults => ⟨firsts, results, hP.2, hresults, rfl⟩
  cases c with
  | early node => exact .pure fun _ _ => rfl
  | late keyword name value =>
    have hpart := hd _ (part_of_late hfirsts.2 hc)
    refine (runs_lateNode (hpart.strengthen fun _ h => h.1)).seq fun n => .pure fun _ _ hn => ?_
    obtain ⟨m, hm, rfl⟩ := hn
    exact ⟨m, hm, rfl⟩

/-! ### Objects -/

theorem runs_title (h : C.Refuses P (Tells setup l members) fun _ => ∃ title, TitleOf members title) :
    Runs C P (l.scope setup descend members).title fun title _ => TitleOf members title := by
  unfold title
  split
  · rename_i htitle
    exact .pure fun _ _ => .inl htitle
  · rename_i htitle
    exact .pure fun _ _ => .inr htitle
  · rename_i htitle
    exact .pure fun _ _ => htitle
  · rename_i v hnull hstr htitle
    have htitle : lookupKey (.str "title") members = some v := htitle
    refine runs_fail (Location.holds_of_lookupKey htitle) h fun _ ⟨title, h⟩ => ?_
    cases title with
    | none =>
      rcases h with h | h
      · rw [htitle] at h
        cases h
      · rw [htitle] at h
        cases h
        exact hnull rfl
    | some title =>
      rw [TitleOf, htitle] at h
      cases h
      exact hstr title rfl

/-- The description of an object and the permission to look for it elsewhere. -/
def CanDescribe (setup : Setup) (l : Location) (members : List (Scalar × Value)) : Prop :=
  (∃ description, DescriptionOf setup l members description) ∧ DescriptionAllowed setup members

private theorem eq_of_describes {ref : String} {description : Option String} (href : Describes members ref)
    (h : DescriptionOf setup l members description) : ∃ uri text, resolveUri l.base ref = .ok uri ∧
      TextUnder setup.world uri text := by
  cases description with
  | none =>
    rcases h with h | h
    · rw [href] at h
      cases h
    · rw [href] at h
      cases h
  | some d =>
    rcases h with h | ⟨ref', uri, text, href', huri, htext, -⟩
    · rw [href] at h
      cases h
    · rw [href] at href'
      cases href'
      exact ⟨uri, text, huri, htext⟩

theorem runs_referredDescription {ref : String} (hquiet : ∀ s loader, C.inv s → loader.cache = s.loader.cache →
      C.inv { s with loader } ∧ C.later s { s with loader }) (href : Describes members ref)
    (h : C.Refuses P (Tells setup l members) fun _ => CanDescribe setup l members) :
    Runs C P ((l.scope setup descend members).referredDescription ref) fun d _ => ∃ uri text,
      resolveUri l.base ref = .ok uri ∧ TextUnder setup.world uri text ∧ d = String.ofList (Text.trim text.toList) := by
  unfold referredDescription
  refine (Compiling.runs_ofExcept (Q := fun uri _ => resolveUri l.base ref = .ok uri) (fun _ h _ _ => h)
    fun e he s hs hP => ?_).bindStatic fun uri huri => ?_
  · refine h s e hs hP.self (fun ⟨⟨d, hd⟩, _⟩ => ?_) (.describing href he)
    obtain ⟨uri, text, huri, -⟩ := eq_of_describes href hd
    rw [show resolveUri l.base ref = .error e from he] at huri
    cases huri
  -- A text that cannot be read cannot be read from any other state of the loader either.
  have hcannot : ∀ {e : Failure} {loader : Loader},
      ((Loader.readText setup.world uri).run.run loader).1 = .error e → ¬CanDescribe setup l members := by
    rintro e loader he ⟨⟨d, hd⟩, -⟩
    obtain ⟨uri', text, huri', loader', htext⟩ := eq_of_describes href hd
    rw [huri] at huri'
    cases huri'
    rw [Loader.settled_readText loader' loader, he] at htext
    cases htext
  refine (Runs.rethrow (Q := fun text _ => TextUnder setup.world uri text)
    (fun e s => C.inv s ∧ P s ∧ ∃ loader, ((Loader.readText setup.world uri).run.run loader).1 = .error e)
    (Compiling.runs_ofLoading fun s hs hP => ?_) fun e s ⟨hs, hP, loader, he⟩ => ?_).bindStatic fun text htext =>
      .pure fun _ _ => ⟨uri, text, huri, htext, rfl⟩
  · have hcache : ((Loader.readText setup.world uri).run.run s.loader).2.cache = s.loader.cache :=
      (Loader.keeps_readText (J := (· = s.loader.cache)) s.loader rfl).1
    obtain ⟨hinv, hlater⟩ := hquiet s _ hs hcache
    show (C.failing _).Ends s _ (((Loader.readText setup.world uri).run.run s.loader).1, _)
    cases hresult : ((Loader.readText setup.world uri).run.run s.loader).1 with
    | error e => exact ⟨hinv, hP _ hlater, s.loader, hresult⟩
    | ok text => exact ⟨hinv, hlater, fun _ _ => ⟨s.loader, hresult⟩⟩
  · split
    · exact ⟨_, rfl, h s _ hs hP (hcannot he) (.fault _ (Location.holds_of_lookupKey href))⟩
    · exact ⟨_, rfl, h s _ hs hP (hcannot he) (.fault _ (Location.holds_of_lookupKey href))⟩
    · rename_i hcontent hstorage
      refine ⟨e, rfl, h s e hs hP (hcannot he) (.description href huri he ?_)⟩
      cases horigin : e.origin with
      | content => exact (hcontent horigin).elim
      | storage => exact (hstorage horigin).elim
      | lookup => exact .inl rfl
      | calculation => exact .inr rfl

theorem runs_description (hquiet : ∀ s loader, C.inv s → loader.cache = s.loader.cache →
      C.inv { s with loader } ∧ C.later s { s with loader })
    (h : C.Refuses P (Tells setup l members) fun _ => CanDescribe setup l members) :
    Runs C P (l.scope setup descend members).description fun d _ => DescriptionOf setup l members d := by
  unfold description
  split
  · rename_i hnone
    exact .pure fun _ _ => .inl hnone
  · rename_i hnull
    exact .pure fun _ _ => .inr hnull
  · rename_i htext
    exact .pure fun _ _ => .inl htext
  · rename_i ref href
    split
    · refine (runs_referredDescription hquiet href h).bindStatic fun d ⟨uri, text, huri, htext, hd⟩ => ?_
      subst hd
      exact .pure fun _ _ => .inr ⟨ref, uri, text, href, huri, htext, rfl⟩
    · rename_i hoff
      exact runs_fail (Location.holds_of_lookupKey href) h fun _ hcan => hoff (hcan.2 ref href)
  · rename_i v hnull hstr hobj hv
    -- What is neither a text nor refers to one is no description, so the schema is refused.
    have hv : lookupKey (.str "description") members = some v := hv
    refine runs_fail (Location.holds_of_lookupKey hv) h fun _ ⟨⟨d, hd⟩, _⟩ => ?_
    cases d with
    | none =>
      rcases hd with hd | hd
      · rw [hv] at hd
        cases hd
      · rw [hv] at hd
        cases hd
        exact hnull rfl
    | some d =>
      rcases hd with hd | ⟨ref, uri, text, href, -⟩
      · rw [hv] at hd
        cases hd
        exact hstr d rfl
      · rw [hv] at href
        cases href
        exact hobj ref rfl

/-! ### Self-checks -/

/-- The value is a sample of an object, and is checked against it: an example or the default. -/
inductive SampleOf (options : Options) (p : Pointer) (members : List (Scalar × Value)) : Pointer → Value → Prop where
  | example {v : Value} (hon : options.checkExamples = true) (hv : lookupKey (.str "example") members = some v) :
    SampleOf options p members (p.child "example") v
  | examples {vs : List Value} {v : Value} {i : Nat} (hon : options.checkExamples = true)
      (hvs : lookupKey (.str "examples") members = some (.arr vs)) (hv : vs[i]? = some v) :
    SampleOf options p members ((p.child "examples").item i) v
  | default {v : Value} (hon : options.checkDefaults = true) (hv : lookupKey (.str "default") members = some v) :
    SampleOf options p members (p.child "default") v

/-- A sample of an object cannot be evaluated with its node. -/
def SampleFails (options : Options) (p : Pointer) (members : List (Scalar × Value)) (n : Node) (e : Failure) : Prop :=
  ∃ location sample fault, SampleOf options p members location sample ∧
    n.findings sample n.site.path location = .error fault ∧ e = .ofEval fault

/-- Samples fail only where they are checked. -/
theorem SampleFails.checked {options : Options} {p : Pointer} {members : List (Scalar × Value)} {n : Node} {e : Failure}
    (h : SampleFails options p members n e) : options.checkExamples = true ∨ options.checkDefaults = true := by
  obtain ⟨location, sample, fault, hsample, -⟩ := h
  rcases hsample with ⟨hon, -⟩ | ⟨hon, -⟩ | ⟨hon, -⟩
  · exact .inl hon
  · exact .inl hon
  · exact .inr hon

theorem sampleOf_of_mem {location : Pointer} {sample : Value} (hon : setup.options.checkExamples = true)
    (h : (location, sample) ∈ (l.scope setup descend members).samples) :
    SampleOf setup.options l.pointer members location sample := by
  rcases List.mem_append.1 h with h | h
  · obtain ⟨v, hv, heq⟩ := Option.map_eq_some_iff.1 (Option.mem_toList.1 h)
    cases heq
    exact .example hon hv
  · split at h
    · rename_i vs hvs
      obtain ⟨⟨v, i⟩, hmem, heq⟩ := List.mem_map.1 h
      cases heq
      exact .examples hon hvs (List.mem_zipIdx_iff_getElem?.1 hmem)
    · cases h

private theorem runs_sampleFindings {n : Node} {sample : Value} {location : Pointer}
    (h : ∀ s fault, C.inv s → P s → n.findings sample n.site.path location = .error fault → C.fails (.ofEval fault) s) :
    Runs C P (sampleFindings n sample location) fun _ _ => True := by
  refine Compiling.runs_ofExcept (fun _ _ _ _ => trivial) fun e he s hs hP => ?_
  cases hfindings : n.findings sample n.site.path location with
  | ok findings =>
    rw [hfindings] at he
    cases he
  | error fault =>
    rw [hfindings] at he
    cases he
    exact h s fault hs hP.self hfindings

/-- The self-checks only add to what is found wrong with samples. -/
theorem runs_selfCheck {n : Node}
    (hadds : ∀ s examples defaults, C.inv s →
      C.inv { s with examples, defaults } ∧ C.later s { s with examples, defaults })
    (h : ∀ s e, C.inv s → P s → SampleFails setup.options l.pointer members n e → C.fails e s) :
    Runs C P ((l.scope setup descend members).selfCheck n) fun _ _ => True := by
  have hdefault : Runs C P (do
      if setup.options.checkDefaults then
        match lookupKey (.str "default") members with
        | some sample =>
          let entries ← sampleFindings n sample (l.pointer.child "default")
          modify fun session => { session with defaults := session.defaults ++ entries }
        | none => return) fun _ _ => True := by
    split
    · rename_i hon
      split
      · rename_i sample hsample
        refine (runs_sampleFindings fun s fault hs hP hfault => ?_).bindStatic fun entries _ => ?_
        · exact h s _ hs hP ⟨_, sample, fault, .default hon hsample, hfault, rfl⟩
        · exact .modify fun s hs _ => hadds s s.examples _ hs
      · exact .pure fun _ _ => trivial
    · exact .pure fun _ _ => trivial
  unfold selfCheck
  cases hon : (l.scope setup descend members).setup.options.checkExamples with
  | true =>
    refine (Runs.forIn (S := fun _ _ => True) fun sample hmem _ => ?_).andThen hdefault
    refine (runs_sampleFindings fun s fault hs hP hfault => ?_).bindStatic fun entries _ => ?_
    · exact h s _ hs hP ⟨sample.1, sample.2, fault, sampleOf_of_mem hon hmem, hfault, rfl⟩
    · exact (Runs.modify fun s hs _ => hadds s _ s.defaults hs).andThen (.pure fun _ _ => ⟨rfl, trivial⟩)
  | false => exact hdefault

/-- The node of a schema object whose own name is in force, before its samples are checked. -/
def unchecked (s : Scope) : Compiling Node := do
  let title ← s.title
  let description ← s.description
  let children ← s.children
  return .group (s.siteAt s.pointer) children title description (s.dialect.map Dialect.uri)

theorem group_eq (s : Scope) : s.group = s.unchecked >>= fun n => s.selfCheck n >>= fun _ => pure n := by
  simp only [group, unchecked, bind_assoc, pure_bind]

variable (means leads) in
theorem runs_unchecked (hquiet : ∀ s loader, C.inv s → loader.cache = s.loader.cache →
      C.inv { s with loader } ∧ C.later s { s with loader })
    (h : C.Refuses P (Tells setup l members) fun _ =>
      (∃ n, GroupOf setup anything anywhere l members n) ∧ DescriptionAllowed setup members)
    (hd : ∀ part ∈ l.subschemas members, Runs C P (descend part) fun n s => means s part n)
    (hr : ∀ value, (.str "$ref", value) ∈ members →
      Runs C P ((l.scope setup descend members).reference value) fun n s => ReferenceOf (means s) (leads s) l value n) :
    Runs C P (l.scope setup descend members).unchecked fun n s => GroupOf setup (means s) (leads s) l members n := by
  unfold unchecked
  refine (runs_title (h.part fun s ⟨⟨n, title, _, _, htitle, _⟩, _⟩ => ⟨title, htitle⟩)).bindStatic
    fun title htitle => ?_
  refine (runs_description hquiet (h.part fun s ⟨⟨n, _, description, _, _, hdescription, _⟩, hallowed⟩ =>
    ⟨⟨description, hdescription⟩, hallowed⟩)).bindStatic fun description hdescription => ?_
  refine (runs_children (h.part fun s ⟨⟨n, _, _, children, _, _, hchildren, _⟩, _⟩ => ⟨children, hchildren⟩)
    hd hr).seq fun children => ?_
  exact .pure fun s _ hchildren => ⟨title, description, children, htitle, hdescription, hchildren, rfl⟩

theorem runs_group (hquiet : ∀ s loader, C.inv s → loader.cache = s.loader.cache →
      C.inv { s with loader } ∧ C.later s { s with loader })
    (hadds : ∀ s examples defaults, C.inv s →
      C.inv { s with examples, defaults } ∧ C.later s { s with examples, defaults })
    (h : C.Refuses P (Tells setup l members) fun _ =>
      (∃ n, GroupOf setup anything anywhere l members n) ∧ DescriptionAllowed setup members)
    (hsample : ∀ s n e, C.inv s → P s → GroupOf setup (means s) (leads s) l members n →
      SampleFails setup.options l.pointer members n e → C.fails e s)
    (hd : ∀ part ∈ l.subschemas members, Runs C P (descend part) fun n s => means s part n)
    (hr : ∀ value, (.str "$ref", value) ∈ members →
      Runs C P ((l.scope setup descend members).reference value) fun n s => ReferenceOf (means s) (leads s) l value n) :
    Runs C P (l.scope setup descend members).group fun n s => GroupOf setup (means s) (leads s) l members n := by
  rw [group_eq]
  refine (runs_unchecked means leads hquiet h hd hr).bind fun n => ?_
  refine (runs_selfCheck hadds fun s e hs hP he => ?_).andThen (.pure fun s hP => hP.2)
  exact hsample s n e hs hP.1 hP.2 he

/-- Entering an object brings its name into force, and files it under its URI. -/
theorem runs_enter (hname : ∀ s name uri, C.inv s → C.Always s P → lookupKey (.str "$id") members = some (.str name) →
      resolveName l.base name = .ok uri → uri.isEmpty = false → C.inv { s with homes := addHome uri ⟨l.document, l.pointer⟩ s.homes } ∧
        C.later s { s with homes := addHome uri ⟨l.document, l.pointer⟩ s.homes })
    (h : C.Refuses P (Tells setup l members) fun _ => ∃ base, BaseInside l.base members base) :
    Runs C P (l.scope setup descend members).enter fun s _ =>
      ∃ base, BaseInside l.base members base ∧ s = ({ l with base }).scope setup descend members := by
  unfold enter
  split
  · rename_i hnone
    have hnone : lookupKey (.str "$id") members = none := hnone
    exact .pure fun _ _ => ⟨l.base, ⟨by simp [baseWithin, Value.member?, hnone], by simp [hnone]⟩, rfl⟩
  · rename_i name hid
    have hid : lookupKey (.str "$id") members = some (.str name) := hid
    have htext : ∀ v, lookupKey (.str "$id") members = some v → ∃ name, v = .str name := by simp [hid]
    -- The name is resolved once, for the base that is in force inside and for the URI that the object is filed
    -- under.
    have hbase : ∀ uri, resolveName l.base name = .ok uri →
        baseWithin l.base (.obj members) = .ok (if uri.isEmpty then l.base else some uri) := by
      intro uri huri
      simp [baseWithin, Value.member?, hid, huri, Except.map]
    refine (Compiling.runs_ofExcept (Q := fun uri _ => resolveName l.base name = .ok uri) (fun _ h _ _ => h)
      fun e he s hs hP => ?_).bindStatic fun uri huri => ?_
    · have he : resolveName l.base name = .error e := he
      refine h s e hs hP.self (fun ⟨base, hinside, _⟩ => ?_) (.name hid he)
      simp [baseWithin, Value.member?, hid, he, Except.map] at hinside
    split
    · rename_i hempty
      exact .pure fun _ _ => ⟨l.base, ⟨by rw [hbase uri huri, if_pos hempty], htext⟩, rfl⟩
    · rename_i hempty
      refine (Runs.modify fun s hs hP => hname s name uri hs hP hid huri (by simpa using hempty)).andThen ?_
      exact .pure fun _ _ => ⟨some uri, ⟨by rw [hbase uri huri, if_neg hempty], htext⟩, rfl⟩
  · rename_i v hne hv
    refine runs_fail (Location.holds_of_lookupKey hv) h fun _ ⟨base, _, htext⟩ => ?_
    obtain ⟨name, rfl⟩ := htext v hv
    exact hne name rfl

/-! ### References -/

/-- A reference at the location names this home, and a part of it by this fragment. -/
def Follows (homes : String → Home → Prop) (l : Location) (ref : String) (home : Home) (fragment : Option String) :
    Prop :=
  ∃ full uri, resolveUri l.base ref = .ok full ∧ Uri.splitFragment full = (uri, fragment) ∧ homes uri home

/-- What following a reference that is written at the path fails with, where URIs name such homes. -/
inductive Stray (homes : String → Home → Prop) (l : Location) (ref : String) (path : Pointer) : Failure → Prop where
  | fault {home : Home} {fragment : Option String} (hhome : Follows homes l ref home fragment) :
    Stray homes l ref path (.schema (.reference ref) l.base (some path))
  | uri {e : Failure} (h : resolveUri l.base ref = .error e) : Stray homes l ref path e
  | fragment {home : Home} {fragment : Option String} {e : Failure} (hhome : Follows homes l ref home fragment)
      (h : targetPointer? home.document.content home.origin fragment = .error e) : Stray homes l ref path e
  | value {home : Home} {fragment : Option String} {p : Pointer} {e : Failure} (hhome : Follows homes l ref home fragment)
      (hp : targetPointer? home.document.content home.origin fragment = .ok (some p))
      (h : valueAt? home.document.content p = .error e) : Stray homes l ref path e
  | dialect {home : Home} {fragment : Option String} {e : Failure} (hhome : Follows homes l ref home fragment)
      (h : home.document.dialect? = .error e) : Stray homes l ref path e
  | base {home : Home} {fragment : Option String} {p : Pointer} {v : Value} {e : Failure}
      (hhome : Follows homes l ref home fragment)
      (hp : targetPointer? home.document.content home.origin fragment = .ok (some p))
      (hv : valueAt? home.document.content p = .ok (some v)) (h : home.document.baseAt p = .error e) :
      Stray homes l ref path e

/-- What goes astray has no URI, or it goes astray in a home. -/
theorem Stray.follows {homes : String → Home → Prop} {l : Location} {ref : String} {path : Pointer} {e : Failure}
    (h : Stray homes l ref path e) :
    resolveUri l.base ref = .error e ∨ ∃ home fragment, Follows homes l ref home fragment := by
  cases h with
  | uri h => exact .inl h
  | fault hhome | fragment hhome | value hhome | dialect hhome | base hhome => exact .inr ⟨_, _, hhome⟩

/-- A URI names one home at most. -/
def Unambiguous (homes : String → Home → Prop) : Prop :=
  ∀ uri home home', homes uri home → homes uri home' → home = home'

theorem runs_target (homes : Session → String → Home → Prop) {ref : String} {path : Pointer}
    (hhome : ∀ full uri fragment, resolveUri l.base ref = .ok full → Uri.splitFragment full = (uri, fragment) →
      Runs C P ((l.scope setup descend members).home uri) fun home s => homes s uri home)
    (h : C.Refuses P (fun e s => Stray (homes s) l ref path e) fun s =>
      Unambiguous (homes s) ∧ ∃ t fragment, TargetOf (homes s) l ref t fragment) :
    Runs C P ((l.scope setup descend members).target ref path) fun t s => TargetOf (homes s) l ref t.1 t.2 := by
  unfold target
  refine (Compiling.runs_ofExcept (Q := fun full _ => resolveUri l.base ref = .ok full) (fun _ h _ _ => h)
    fun e he s hs hP => ?_).bindStatic fun full hfull => ?_
  · have he : resolveUri l.base ref = .error e := he
    refine h s e hs hP.self (fun ⟨_, t, fragment, full, uri, home, hfull, _⟩ => ?_) (.uri he)
    rw [he] at hfull
    cases hfull
  split
  rename_i uri fragment hsplit
  refine (hhome full uri fragment hfull hsplit).bind fun home => ?_
  have hfollows : ∀ {s}, homes s uri home → Follows (homes s) l ref home fragment :=
    fun hh => ⟨full, uri, hfull, hsplit, hh⟩
  -- Whatever the reference leads to lies in the home that has been found.
  have hfound : ∀ {s t fragment'}, Unambiguous (homes s) → homes s uri home → TargetOf (homes s) l ref t fragment' →
      targetPointer? home.document.content home.origin fragment = .ok (some t.pointer) ∧
        valueAt? home.document.content t.pointer = .ok (some t.value) ∧ home.document.baseAt t.pointer = .ok t.base ∧
        ∃ dialect, home.document.dialect? = .ok dialect := by
    rintro s t fragment' hunique hh ⟨full', uri', home', hfull', hsplit', hh', hp, hv, hdocument, hbase, dialect, hdialect, -⟩
    rw [hfull] at hfull'
    cases hfull'
    rw [hsplit] at hsplit'
    cases hsplit'
    cases hunique _ _ _ hh hh'
    rw [hdocument] at hbase hdialect
    exact ⟨hp, hv, hbase, dialect, hdialect⟩
  refine (Compiling.runs_ofExcept
    (Q := fun p _ => targetPointer? home.document.content home.origin fragment = .ok p) (fun _ h _ _ => h)
    fun e he s hs hP => ?_).bindStatic fun p hp => ?_
  · refine h s e hs hP.self.1 (fun ⟨hunique, t, fragment', ht⟩ => ?_) (.fragment (hfollows hP.self.2) he)
    rw [(hfound hunique hP.self.2 ht).1] at he
    cases he
  split
  · refine .throw fun s hs hP => h s _ hs hP.self.1 (fun ⟨hunique, t, fragment', ht⟩ => ?_)
      (.fault (hfollows hP.self.2))
    rw [(hfound hunique hP.self.2 ht).1] at hp
    cases hp
  rename_i p
  have hat : ∀ {s t fragment'}, Unambiguous (homes s) → homes s uri home → TargetOf (homes s) l ref t fragment' →
      t.pointer = p := by
    intro s t fragment' hunique hh ht
    rw [(hfound hunique hh ht).1] at hp
    exact Option.some.inj (Except.ok.inj hp)
  refine (Compiling.runs_ofExcept (Q := fun value _ => valueAt? home.document.content p = .ok value)
    (fun _ h _ _ => h) fun e he s hs hP => ?_).bindStatic fun value hvalue => ?_
  · refine h s e hs hP.self.1 (fun ⟨hunique, t, fragment', ht⟩ => ?_) (.value (hfollows hP.self.2) hp he)
    have hv := (hfound hunique hP.self.2 ht).2.1
    rw [hat hunique hP.self.2 ht, he] at hv
    cases hv
  split
  · refine .throw fun s hs hP => h s _ hs hP.self.1 (fun ⟨hunique, t, fragment', ht⟩ => ?_)
      (.fault (hfollows hP.self.2))
    have hv := (hfound hunique hP.self.2 ht).2.1
    rw [hat hunique hP.self.2 ht, hvalue] at hv
    cases hv
  rename_i value
  refine (Compiling.runs_ofExcept (Q := fun dialect _ => home.document.dialect? = .ok dialect) (fun _ h _ _ => h)
    fun e he s hs hP => ?_).bindStatic fun dialect hdialect => ?_
  · refine h s e hs hP.self.1 (fun ⟨hunique, t, fragment', ht⟩ => ?_) (.dialect (hfollows hP.self.2) he)
    obtain ⟨dialect, hdialect⟩ := (hfound hunique hP.self.2 ht).2.2.2
    rw [he] at hdialect
    cases hdialect
  refine (Compiling.runs_ofExcept (Q := fun base _ => home.document.baseAt p = .ok base) (fun _ h _ _ => h)
    fun e he s hs hP => ?_).bindStatic fun base hbase => ?_
  · refine h s e hs hP.self.1 (fun ⟨hunique, t, fragment', ht⟩ => ?_) (.base (hfollows hP.self.2) hp hvalue he)
    have hbase := (hfound hunique hP.self.2 ht).2.2.1
    rw [hat hunique hP.self.2 ht, he] at hbase
    cases hbase
  exact .pure fun s hP => ⟨full, uri, home, hfull, hsplit, hP.2, hp, hvalue, rfl, hbase, dialect, hdialect, rfl⟩

variable (means leads) in
theorem runs_reference (G : Session → Location → Prop) {value : Value} (hmem : (.str "$ref", value) ∈ members)
    (h : C.Refuses P (Tells setup l members) fun _ => ∃ n, ReferenceOf anything anywhere l value n)
    (ht : ∀ ref, value = .str ref → Runs C P ((l.scope setup descend members).target ref (l.pointer.child "$ref"))
      fun t s => leads s l ref t.1 t.2 ∧ G s t.1)
    (hd : ∀ ref t fragment, value = .str ref →
      Runs C (fun s => P s ∧ leads s l ref t fragment ∧ G s t) (descend t) fun n s => means s t n) :
    Runs C P ((l.scope setup descend members).reference value) fun n s => ReferenceOf (means s) (leads s) l value n := by
  unfold reference
  split
  · rename_i ref
    refine (ht ref rfl).bind fun (t, fragment) => ?_
    refine (hd ref t fragment rfl).seq fun m => .pure fun s hP hm => ?_
    exact ⟨ref, t, fragment, m, rfl, hP.2.1, hm, rfl⟩
  · rename_i hne
    exact runs_fail (Location.holds_of_mem hmem) h fun s ⟨n, ref, t, fragment, m, href, _⟩ => hne ref href

/-! ### Objects and locations -/

/-- What the checks of an object fail with: those of the object under the base around it, or under its own. -/
def ObjectTells (setup : Setup) (l : Location) (members : List (Scalar × Value)) (e : Failure) (_ : Session) : Prop :=
  Objection setup l members e ∨ ∃ inner, l.Inner members inner ∧ Objection setup inner members e

/-- The node of an object, its dialect being written where it may be. -/
def objectAt (setup : Setup) (descend : Location → Compiling Node) (l : Location) (members : List (Scalar × Value)) :
    Compiling Node :=
  match l.dialect, lookupKey (.str "$ref") members with
  | some .draft07, some ref => do
    return .group (l.site l.pointer) [← (l.scope setup descend members).reference ref] none none (some Dialect.draft07.uri)
  | _, _ => do (← (l.scope setup descend members).enter).group

variable (means leads) in
theorem runs_object (hquiet : ∀ s loader, C.inv s → loader.cache = s.loader.cache →
      C.inv { s with loader } ∧ C.later s { s with loader })
    (hadds : ∀ s examples defaults, C.inv s →
      C.inv { s with examples, defaults } ∧ C.later s { s with examples, defaults })
    (hname : l.isReplaced members = false → ∀ s name uri, C.inv s → C.Always s P →
      lookupKey (.str "$id") members = some (.str name) → resolveName l.base name = .ok uri → uri.isEmpty = false →
      C.inv { s with homes := addHome uri ⟨l.document, l.pointer⟩ s.homes } ∧
        C.later s { s with homes := addHome uri ⟨l.document, l.pointer⟩ s.homes })
    (h : C.Refuses P (ObjectTells setup l members) fun _ => (∃ n, ObjectOf setup anything anywhere l members n) ∧
      (l.isReplaced members = false → DescriptionAllowed setup members))
    (hsample : ∀ s n e, C.inv s → P s → ObjectOf setup (means s) (leads s) l members n →
      SampleFails setup.options l.pointer members n e → C.fails e s)
    (hd : l.isReplaced members = false → ∀ inner, l.Inner members inner →
      ∀ part ∈ inner.subschemas members, Runs C P (descend part) fun n s => means s part n)
    (hr : ∀ inner, l.Inner members inner → ∀ value, (.str "$ref", value) ∈ members →
      (C.Refuses P (Tells setup inner members) fun _ => ∃ n, ReferenceOf anything anywhere inner value n) →
      Runs C P ((inner.scope setup descend members).reference value)
        fun n s => ReferenceOf (means s) (leads s) inner value n) :
    Runs C P (l.scope setup descend members).object fun n s => ObjectOf setup (means s) (leads s) l members n := by
  have hmain (hroot : hasKey (.str "$schema") members = true → l.pointer.isRoot = true) : Runs C P
      (objectAt setup descend l members) fun n s => ∃ inner, l.Inner members inner ∧
        if l.isReplaced members then
          ∃ ref r, lookupKey (.str "$ref") members = some ref ∧ ReferenceOf (means s) (leads s) inner ref r ∧
            n = .group (l.site l.pointer) [r] none none (some Dialect.draft07.uri)
        else GroupOf setup (means s) (leads s) inner members n := by
    unfold objectAt
    split
    · rename_i ref hdialect href
      have hreplaced : l.isReplaced members = true := by simp [Location.isReplaced, hasKey, hdialect, href]
      have hinner : l.Inner members l := by rw [Location.Inner, if_pos hreplaced]
      refine (hr l hinner ref (mem_of_lookupKey href) ?_).seq fun r => .pure fun _ _ hr' => ?_
      · refine h.mono (fun _ hp => hp) (fun _ _ he => .inl he) fun s ⟨⟨n, hn⟩, _⟩ => ?_
        obtain ⟨-, inner, hinner', hn⟩ := hn
        cases hinner'.unique hinner
        rw [if_pos hreplaced] at hn
        obtain ⟨ref', r, href', hr', -⟩ := hn
        rw [href] at href'
        cases href'
        exact ⟨r, hr'⟩
      · exact ⟨l, hinner, by rw [if_pos hreplaced]; exact ⟨ref, r, href, hr', rfl⟩⟩
    · rename_i hne
      have hreplaced : l.isReplaced members = false := Location.isReplaced_eq_false hne
      have hcan : ((∃ n, ObjectOf setup anything anywhere l members n) ∧
          (l.isReplaced members = false → DescriptionAllowed setup members)) →
          ∃ base, BaseInside l.base members base ∧
            (∃ n, GroupOf setup anything anywhere { l with base } members n) ∧ DescriptionAllowed setup members := by
        rintro ⟨⟨n, -, inner, hinner, hn⟩, hallowed⟩
        rw [if_neg (by simp [hreplaced])] at hn
        rw [Location.Inner, if_neg (by simp [hreplaced])] at hinner
        obtain ⟨base, hbase, rfl⟩ := hinner
        exact ⟨base, hbase, ⟨n, hn⟩, hallowed hreplaced⟩
      refine (runs_enter (hname hreplaced) (h.mono (fun _ hp => hp) (fun _ _ he => .inl he) fun s hs => ?_)).bindStatic
        fun s ⟨base, hbase, hs⟩ => ?_
      · obtain ⟨base, hbase, -⟩ := hcan hs
        exact ⟨base, hbase⟩
      subst hs
      have hinner : l.Inner members { l with base } := by
        rw [Location.Inner, if_neg (by simp [hreplaced])]
        exact ⟨base, hbase, rfl⟩
      have hgroup : C.Refuses P (Tells setup { l with base } members) fun _ =>
          (∃ n, GroupOf setup anything anywhere { l with base } members n) ∧ DescriptionAllowed setup members := by
        refine h.mono (fun _ hp => hp) (fun _ _ he => .inr ⟨_, hinner, he⟩) fun s hs => ?_
        obtain ⟨base', hbase', hn, hallowed⟩ := hcan hs
        cases hbase.unique hbase'
        exact ⟨hn, hallowed⟩
      refine (runs_group hquiet hadds hgroup (fun s n e hs hP hn he => hsample s n e hs hP
        ⟨hroot, _, hinner, by rw [if_neg (by simp [hreplaced])]; exact hn⟩ he) (hd hreplaced _ hinner)
        fun value hmem => hr _ hinner value hmem ?_).weaken (fun _ h => h) fun n s _ hn => ?_
      · exact hgroup.part fun s ⟨⟨n, hn⟩, _⟩ => hn.reference hmem
      · exact ⟨_, hinner, by rw [if_neg (by simp [hreplaced])]; exact hn⟩
  unfold object
  refine Runs.ite (fun hnested => ?_) fun hnested => ?_
  · have hnested : (hasKey (.str "$schema") members && !l.pointer.isRoot) = true := hnested
    rw [Bool.and_eq_true, Bool.not_eq_true'] at hnested
    obtain ⟨v, hv⟩ := Option.isSome_iff_exists.1 hnested.1
    refine Runs.bind (Q := fun _ _ => False) (.throw fun s hs hP => h s _ hs hP.self (fun ⟨⟨n, hroot, _⟩, _⟩ => ?_)
      (.inl (.fault _ (Location.holds_of_lookupKey hv)))) fun _ => .intro fun _ hfalse => hfalse.2.elim
    rw [hroot hnested.1] at hnested
    exact Bool.noConfusion hnested.2
  · have hnested : ¬(hasKey (.str "$schema") members && !l.pointer.isRoot) = true := hnested
    have hroot : hasKey (.str "$schema") members = true → l.pointer.isRoot = true := by
      intro hschema
      simpa [hschema] using hnested
    exact (hmain hroot).weaken (fun _ h => h) fun n s _ hn => ⟨hroot, hn⟩

/-! ### What objects keep -/

section Keeps

variable {I : Session → Prop} {stock : Stock} {filed : Place → Node → Prop} {means : Location → Node → Prop}
  {leads : Location → String → Location → Option String → Prop}

theorem keeps_fail {α : Type} {Q : α → Prop} {s : Scope} {fault : SchemaFault} {path : Pointer} :
    Keeps I (s.fail fault path : Compiling α) Q := .throw _

private theorem refuses_keeping {kind : Failure → Session → Prop} {can : Session → Prop} :
    (Course.keeping I).Refuses (fun _ => True) kind can := fun _ _ hs _ _ _ => hs

theorem keeps_target (homes : String → Home → Prop) {ref : String} {path : Pointer}
    (hhome : ∀ full uri fragment, resolveUri l.base ref = .ok full → Uri.splitFragment full = (uri, fragment) →
      Keeps I ((l.scope setup descend members).home uri) (homes uri)) :
    Keeps I ((l.scope setup descend members).target ref path) fun t => TargetOf homes l ref t.1 t.2 :=
  runs_keeping_iff.1 (runs_target (fun _ => homes)
    (fun full uri fragment hfull hsplit => runs_keeping_iff.2 (hhome full uri fragment hfull hsplit)) refuses_keeping)

theorem keeps_reference {value : Value} (hmem : (.str "$ref", value) ∈ members)
    (ht : ∀ ref, value = .str ref → Keeps I ((l.scope setup descend members).target ref (l.pointer.child "$ref"))
      fun t => leads l ref t.1 t.2 ∧ Keeps I (descend t.1) (means t.1)) :
    Keeps I ((l.scope setup descend members).reference value) (ReferenceOf means leads l value) := by
  refine runs_keeping_iff.1 (runs_reference (fun _ => means) (fun _ => leads)
    (fun _ t => Keeps I (descend t) (means t)) hmem refuses_keeping (fun ref href => runs_keeping_iff.2 (ht ref href))
    fun ref t fragment href => ?_)
  exact .intro fun _ h => (runs_keeping_iff.2 h.2.2).strengthen fun _ _ => trivial

theorem keeps_object
    (hstock : l.isReplaced members = false → ∀ cache homes name uri,
      lookupKey (.str "$id") members = some (.str name) → resolveName l.base name = .ok uri → stock cache homes →
      stock cache (addHome uri ⟨l.document, l.pointer⟩ homes))
    (hd : l.isReplaced members = false → ∀ inner, l.Inner members inner →
      ∀ part ∈ inner.subschemas members, Keeps (Session.Sound stock filed) (descend part) (means part))
    (hr : ∀ inner, l.Inner members inner → ∀ value, (.str "$ref", value) ∈ members →
      Keeps (Session.Sound stock filed) ((inner.scope setup descend members).reference value)
        (ReferenceOf means leads inner value)) :
    Keeps (Session.Sound stock filed) (l.scope setup descend members).object
      (ObjectOf setup means leads l members) := by
  refine runs_keeping_iff.1 (runs_object (fun _ => means) (fun _ => leads)
    (fun s loader hs hcache => ⟨⟨?_, hs.nodes⟩, trivial⟩) (fun s _ _ hs => ⟨⟨hs.stock, hs.nodes⟩, trivial⟩)
    (fun hreplaced s name uri hs _ hid huri _ => ⟨⟨?_, hs.nodes⟩, trivial⟩) refuses_keeping (fun s _ _ hs _ _ _ => hs)
    (fun hreplaced inner hinner part hpart => runs_keeping_iff.2 (hd hreplaced inner hinner part hpart))
    fun inner hinner value hmem _ => runs_keeping_iff.2 (hr inner hinner value hmem))
  · rw [hcache]
    exact hs.stock
  · exact hstock hreplaced _ _ name uri hid huri hs.stock

end Keeps

end Scope

end Conform
