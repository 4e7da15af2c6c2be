import Conform.Proofs.Compile.Neighbours
import Conform.Proofs.Compile.Rearranged
import Conform.Proofs.Schema.Concord

/-!
# What is built for rearranged members

For a location and its rearrangement nodes are built that are in concord, if concordant nodes are meant by their parts and
by what their references lead to (`Built.rearranged`).  The children of a node come in the order of the members, and a late
keyword is told the same of its neighbours, whatever their order.
-/

namespace Conform

open Node (Concord concord_self)

/-! ### Partners in another order -/

/-- What is related to the items of a list has partners that are related to the items of the other list, if each of them
has one that is related to the partner of its item. -/
theorem exists_paired {α α' β β' : Type} {T : α → α' → Prop} {R : α → β → Prop} {Q : α' → β' → Prop} {S : β → β' → Prop}
    {as : List α} {ts as' : List α'} {bs : List β} (ht : List.Forall₂ T as ts) (horder : ts.Perm as')
    (h : List.Forall₂ R as bs) (hstep : ∀ a a' b, a ∈ as → T a a' → R a b → ∃ b', Q a' b' ∧ S b b') :
    ∃ ss bs', List.Forall₂ S bs ss ∧ ss.Perm bs' ∧ List.Forall₂ Q ts ss ∧ List.Forall₂ Q as' bs' := by
  have hss : ∃ ss, List.Forall₂ Q ts ss ∧ List.Forall₂ S bs ss := by
    clear horder
    induction ht generalizing bs with
    | nil =>
      cases h
      exact ⟨[], .nil, .nil⟩
    | @cons a a' as ts ha _ ih =>
      cases h with
      | cons hb hbs =>
        obtain ⟨b', hb', hbb⟩ := hstep a a' _ List.mem_cons_self ha hb
        obtain ⟨ss, hss, hbss⟩ := ih hbs fun c c' d hc => hstep c c' d (List.mem_cons_of_mem _ hc)
        exact ⟨b' :: ss, .cons hb' hss, .cons hbb hbss⟩
  obtain ⟨ss, hss, hbss⟩ := hss
  obtain ⟨bs', hbs', hperm⟩ := List.perm_comp_forall₂ horder.symm hss
  exact ⟨ss, bs', hbss, hperm.symm, hss, hbs'⟩

/-- Partners of options, of which some are there. -/
theorem paired_filterMap {β β' : Type} {S : β → β' → Prop} {bs : List (Option β)} {bs' : List (Option β')}
    (h : Paired (Option.Rel S) bs bs') : Paired S (bs.filterMap id) (bs'.filterMap id) := by
  constructor
  · intro b hb
    obtain ⟨o, ho, rfl⟩ := List.mem_filterMap.1 hb
    obtain ⟨o', ho', hoo⟩ := h.1 _ ho
    cases hoo with
    | @some _ b' hbb => exact ⟨b', List.mem_filterMap.2 ⟨_, ho', rfl⟩, hbb⟩
  · intro b' hb'
    obtain ⟨o', ho', rfl⟩ := List.mem_filterMap.1 hb'
    obtain ⟨o, ho, hoo⟩ := h.2 _ ho'
    cases hoo with
    | @some b _ hbb => exact ⟨b, List.mem_filterMap.2 ⟨_, ho, rfl⟩, hbb⟩

/-! ### Values of keywords -/

namespace Value.Rearranged

variable {v w : Value}

theorem types?_eq (h : v.Rearranged w) : v.types? = w.types? := by
  have hname : ∀ v w : Value, v.Rearranged w → v.typeName? = w.typeName? := by
    intro v w h
    cases h <;> rfl
  cases h with
  | scalar | set | obj => rfl
  | arr h =>
    unfold types?
    cases h with
    | nil => rfl
    | cons hvw h => exact mapM_eq (.cons hvw h) hname

theorem texts?_eq (h : v.Rearranged w) : v.texts? = w.texts? := by
  cases h with
  | scalar | set | obj => rfl
  | arr h => exact mapM_eq h fun _ _ h => h.text?_eq

theorem size?_eq (h : v.Rearranged w) : v.size? = w.size? := by
  cases h <;> rfl

theorem bound?_eq (h : v.Rearranged w) (relation : Relation) : v.bound? relation = w.bound? relation := by
  cases h <;> rfl

theorem isArray_eq (h : v.Rearranged w) : v.isArray = w.isArray := by
  cases h <;> rfl

end Value.Rearranged

section Build

variable {setup : Setup} {means means' : Location → Node → Prop}
  {leads leads' : Location → String → Location → Option String → Prop} {l l' : Location} {ms ns : List (Scalar × Value)}
  {v w : Value} {name : String} {path : Pointer}

variable (hmeans : ∀ t t' m, t.Rearranged t' → means t m → ∃ m', means' t' m' ∧ m.Concord m')

include hmeans

/-! ### Nodes of keywords -/

theorem PartsOf.rearranged {vs ws : List Value} {nodes : List Node} (hl : l.Rearranged l')
    (hvw : (Value.arr vs).Rearranged (.arr ws)) (hvs : itemsJson vs = true) (h : PartsOf means l path vs nodes) :
    ∃ nodes', PartsOf means' l' path ws nodes' ∧ List.Forall₂ Concord nodes nodes' := by
  have hitems : List.Forall₂ (fun a b => a.1.Rearranged b.1 ∧ a.2 = b.2) vs.zipIdx ws.zipIdx := by
    have hlength := hvw.items.length_eq
    refine List.forall₂_iff_get.2 ⟨by simp [hlength], fun i hi hi' => ?_⟩
    simp only [List.get_eq_getElem, List.getElem_zipIdx, and_true]
    exact (List.forall₂_iff_get.1 hvw.items).2 i (by simpa using hi) (by simpa using hi')
  obtain ⟨nodes', _, hconcord, -, hnodes', -⟩ := exists_paired
    (Q := fun wi n => means' (l'.part (path.item wi.2) wi.1) n) hitems (.refl _) h fun vi wj n hmem hrel hn => by
      obtain ⟨v, i⟩ := vi
      obtain ⟨w, j⟩ := wj
      obtain ⟨hvw, rfl⟩ : v.Rearranged w ∧ i = j := hrel
      exact hmeans _ _ n (hl.part hvw (itemsJson_iff.1 hvs v (List.fst_mem_of_mem_zipIdx hmem)) _) hn
  exact ⟨nodes', hnodes', hconcord⟩

theorem BranchOf.rearranged {branch : Option Node} (hl : l.Rearranged l') (hobj : (Value.obj ms).Rearranged (.obj ns))
    (hms : membersJson ms = true) (h : BranchOf means l ms name branch) :
    ∃ branch', BranchOf means' l' ns name branch' ∧ Option.Rel Concord branch branch' := by
  cases branch with
  | none => exact ⟨none, hobj.lookupKey_eq_none hms h, .none⟩
  | some n =>
    obtain ⟨v, hv, hn⟩ := h
    obtain ⟨w, hw, hvw⟩ := hobj.lookupKey_eq_some hms hv
    have hpart := hl.part hvw (isJson_of_mem hms (mem_of_lookupKey hv)).2 (l.pointer.child name)
    obtain ⟨n', hn', hconcord⟩ := hmeans _ _ n hpart hn
    rw [hl.pointer] at hn'
    exact ⟨some n', ⟨w, hw, hn'⟩, .some hconcord⟩

/-- The nodes of the members of a value have partners, in the order of the other members. -/
private theorem entries_rearranged {α : Type} {R : Scalar × Value → α → Prop} {es : List (α × Node)}
    (hl : l.Rearranged l') (hobj : (Value.obj ms).Rearranged (.obj ns)) (hms : membersJson ms = true)
    (hR : ∀ m m' a, m.1 = m'.1 → R m a → R m' a)
    (h : List.Forall₂ (fun m (e : α × Node) => R m e.1 ∧ means (l.part (path.key m.1) m.2) e.2) ms es) :
    ∃ es' : List (α × Node), List.Forall₂ (fun m e => R m e.1 ∧ means' (l'.part (path.key m.1) m.2) e.2) ns es' ∧
      Paired (fun e e' => e.1 = e'.1 ∧ e.2.Concord e'.2) es es' := by
  obtain ⟨ks, hks, horder⟩ := hobj.members
  obtain ⟨ss, es', hpaired, hperm, -, hes'⟩ := exists_paired hks horder h 
    (S := fun e (e' : α × Node) => e.1 = e'.1 ∧ e.2.Concord e'.2)
    (Q := fun m e => R m e.1 ∧ means' (l'.part (path.key m.1) m.2) e.2) fun m m' e hm ⟨hkey, hvalue⟩ ⟨hr, hn⟩ => by
      have hpart := hl.part hvalue (isJson_of_mem hms hm).2 (path.key m.1)
      obtain ⟨n', hn', hconcord⟩ := hmeans _ _ e.2 hpart hn
      rw [hkey] at hn'
      exact ⟨(e.1, n'), ⟨hR m m' e.1 hkey hr, hn'⟩, rfl, hconcord⟩
  exact ⟨es', hes', paired_of_forall₂ hpaired hperm⟩

omit hmeans in
theorem SizeUnder.rearranged {size : Option Int} (hobj : (Value.obj ms).Rearranged (.obj ns)) (hms : membersJson ms = true)
    (h : SizeUnder ms name size) : SizeUnder ns name size := by
  cases size with
  | none => exact hobj.lookupKey_eq_none hms h
  | some k =>
    obtain ⟨v, hv, hk⟩ := h
    obtain ⟨w, hw, hvw⟩ := hobj.lookupKey_eq_some hms hv
    exact ⟨w, hw, hvw.size?_eq ▸ hk⟩

variable (hleads : ∀ l l' ref t fragment, l.Rearranged l' → leads l ref t fragment →
  ∃ t', leads' l' ref t' fragment ∧ t.Rearranged t')

include hleads

theorem ReferenceOf.rearranged {n : Node} (hl : l.Rearranged l') (hvw : v.Rearranged w) (h : ReferenceOf means leads l v n) :
    ∃ n', ReferenceOf means' leads' l' w n' ∧ n.Concord n' := by
  obtain ⟨ref, t, fragment, m, rfl, ht, hm, rfl⟩ := h
  obtain ⟨t', ht', htt⟩ := hleads _ _ _ _ _ hl ht
  obtain ⟨m', hm', hconcord⟩ := hmeans _ _ m htt hm
  refine ⟨_, ⟨ref, t', fragment, m', hvw.eq_scalar, ht', hm', rfl⟩, ?_⟩
  rw [hl.pointer, hl.site]
  exact Node.concord_reference hconcord

variable (hplain : ∀ name base path value, setup.keyword name base path value = none)

include hplain

/-- The nodes of a keyword are in concord, or there is none for either. -/
theorem KeywordOf.rearranged {keyword : Keyword} {result : Option Node} (hl : l.Rearranged l')
    (hobj : (Value.obj ms).Rearranged (.obj ns)) (hms : membersJson ms = true) (hvw : v.Rearranged w) (hv : v.isJson = true)
    (h : KeywordOf setup means leads l ms keyword name v result) :
    ∃ result', KeywordOf setup means' leads' l' ns keyword name w result' ∧ Option.Rel Concord result result' := by
  have hone {n : Node} (hn : means (l.part (l.pointer.child name) v) n) :
      ∃ n', means' (l'.part (l'.pointer.child name) w) n' ∧ n.Concord n' := by
    rw [← hl.pointer]
    exact hmeans _ _ n (hl.part hvw hv _) hn
  have hsite : l'.site (l'.pointer.child name) = l.site (l.pointer.child name) := by rw [hl.pointer, hl.site]
  have hsame {n : Node} : Option.Rel Concord (some n) (some n) := .some (concord_self n)
  unfold KeywordOf
  dsimp only
  rw [hsite]
  cases keyword with
  | passive | unknown | additionalProperties | additionalItems =>
    subst h
    exact ⟨none, rfl, .none⟩
  | reference =>
    obtain ⟨n, hn, rfl⟩ := h
    obtain ⟨n', hn', hconcord⟩ := hn.rearranged hmeans hleads hl hvw
    exact ⟨some n', ⟨n', hn', rfl⟩, .some hconcord⟩
  | combination counting =>
    obtain ⟨vs, nodes, rfl, hne, hnodes, rfl⟩ := h
    obtain ⟨ws, rfl⟩ := hvw.eq_arr
    obtain ⟨nodes', hnodes', hconcord⟩ := hnodes.rearranged hmeans hl hvw hv
    have hne' : ws ≠ [] := by
      rintro rfl
      exact hne (List.forall₂_nil_right_iff.1 hvw.items)
    rw [hl.pointer] at hnodes'
    exact ⟨_, ⟨ws, nodes', rfl, hne', hnodes', rfl⟩, .some (Node.concord_combine hconcord)⟩
  | negation =>
    obtain ⟨n, hn, rfl⟩ := h
    obtain ⟨n', hn', hconcord⟩ := hone hn
    exact ⟨_, ⟨n', hn', rfl⟩, .some (Node.concord_not hconcord)⟩
  | propertyNames =>
    obtain ⟨n, hn, rfl⟩ := h
    obtain ⟨n', hn', hconcord⟩ := hone hn
    exact ⟨_, ⟨n', hn', rfl⟩, .some (Node.concord_propertyNames hconcord)⟩
  | condition =>
    obtain ⟨t, e, c, ht, he, hc, rfl⟩ := h
    obtain ⟨t', ht', htt⟩ := ht.rearranged hmeans hl hobj hms
    obtain ⟨e', he', hee⟩ := he.rearranged hmeans hl hobj hms
    obtain ⟨c', hc', hcc⟩ := hmeans _ _ c (hl.part hvw hv _) hc
    rw [hl.pointer] at hc'
    refine ⟨_, ⟨t', e', c', ht', he', hc', rfl⟩, .some ?_⟩
    rw [← hl.pointer, ← hl.site]
    exact Node.concord_conditional hcc htt hee
  | type =>
    obtain ⟨names, hnames, rfl⟩ := h
    exact ⟨_, ⟨names, hvw.types?_eq ▸ hnames, rfl⟩, hsame⟩
  | enum =>
    obtain ⟨vs, rfl, rfl⟩ := h
    obtain ⟨ws, rfl⟩ := hvw.eq_arr
    have hws : itemsJson ws = true := hvw.isJson hv
    refine ⟨_, ⟨ws, rfl, rfl⟩, .some (Node.concord_enum (itemsJson_iff.1 hv) (itemsJson_iff.1 hws) ?_)⟩
    rw [← List.forall₂_eq_eq_eq, List.forall₂_map_left_iff, List.forall₂_map_right_iff]
    exact (forall₂_mem hvw.items).imp fun a b ⟨ha, _, hab⟩ => hab.canonical (itemsJson_iff.1 hv a ha)
  | const =>
    subst h
    exact ⟨_, rfl, .some (Node.concord_const hv (hvw.isJson hv) (hvw.canonical hv))⟩
  | properties =>
    obtain ⟨ks, es, rfl, hes, rfl⟩ := h
    obtain ⟨ks', rfl⟩ := hvw.eq_obj
    obtain ⟨es', hes', hpaired⟩ := entries_rearranged (R := fun m key => key = m.1) hmeans hl hvw hv
      (fun m m' key hkey h => h.trans hkey) hes
    rw [hl.pointer] at hes'
    exact ⟨_, ⟨ks', es', rfl, hes', rfl⟩, .some (Node.concord_properties hpaired)⟩
  | patternProperties =>
    obtain ⟨ks, es, rfl, hes, rfl⟩ := h
    obtain ⟨ks', rfl⟩ := hvw.eq_obj
    obtain ⟨es', hes', hpaired⟩ := entries_rearranged
      (R := fun m regex => ∃ text, m.1 = .str text ∧ Regex.ofText setup.world.characters text = .ok regex) hmeans hl hvw hv
      (fun m m' regex hkey ⟨text, htext, hregex⟩ => ⟨text, hkey ▸ htext, hregex⟩) hes
    rw [hl.pointer] at hes'
    exact ⟨_, ⟨ks', es', rfl, hes', rfl⟩, .some (Node.concord_patternProperties hpaired)⟩
  | required =>
    obtain ⟨names, hnames, rfl⟩ := h
    exact ⟨_, ⟨names, hvw.texts?_eq ▸ hnames, rfl⟩, hsame⟩
  | items =>
    rcases h with ⟨vs, nodes, rfl, hnodes, rfl⟩ | ⟨harr, n, hn, rfl⟩
    · obtain ⟨ws, rfl⟩ := hvw.eq_arr
      obtain ⟨nodes', hnodes', hconcord⟩ := hnodes.rearranged hmeans hl hvw hv
      rw [hl.pointer] at hnodes'
      exact ⟨_, .inl ⟨ws, nodes', rfl, hnodes', rfl⟩, .some (Node.concord_itemsTuple hconcord)⟩
    · obtain ⟨n', hn', hconcord⟩ := hone hn
      exact ⟨_, .inr ⟨hvw.isArray_eq ▸ harr, n', hn', rfl⟩, .some (Node.concord_items hconcord)⟩
  | uniqueItems =>
    obtain ⟨b, rfl, rfl⟩ := h
    refine ⟨_, ⟨b, hvw.eq_scalar, rfl⟩, ?_⟩
    cases b with
    | true => exact hsame
    | false => exact .none
  | contains =>
    obtain ⟨n, minimum, maximum, hn, hmin, hmax, rfl⟩ := h
    obtain ⟨n', hn', hconcord⟩ := hone hn
    exact ⟨_, ⟨n', minimum, maximum, hn', hmin.rearranged hobj hms, hmax.rearranged hobj hms, rfl⟩,
      .some (Node.concord_contains hconcord)⟩
  | limit relation =>
    obtain ⟨b, hb, rfl⟩ := h
    exact ⟨_, ⟨b, hvw.bound?_eq relation ▸ hb, rfl⟩, hsame⟩
  | size sized lower =>
    obtain ⟨k, hk, rfl⟩ := h
    exact ⟨_, ⟨k, hvw.size?_eq ▸ hk, rfl⟩, hsame⟩
  | pattern =>
    obtain ⟨text, regex, rfl, hregex, rfl⟩ := h
    exact ⟨_, ⟨text, regex, hvw.eq_scalar, hregex, rfl⟩, hsame⟩
  | format =>
    obtain ⟨format, rfl, rfl⟩ := h
    refine ⟨_, ⟨format, hvw.eq_scalar, rfl⟩, ?_⟩
    cases formatNode? setup (l.site (l.pointer.child name)) format with
    | none => exact .none
    | some n => exact hsame
  | default =>
    subst h
    exact ⟨_, rfl, .some (Node.concord_passing (fun _ => rfl) fun _ => rfl)⟩
  | extension =>
    subst h
    refine ⟨_, rfl, .some ?_⟩
    unfold extensionNode
    rw [hplain, hplain, hsite]
    exact Node.concord_passing (fun _ => rfl) fun _ => rfl

/-! ### Children -/

/-- First looks at a member and its rearrangement. -/
inductive Scope.Child.Beside : Scope.Child → Scope.Child → Prop where
  | early {node node' : Option Node} (h : Option.Rel Concord node node') : Beside (.early node) (.early node')
  | late {keyword : Keyword} {name : String} {v w : Value} (hvw : v.Rearranged w) (hv : v.isJson = true) :
    Beside (.late keyword name v) (.late keyword name w)

theorem EarlyOf.rearranged {m m' : Scalar × Value} {child : Scope.Child} (hl : l.Rearranged l')
    (hobj : (Value.obj ms).Rearranged (.obj ns)) (hms : membersJson ms = true) (hm : m ∈ ms) (hmm : MemberRearranged m m')
    (h : EarlyOf setup means leads l ms m child) :
    ∃ child', EarlyOf setup means' leads' l' ns m' child' ∧ child.Beside child' := by
  obtain ⟨name, hname, h⟩ := h
  have hname' : m'.1 = .str name := hmm.1.symm.trans hname
  have hv := (isJson_of_mem hms hm).2
  by_cases hlate : (Keyword.ofName name).isLate = true
  · rw [if_pos hlate] at h
    subst h
    exact ⟨.late (.ofName name) name m'.2, ⟨name, hname', by rw [if_pos hlate]⟩, .late hmm.2 hv⟩
  · rw [if_neg hlate] at h
    obtain ⟨result, hresult, rfl⟩ := h
    obtain ⟨result', hresult', hconcord⟩ := hresult.rearranged hmeans hleads hplain hl hobj hms hmm.2 hv
    refine ⟨.early result', ⟨name, hname', ?_⟩, .early hconcord⟩
    rw [if_neg hlate]
    exact ⟨result', hresult', rfl⟩

omit hmeans hleads hplain

/-- A late keyword is told the same of its neighbours. -/
structure SameNeighbours (siblings siblings' : List Node) : Prop where
  names : ∀ key, key ∈ Scope.knownNames siblings ↔ key ∈ Scope.knownNames siblings'
  patterns : ∀ regex, regex ∈ Scope.knownPatterns siblings ↔ regex ∈ Scope.knownPatterns siblings'
  tupleSize : Scope.tupleSize? siblings = Scope.tupleSize? siblings'

/-- The keys of what is under a name. -/
def keysUnder (name : String) (ms : List (Scalar × Value)) : List Scalar :=
  match lookupKey (.str name) ms with
  | some item => (item.members?.getD []).map (·.1)
  | none => []

theorem Value.Rearranged.mem_keys (h : v.Rearranged w) {key : Scalar} (hkey : key ∈ (v.members?.getD []).map (·.1)) :
    key ∈ (w.members?.getD []).map (·.1) := by
  cases v with
  | obj ms =>
    obtain ⟨ns, rfl⟩ := h.eq_obj
    obtain ⟨m, hm, rfl⟩ := List.mem_map.1 hkey
    obtain ⟨n, hn, hmn, -⟩ := h.exists_mem hm
    exact List.mem_map.2 ⟨n, hn, hmn.symm⟩
  | scalar | arr | set => cases hkey

/-- The keys of what is under a name are the same for both. -/
theorem Value.Rearranged.mem_keysUnder (hobj : (Value.obj ms).Rearranged (.obj ns)) (hms : membersJson ms = true)
    (name : String) (key : Scalar) : key ∈ keysUnder name ms ↔ key ∈ keysUnder name ns := by
  unfold keysUnder
  cases hv : lookupKey (.str name) ms with
  | none => rw [hobj.lookupKey_eq_none hms hv]
  | some v =>
    obtain ⟨w, hw, hvw⟩ := hobj.lookupKey_eq_some hms hv
    rw [hw]
    exact ⟨hvw.mem_keys, hvw.symm.mem_keys⟩

/-- Whatever the order of the members, they are the same neighbours. -/
theorem sameNeighbours {firsts firsts' : List Scope.Child} (hobj : (Value.obj ms).Rearranged (.obj ns))
    (hms : membersJson ms = true) (h : List.Forall₂ (EarlyOf setup means leads l ms) ms firsts)
    (h' : List.Forall₂ (EarlyOf setup means' leads' l' ns) ns firsts') :
    SameNeighbours (firsts.filterMap Scope.Child.node?) (firsts'.filterMap Scope.Child.node?) := by
  have hns : membersJson ns = true := hobj.isJson hms
  have hpatterns := knownPatterns_siblings hms h
  have hpatterns' := knownPatterns_siblings hns h'
  refine ⟨fun key => ?_, fun regex => ⟨fun hregex => ?_, fun hregex => ?_⟩, ?_⟩
  · rw [knownNames_siblings hms h, knownNames_siblings hns h']
    exact hobj.mem_keysUnder hms "properties" key
  · obtain ⟨p, hp, text, rfl, htext⟩ := exists_left_of_forall₂ hpatterns hregex
    obtain ⟨regex', hregex', text', htext', hok⟩ := exists_right_of_forall₂ hpatterns' ((hobj.mem_keysUnder hms _ _).1 hp)
    cases htext'
    rwa [Except.ok.inj (htext.symm.trans hok)]
  · obtain ⟨p, hp, text, rfl, htext⟩ := exists_left_of_forall₂ hpatterns' hregex
    obtain ⟨regex', hregex', text', htext', hok⟩ := exists_right_of_forall₂ hpatterns ((hobj.mem_keysUnder hms _ _).2 hp)
    cases htext'
    rwa [Except.ok.inj (htext.symm.trans hok)]
  · rw [tupleSize?_siblings hms h, tupleSize?_siblings hns h']
    cases hv : lookupKey (.str "items") ms with
    | none => rw [hobj.lookupKey_eq_none hms hv]
    | some v =>
      obtain ⟨w, hw, hvw⟩ := hobj.lookupKey_eq_some hms hv
      rw [hw]
      cases v with
      | arr vs =>
        obtain ⟨ws, rfl⟩ := hvw.eq_arr
        exact congrArg some hvw.items.length_eq
      | scalar a => rw [hvw.eq_scalar]
      | obj ks =>
        obtain ⟨ks', rfl⟩ := hvw.eq_obj
        rfl
      | set es =>
        cases hvw
        rfl

include hmeans

theorem LateOf.rearranged {siblings siblings' : List Node} {child child' : Scope.Child} {result : Option Node}
    (hl : l.Rearranged l') (hsiblings : SameNeighbours siblings siblings') (hchild : child.Beside child')
    (h : LateOf means l siblings child result) :
    ∃ result', LateOf means' l' siblings' child' result' ∧ Option.Rel Concord result result' := by
  cases hchild with
  | early hconcord =>
    cases h
    exact ⟨_, rfl, hconcord⟩
  | @late keyword name v w hvw hv =>
    obtain ⟨n, hn, rfl⟩ := h
    obtain ⟨n', hn', hconcord⟩ := hmeans _ _ n (hl.part hvw hv _) hn
    rw [hl.pointer] at hn'
    refine ⟨_, ⟨n', hn', rfl⟩, .some ?_⟩
    rw [hl.pointer, hl.site]
    unfold neighbourNode
    split
    · exact Node.concord_additionalProperties hconcord hsiblings.names hsiblings.patterns
    · rw [hsiblings.tupleSize]
      exact Node.concord_additionalItems hconcord

include hleads hplain

theorem ChildrenOf.rearranged {children : List Node} (hl : l.Rearranged l') (hobj : (Value.obj ms).Rearranged (.obj ns))
    (hms : membersJson ms = true) (h : ChildrenOf setup means leads l ms children) :
    ∃ children', ChildrenOf setup means' leads' l' ns children' ∧ Paired Concord children children' := by
  obtain ⟨firsts, results, hfirsts, hresults, rfl⟩ := h
  obtain ⟨ks, hks, horder⟩ := hobj.members
  obtain ⟨seconds, firsts', hbeside, horder', -, hfirsts'⟩ := exists_paired hks horder hfirsts
    fun m m' child hm hmm hchild => hchild.rearranged hmeans hleads hplain hl hobj hms hm hmm
  have hsiblings := sameNeighbours hobj hms hfirsts hfirsts'
  obtain ⟨lasts, results', hconcord, horder'', -, hresults'⟩ := exists_paired hbeside horder' hresults
    fun child child' result _ hchild hresult => hresult.rearranged hmeans hl hsiblings hchild
  exact ⟨_, ⟨firsts', results', hfirsts', hresults', rfl⟩, paired_filterMap (paired_of_forall₂ hconcord horder'')⟩

/-! ### Objects -/

omit hmeans hleads hplain in
theorem TitleOf.rearranged {title : Option String} (hobj : (Value.obj ms).Rearranged (.obj ns)) (hms : membersJson ms = true)
    (h : TitleOf ms title) : TitleOf ns title := by
  have hscalar {a : Scalar} (ha : lookupKey (.str "title") ms = some (.scalar a)) :
      lookupKey (.str "title") ns = some (.scalar a) := by
    obtain ⟨w, hw, haw⟩ := hobj.lookupKey_eq_some hms ha
    rw [hw, haw.eq_scalar]
  cases title with
  | none => exact h.imp (hobj.lookupKey_eq_none hms) hscalar
  | some title => exact hscalar h

omit hmeans hleads hplain in
theorem DescriptionOf.rearranged {description : Option String} (hl : l.Rearranged l')
    (hobj : (Value.obj ms).Rearranged (.obj ns)) (hms : membersJson ms = true) (h : DescriptionOf setup l ms description) :
    DescriptionOf setup l' ns description := by
  have hscalar {a : Scalar} (ha : lookupKey (.str "description") ms = some (.scalar a)) :
      lookupKey (.str "description") ns = some (.scalar a) := by
    obtain ⟨w, hw, haw⟩ := hobj.lookupKey_eq_some hms ha
    rw [hw, haw.eq_scalar]
  cases description with
  | none => exact h.imp (hobj.lookupKey_eq_none hms) hscalar
  | some description =>
    rcases h with h | ⟨ref, uri, text, href, huri, htext⟩
    · exact .inl (hscalar h)
    · obtain ⟨w, hw, hvw⟩ := hobj.lookupKey_eq_some hms href
      rw [hvw.eq_single] at hw
      rw [hl.base] at huri
      exact .inr ⟨ref, uri, text, hw, huri, htext⟩

/-- For rearranged members a node is built that is in concord. -/
theorem Built.rearranged {n : Node} (hl : l.Rearranged l') (h : Built setup means leads l n) :
    ∃ n', Built setup means' leads' l' n' ∧ n.Concord n' := by
  have hsite {l l' : Location} (hl : l.Rearranged l') : l.site l.pointer = l'.site l'.pointer := by rw [hl.pointer, hl.site]
  unfold Built at h ⊢
  split at h
  · rename_i b hvalue
    have hvalue' := hl.value
    rw [hvalue] at hvalue'
    rw [hvalue'.eq_scalar, h, hsite hl]
    exact ⟨_, rfl, concord_self _⟩
  · rename_i ms hvalue
    obtain ⟨hroot, inner, hinner, h⟩ := h
    obtain ⟨ns, hns, hobj, hms⟩ := hl.members hvalue
    obtain ⟨inner', hinner', hrearranged⟩ := hl.inner hobj hms hinner
    have hroot' : hasKey (.str "$schema") ns = true → l'.pointer.isRoot = true := by
      rw [hasKey, ← hobj.isSome_found hms, ← hl.pointer]
      exact hroot
    rw [hns]
    dsimp only
    by_cases hreplaced : l.isReplaced ms = true
    · rw [if_pos hreplaced] at h
      obtain ⟨ref, r, href, hr, rfl⟩ := h
      obtain ⟨ref', href', hrefs⟩ := hobj.lookupKey_eq_some hms href
      obtain ⟨r', hr', hconcord⟩ := hr.rearranged hmeans hleads hrearranged hrefs
      refine ⟨.group (l'.site l'.pointer) [r'] none none (some Dialect.draft07.uri), ⟨hroot', inner', hinner', ?_⟩, ?_⟩
      · rw [← hl.isReplaced hobj hms, if_pos hreplaced]
        exact ⟨ref', r', href', hr', rfl⟩
      · exact Node.concord_group (paired_of_forall₂ (.cons hconcord .nil) (.refl _))
    · rw [if_neg hreplaced] at h
      obtain ⟨title, description, children, htitle, hdescription, hchildren, rfl⟩ := h
      obtain ⟨children', hchildren', hpaired⟩ := hchildren.rearranged hmeans hleads hplain hrearranged hobj hms
      refine ⟨.group (inner'.site inner'.pointer) children' title description (inner'.dialect.map Dialect.uri),
        ⟨hroot', inner', hinner', ?_⟩, ?_⟩
      · rw [← hl.isReplaced hobj hms, if_neg hreplaced]
        exact ⟨title, description, children', htitle.rearranged hobj hms, hdescription.rearranged hrearranged hobj hms,
          hchildren', rfl⟩
      · exact Node.concord_group hpaired
  · exact h.elim

end Build

/-! ### What is filed -/

/-- Where a node is filed for the one document, one is filed for the other that is in concord. -/
theorem Document.Files.rearranged {setup : Setup} {d d' : Document} {root root' : Location} {p : Place} {n : Node}
    (hplain : ∀ name base path value, setup.keyword name base path value = none) (h : d.Rearranged d') (hd : d.Contained)
    (hroot : root.Rearranged root') (hroot' : d'.Has root') (hn : d.Files setup root p n) :
    ∃ n', d'.Files setup root' p n' ∧ n.Concord n' := by
  refine hn.induction (R := fun p n => ∃ n', d'.Files setup root' p n' ∧ n.Concord n') fun l n hl hn => ?_
  obtain ⟨l', hl', hll⟩ := h.visits hd hroot hroot' hl
  have hmeans (t t' : Location) (m : Node) (htt : t.Rearranged t')
      (hm : Filed setup (d.Visits setup root) d.Leads t.place m ∧ ∃ m', d'.Files setup root' t.place m' ∧ m.Concord m') :
      ∃ m', d'.Files setup root' t'.place m' ∧ m.Concord m' := htt.place ▸ hm.2
  have hleads (l l' : Location) (ref : String) (t : Location) (fragment : Option String) (hll : l.Rearranged l')
      (ht : d.Leads l ref t fragment) : ∃ t', d'.Leads l' ref t' fragment ∧ t.Rearranged t' := h.leads hd.toDistinct hll ht
  obtain ⟨n', hn', hconcord⟩ := Built.rearranged hmeans hleads hplain hll hn
  refine ⟨n', ?_, hconcord⟩
  rw [hll.place]
  exact Filed.of_built hl' hn'

end Conform
