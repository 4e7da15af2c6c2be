import Conform.Proofs.Compile.Filed
import Conform.Proofs.Json.Decoded

/-!
# What the node of a location is made from

A built node is made from nodes of all the parts of its location and of the target of its reference (`Built.part`,
`Built.reference`), and there is one node at most that is made from given ones (`Built.unique`).  So two accounts of what
can come to be filed agree on a location, if they agree on where the references lead that are followed on its behalf
(`Filed.agree`).
-/

namespace Conform

variable {setup : Setup} {means means' : Location → Node → Prop}
  {leads leads' : Location → String → Location → Option String → Prop} {l sub : Location}
  {members : List (Scalar × Value)}

/-! ### What a node is made from -/

theorem PartsOf.part {path : Pointer} {vs : List Value} {ns : List Node} (h : PartsOf means l path vs ns)
    (hsub : sub ∈ l.parts path vs) : ∃ n, means sub n := by
  obtain ⟨vi, hvi, rfl⟩ := List.mem_map.1 hsub
  obtain ⟨n, -, hn⟩ := exists_right_of_forall₂ h hvi
  exact ⟨n, hn⟩

theorem BranchOf.part {name : String} {branch : Option Node} (h : BranchOf means l members name branch)
    (hsub : sub ∈ l.branch members name) : ∃ n, means sub n := by
  obtain ⟨v, hv, rfl⟩ := Option.map_eq_some_iff.1 (Option.mem_toList.1 hsub)
  cases branch with
  | none =>
    rw [BranchOf, hv] at h
    cases h
  | some n =>
    obtain ⟨w, hw, hn⟩ := h
    rw [hv] at hw
    cases hw
    exact ⟨n, hn⟩

theorem KeywordOf.part {keyword : Keyword} {name : String} {value : Value} {result : Option Node}
    (h : KeywordOf setup means leads l members keyword name value result) (hlate : keyword.isLate = false)
    (hsub : sub ∈ l.keywordParts members keyword name value) : ∃ n, means sub n := by
  cases keyword with
  | passive | reference | type | enum | const | required | uniqueItems | limit | size | pattern | format | default
    | extension | unknown => simp [Location.keywordParts] at hsub
  | additionalProperties | additionalItems => cases hlate
  | combination counting =>
    obtain ⟨vs, ns, rfl, -, hns, -⟩ := h
    exact hns.part hsub
  | negation | propertyNames =>
    obtain ⟨n, hn, -⟩ := h
    exact ⟨n, List.mem_singleton.1 hsub ▸ hn⟩
  | condition =>
    obtain ⟨t, e, c, ht, he, hc, -⟩ := h
    simp only [Location.keywordParts, List.mem_append, List.mem_singleton] at hsub
    rcases hsub with (hsub | hsub) | rfl
    · exact ht.part hsub
    · exact he.part hsub
    · exact ⟨c, hc⟩
  | properties | patternProperties =>
    obtain ⟨ms, es, rfl, hes, -⟩ := h
    obtain ⟨m, hm, rfl⟩ := List.mem_map.1 hsub
    obtain ⟨e, -, -, hn⟩ := exists_right_of_forall₂ hes hm
    exact ⟨e.2, hn⟩
  | items =>
    rcases h with ⟨vs, ns, rfl, hns, -⟩ | ⟨harr, n, hn, -⟩
    · exact hns.part hsub
    · cases value with
      | arr vs => cases harr
      | scalar | obj | set => exact ⟨n, List.mem_singleton.1 hsub ▸ hn⟩
  | contains =>
    obtain ⟨n, minimum, maximum, hn, -⟩ := h
    exact ⟨n, List.mem_singleton.1 hsub ▸ hn⟩

theorem ChildrenOf.part {children : List Node} (h : ChildrenOf setup means leads l members children)
    (hsub : sub ∈ l.subschemas members) : ∃ n, means sub n := by
  obtain ⟨firsts, results, hfirsts, hresults, -⟩ := h
  obtain ⟨member, hmember, hsub⟩ := List.mem_flatMap.1 hsub
  obtain ⟨child, hchild, name, hname, hearly⟩ := exists_right_of_forall₂ hfirsts hmember
  obtain ⟨key, value⟩ := member
  cases hname
  have hsub : sub ∈ l.keywordParts members (.ofName name) name value := hsub
  split at hearly
  · rename_i hlate
    subst hearly
    obtain ⟨result, -, n, hn, -⟩ := exists_right_of_forall₂ hresults hchild
    rw [Location.keywordParts_of_isLate hlate, List.mem_singleton] at hsub
    exact ⟨n, hsub ▸ hn⟩
  · rename_i hlate
    obtain ⟨result, hresult, -⟩ := hearly
    exact hresult.part (by simpa using hlate) hsub

/-- A node is made from nodes of all parts of its location. -/
theorem Built.part {n : Node} {inner : Location} (h : Built setup means leads l n) (hvalue : l.value = .obj members)
    (hreplaced : l.isReplaced members = false) (hinner : l.Inner members inner)
    (hsub : sub ∈ inner.subschemas members) : ∃ m, means sub m := by
  rw [Built, hvalue] at h
  obtain ⟨-, inner', hinner', h⟩ := h
  cases hinner.unique hinner'
  rw [if_neg (by simp [hreplaced])] at h
  obtain ⟨_, _, children, -, -, hchildren, -⟩ := h
  exact hchildren.part hsub

/-- A node is made from the node that the reference of its location leads to. -/
theorem Built.reference {n : Node} {inner : Location} {ref : String} (h : Built setup means leads l n)
    (hvalue : l.value = .obj members) (hinner : l.Inner members inner)
    (href : lookupKey (.str "$ref") members = some (.str ref)) : ∃ t fragment m, leads inner ref t fragment ∧ means t m := by
  rw [Built, hvalue] at h
  obtain ⟨-, inner', hinner', h⟩ := h
  cases hinner.unique hinner'
  have hreference : ∃ r, ReferenceOf means leads inner (.str ref) r := by
    split at h
    · obtain ⟨value, r, href', hr, -⟩ := h
      rw [href] at href'
      cases href'
      exact ⟨r, hr⟩
    · exact h.reference (mem_of_lookupKey href)
  obtain ⟨r, ref', t, fragment, m, href, hleads, hm, -⟩ := hreference
  cases href
  exact ⟨t, fragment, m, hleads, hm⟩

/-! ### One node at most -/

/-- What references at a location lead to is one node, with one fragment. -/
abbrev OneTarget (means means' : Location → Node → Prop)
    (leads leads' : Location → String → Location → Option String → Prop) (l : Location) (ref : String) : Prop :=
  ∀ t fragment n t' fragment' n', leads l ref t fragment → means t n → leads' l ref t' fragment' → means' t' n' →
    fragment = fragment' ∧ n = n'

/-- What is meant by the location is one node. -/
abbrev OneNode (means means' : Location → Node → Prop) (l : Location) : Prop :=
  ∀ n n', means l n → means' l n' → n = n'

theorem ReferenceOf.unique {value : Value} {n n' : Node} (h : ReferenceOf means leads l value n)
    (h' : ReferenceOf means' leads' l value n')
    (hone : ∀ ref, value = .str ref → OneTarget means means' leads leads' l ref) : n = n' := by
  obtain ⟨ref, t, fragment, m, rfl, hleads, hm, rfl⟩ := h
  obtain ⟨ref', t', fragment', m', href, hleads', hm', rfl⟩ := h'
  cases href
  obtain ⟨rfl, rfl⟩ := hone ref rfl _ _ _ _ _ _ hleads hm hleads' hm'
  rfl

theorem PartsOf.unique {path : Pointer} {vs : List Value} {ns ns' : List Node} (h : PartsOf means l path vs ns)
    (h' : PartsOf means' l path vs ns') (hone : ∀ sub ∈ l.parts path vs, OneNode means means' sub) : ns = ns' :=
  forall₂_unique h h' fun _ hvi => hone _ (Location.part_mem_parts hvi)

theorem BranchOf.unique {name : String} {branch branch' : Option Node} (h : BranchOf means l members name branch)
    (h' : BranchOf means' l members name branch') (hone : ∀ sub ∈ l.branch members name, OneNode means means' sub) :
    branch = branch' := by
  cases branch with
  | none =>
    cases branch' with
    | none => rfl
    | some n' =>
      obtain ⟨v, hv, -⟩ := h'
      rw [BranchOf, hv] at h
      cases h
  | some n =>
    obtain ⟨v, hv, hn⟩ := h
    cases branch' with
    | none =>
      rw [BranchOf, hv] at h'
      cases h'
    | some n' =>
      obtain ⟨v', hv', hn'⟩ := h'
      rw [hv] at hv'
      cases hv'
      rw [hone _ (by simp [Location.branch, hv]) n n' hn hn']

theorem SizeUnder.unique {name : String} {size size' : Option Int} (h : SizeUnder members name size)
    (h' : SizeUnder members name size') : size = size' := by
  cases size with
  | none =>
    cases size' with
    | none => rfl
    | some k' =>
      obtain ⟨v, hv, -⟩ := h'
      rw [SizeUnder, hv] at h
      cases h
  | some k =>
    obtain ⟨v, hv, hk⟩ := h
    cases size' with
    | none =>
      rw [SizeUnder, hv] at h'
      cases h'
    | some k' =>
      obtain ⟨v', hv', hk'⟩ := h'
      rw [hv] at hv'
      cases hv'
      rw [← hk, hk']

/-- A keyword has one node at most. -/
theorem KeywordOf.unique {keyword : Keyword} {name : String} {value : Value} {result result' : Option Node}
    (h : KeywordOf setup means leads l members keyword name value result)
    (h' : KeywordOf setup means' leads' l members keyword name value result')
    (hparts : ∀ sub ∈ l.keywordParts members keyword name value, OneNode means means' sub)
    (hreference : keyword = .reference → ∀ ref, value = .str ref → OneTarget means means' leads leads' l ref) :
    result = result' := by
  cases keyword with
  | passive | unknown | additionalProperties | additionalItems | const | default | extension => exact h.trans h'.symm
  | reference =>
    obtain ⟨n, hn, rfl⟩ := h
    obtain ⟨n', hn', rfl⟩ := h'
    rw [hn.unique hn' (hreference rfl)]
  | combination counting =>
    obtain ⟨vs, ns, rfl, -, hns, rfl⟩ := h
    obtain ⟨vs', ns', hvs, -, hns', rfl⟩ := h'
    cases hvs
    rw [hns.unique hns' hparts]
  | negation | propertyNames =>
    obtain ⟨n, hn, rfl⟩ := h
    obtain ⟨n', hn', rfl⟩ := h'
    rw [hparts _ (List.mem_singleton.2 rfl) n n' hn hn']
  | condition =>
    obtain ⟨t, e, c, ht, he, hc, rfl⟩ := h
    obtain ⟨t', e', c', ht', he', hc', rfl⟩ := h'
    rw [ht.unique ht' fun sub hsub => hparts sub (by simp [Location.keywordParts, hsub]),
      he.unique he' fun sub hsub => hparts sub (by simp [Location.keywordParts, hsub]),
      hparts _ (by simp [Location.keywordParts]) c c' hc hc']
  | type | required =>
    obtain ⟨names, hnames, rfl⟩ := h
    obtain ⟨names', hnames', rfl⟩ := h'
    rw [hnames] at hnames'
    cases hnames'
    rfl
  | enum =>
    obtain ⟨vs, rfl, rfl⟩ := h
    obtain ⟨vs', hvs, rfl⟩ := h'
    cases hvs
    rfl
  | properties =>
    obtain ⟨ms, es, rfl, hes, rfl⟩ := h
    obtain ⟨ms', es', hms, hes', rfl⟩ := h'
    cases hms
    have heq : es = es' := forall₂_unique hes hes' fun m hm e e' he he' => by
      exact Prod.ext (he.1.trans he'.1.symm) (hparts _ (List.mem_map_of_mem hm) e.2 e'.2 he.2 he'.2)
    rw [heq]
  | patternProperties =>
    obtain ⟨ms, es, rfl, hes, rfl⟩ := h
    obtain ⟨ms', es', hms, hes', rfl⟩ := h'
    cases hms
    have heq : es = es' := forall₂_unique hes hes' fun m hm e e' he he' => by
      obtain ⟨⟨text, htext, hregex⟩, hn⟩ := he
      obtain ⟨⟨text', htext', hregex'⟩, hn'⟩ := he'
      rw [htext] at htext'
      cases htext'
      rw [hregex] at hregex'
      exact Prod.ext (Except.ok.inj hregex') (hparts _ (List.mem_map_of_mem hm) e.2 e'.2 hn hn')
    rw [heq]
  | items =>
    rcases h with ⟨vs, ns, rfl, hns, rfl⟩ | ⟨harr, n, hn, rfl⟩
    · rcases h' with ⟨vs', ns', hvs, hns', rfl⟩ | ⟨harr, -⟩
      · cases hvs
        rw [hns.unique hns' hparts]
      · cases harr
    · rcases h' with ⟨vs', ns', rfl, -⟩ | ⟨-, n', hn', rfl⟩
      · cases harr
      · have hpart : l.part (l.pointer.child name) value ∈ l.keywordParts members .items name value := by
          cases value with
          | arr vs => cases harr
          | scalar | obj | set => exact List.mem_singleton.2 rfl
        rw [hparts _ hpart n n' hn hn']
  | uniqueItems =>
    obtain ⟨b, rfl, rfl⟩ := h
    obtain ⟨b', hb, rfl⟩ := h'
    cases hb
    rfl
  | contains =>
    obtain ⟨n, minimum, maximum, hn, hmin, hmax, rfl⟩ := h
    obtain ⟨n', minimum', maximum', hn', hmin', hmax', rfl⟩ := h'
    rw [hparts _ (List.mem_singleton.2 rfl) n n' hn hn', hmin.unique hmin', hmax.unique hmax']
  | limit relation =>
    obtain ⟨b, hb, rfl⟩ := h
    obtain ⟨b', hb', rfl⟩ := h'
    rw [hb] at hb'
    cases hb'
    rfl
  | size sized lower =>
    obtain ⟨k, hk, rfl⟩ := h
    obtain ⟨k', hk', rfl⟩ := h'
    rw [hk] at hk'
    cases hk'
    rfl
  | pattern =>
    obtain ⟨text, regex, rfl, hregex, rfl⟩ := h
    obtain ⟨text', regex', htext, hregex', rfl⟩ := h'
    cases htext
    rw [hregex] at hregex'
    cases hregex'
    rfl
  | format =>
    obtain ⟨format, rfl, rfl⟩ := h
    obtain ⟨format', hformat, rfl⟩ := h'
    cases hformat
    rfl

theorem ChildrenOf.unique {children children' : List Node} (h : ChildrenOf setup means leads l members children)
    (h' : ChildrenOf setup means' leads' l members children')
    (hparts : ∀ sub ∈ l.subschemas members, OneNode means means' sub)
    (hreference : ∀ ref, (.str "$ref", .str ref) ∈ members → OneTarget means means' leads leads' l ref) :
    children = children' := by
  obtain ⟨firsts, results, hfirsts, hresults, rfl⟩ := h
  obtain ⟨firsts', results', hfirsts', hresults', rfl⟩ := h'
  have heq : firsts = firsts' := forall₂_unique hfirsts hfirsts' fun member hmember child child' hchild hchild' => by
    obtain ⟨key, value⟩ := member
    obtain ⟨name, hname, hchild⟩ := hchild
    obtain ⟨name', hname', hchild'⟩ := hchild'
    cases hname
    cases hname'
    split at hchild
    · rw [if_pos ‹_›] at hchild'
      rw [hchild, hchild']
    · rw [if_neg ‹_›] at hchild'
      obtain ⟨result, hresult, rfl⟩ := hchild
      obtain ⟨result', hresult', rfl⟩ := hchild'
      rw [hresult.unique hresult' (fun sub hsub => hparts sub (List.mem_flatMap.2 ⟨_, hmember, hsub⟩))
        fun href ref hvalue => hreference ref (hvalue ▸ Keyword.eq_ref_of_ofName href ▸ hmember)]
  subst heq
  have heq : results = results' := forall₂_unique hresults hresults' fun child hchild result result' h h' => by
    cases child with
    | early node => exact Eq.trans h (Eq.symm h')
    | late keyword name value =>
      obtain ⟨n, hn, rfl⟩ := h
      obtain ⟨n', hn', rfl⟩ := h'
      rw [hparts _ (Scope.part_of_late hfirsts hchild) n n' hn hn']
  rw [heq]

theorem TitleOf.unique {title title' : Option String} (h : TitleOf members title) (h' : TitleOf members title') :
    title = title' := by
  cases title with
  | none =>
    cases title' with
    | none => rfl
    | some title' => rcases h with h | h <;> rw [TitleOf, h] at h' <;> cases h'
  | some title =>
    cases title' with
    | none => rcases h' with h' | h' <;> rw [TitleOf, h'] at h <;> cases h
    | some title' =>
      rw [TitleOf, h] at h'
      cases h'
      rfl

theorem TextUnder.unique {w : World} {uri text text' : String} (h : TextUnder w uri text) (h' : TextUnder w uri text') :
    text = text' := by
  obtain ⟨loader, hl⟩ := h
  obtain ⟨loader', hl'⟩ := h'
  rw [Loader.settled_readText loader loader', hl'] at hl
  exact (Except.ok.inj hl).symm

theorem DescriptionOf.unique {description description' : Option String} (h : DescriptionOf setup l members description)
    (h' : DescriptionOf setup l members description') : description = description' := by
  have hnone : ∀ {d}, DescriptionOf setup l members none → DescriptionOf setup l members (some d) → False := by
    rintro d (h | h) (h' | ⟨ref, uri, text, h', -⟩) <;> rw [h] at h' <;> cases h'
  cases description with
  | none =>
    cases description' with
    | none => rfl
    | some d' => exact (hnone h h').elim
  | some d =>
    cases description' with
    | none => exact (hnone h' h).elim
    | some d' =>
      rcases h with h | ⟨ref, uri, text, h, huri, htext, rfl⟩
      · rcases h' with h' | ⟨ref', uri', text', h', -⟩
        · rw [h] at h'
          cases h'
          rfl
        · rw [h] at h'
          cases h'
      · rcases h' with h' | ⟨ref', uri', text', h', huri', htext', rfl⟩
        · rw [h] at h'
          cases h'
        · rw [h] at h'
          cases h'
          rw [huri] at huri'
          cases huri'
          rw [htext.unique htext']

/-- There is one node at most that is built for a location from given ones. -/
theorem Built.unique {n n' : Node} (h : Built setup means leads l n) (h' : Built setup means' leads' l n')
    (hparts : ∀ members inner, l.value = .obj members → l.isReplaced members = false → l.Inner members inner →
      ∀ sub ∈ inner.subschemas members, OneNode means means' sub)
    (hreference : ∀ members inner ref, l.value = .obj members → l.Inner members inner →
      (.str "$ref", .str ref) ∈ members → OneTarget means means' leads leads' inner ref) : n = n' := by
  unfold Built at h h'
  split at h
  · rename_i allows hvalue
    rw [hvalue] at h'
    exact h.trans h'.symm
  · rename_i members hvalue
    rw [hvalue] at h'
    obtain ⟨-, inner, hinner, h⟩ := h
    obtain ⟨-, inner', hinner', h'⟩ := h'
    cases hinner.unique hinner'
    split at h
    · rw [if_pos ‹_›] at h'
      obtain ⟨ref, r, href, hr, rfl⟩ := h
      obtain ⟨ref', r', href', hr', rfl⟩ := h'
      rw [href] at href'
      cases href'
      rw [hr.unique hr' fun text htext => hreference members inner text hvalue hinner
        (htext ▸ mem_of_lookupKey href)]
    · rename_i hreplaced
      rw [if_neg hreplaced] at h'
      have hreplaced : l.isReplaced members = false := by simpa using hreplaced
      obtain ⟨title, description, children, htitle, hdescription, hchildren, rfl⟩ := h
      obtain ⟨title', description', children', htitle', hdescription', hchildren', rfl⟩ := h'
      rw [htitle.unique htitle', hdescription.unique hdescription',
        hchildren.unique hchildren' (hparts members inner hvalue hreplaced hinner) fun ref hmem =>
          hreference members inner ref hvalue hinner hmem]
  · exact h.elim

/-! ### One node under two accounts -/

/-- The location in the document that another name stands for. -/
def Location.renamed (f : Document → Document) (l : Location) : Location := { l with document := f l.document }

section Renamed

variable {f : Document → Document} {n : Node}

theorem Location.subschemas_renamed :
    (l.renamed f).subschemas members = (l.subschemas members).map (Location.renamed f) := by
  have hparts : ∀ path vs, (l.renamed f).parts path vs = (l.parts path vs).map (Location.renamed f) := by
    intro path vs
    simp only [parts, List.map_map]
    rfl
  have hentries : ∀ path ms, (l.renamed f).entries path ms = (l.entries path ms).map (Location.renamed f) := by
    intro path ms
    simp only [entries, List.map_map]
    rfl
  have hbranch : ∀ name, (l.renamed f).branch members name = (l.branch members name).map (Location.renamed f) := by
    intro name
    unfold branch
    cases lookupKey (.str name) members <;> rfl
  unfold subschemas
  rw [List.map_flatMap]
  -- To rename a location leaves its members as they are, so the parts are compared member by member.
  refine List.flatMap_congr fun member _ => ?_
  obtain ⟨key, value⟩ := member
  cases key with
  | null | bool | num | bytes => rfl
  | str name =>
    unfold memberParts keywordParts
    dsimp only
    split
    · exact hparts _ _
    · exact hparts _ _
    · exact hentries _ _
    · exact hentries _ _
    · rw [hbranch, hbranch, List.map_append, List.map_append]
      rfl
    all_goals rfl

theorem Location.Inner.renamed {inner : Location} (f : Document → Document) (h : l.Inner members inner) :
    (l.renamed f).Inner members (inner.renamed f) := by
  unfold Inner at h ⊢
  have hreplaced : (l.renamed f).isReplaced members = l.isReplaced members := rfl
  rw [hreplaced]
  split
  · rw [if_pos ‹_›] at h
    rw [h]
  · rw [if_neg ‹_›] at h
    obtain ⟨base, hbase, rfl⟩ := h
    exact ⟨base, hbase, rfl⟩

theorem Location.Inner.of_renamed {inner : Location} (h : (l.renamed f).Inner members inner) :
    ∃ own, l.Inner members own ∧ inner = own.renamed f := by
  have hreplaced : (l.renamed f).isReplaced members = l.isReplaced members := rfl
  unfold Inner at h
  rw [hreplaced] at h
  split at h
  · rename_i hreplaced
    exact ⟨l, by rw [Inner, if_pos hreplaced], h⟩
  · rename_i hreplaced
    obtain ⟨base, hbase, rfl⟩ := h
    exact ⟨{ l with base }, by rw [Inner, if_neg hreplaced]; exact ⟨base, hbase, rfl⟩, rfl⟩

private theorem ReferenceOf.of_renamed (hf : Function.Involutive f) {value : Value}
    (h : ReferenceOf means leads (l.renamed f) value n) :
    ReferenceOf (fun t m => means (t.renamed f) m) (fun t ref u => leads (t.renamed f) ref (u.renamed f)) l value n := by
  obtain ⟨ref, t, fragment, m, rfl, ht, hm, rfl⟩ := h
  have htwice : (t.renamed f).renamed f = t := by
    rw [Location.renamed, Location.renamed, hf t.document]
  rw [← htwice] at ht hm
  exact ⟨ref, t.renamed f, fragment, m, rfl, ht, hm, rfl⟩

/-- The node of a location does not depend on the name of its document, but for what its parts mean and where its
references lead. -/
theorem Built.of_renamed (hf : Function.Involutive f) (h : Built setup means leads (l.renamed f) n) :
    Built setup (fun t m => means (t.renamed f) m) (fun t ref u => leads (t.renamed f) ref (u.renamed f)) l n := by
  have hkeyword : ∀ {l : Location} {members keyword name value result},
      KeywordOf setup means leads (l.renamed f) members keyword name value result →
      KeywordOf setup (fun t m => means (t.renamed f) m) (fun t ref u => leads (t.renamed f) ref (u.renamed f)) l members
        keyword name value result := by
    intro l members keyword name value result h
    cases keyword with
    | reference =>
      obtain ⟨r, hr, rfl⟩ := h
      exact ⟨r, hr.of_renamed hf, rfl⟩
    | _ => exact h
  unfold Built at h ⊢
  have hvalue : (l.renamed f).value = l.value := rfl
  rw [hvalue] at h
  split at h
  · exact h
  · rename_i members _
    obtain ⟨hroot, inner, hinner, h⟩ := h
    obtain ⟨own, hown, rfl⟩ := hinner.of_renamed
    have hreplaced : (l.renamed f).isReplaced members = l.isReplaced members := rfl
    refine ⟨hroot, own, hown, ?_⟩
    split
    · rw [hreplaced, if_pos ‹_›] at h
      obtain ⟨ref, r, href, hr, rfl⟩ := h
      exact ⟨ref, r, href, hr.of_renamed hf, rfl⟩
    · rw [hreplaced, if_neg ‹_›] at h
      obtain ⟨title, description, children, htitle, hdescription, ⟨firsts, results, hfirsts, hresults, hchildren⟩, rfl⟩ := h
      refine ⟨title, description, children, htitle, hdescription, ⟨firsts, results, ?_, hresults, hchildren⟩, rfl⟩
      refine hfirsts.imp fun member child ⟨name, hname, hearly⟩ => ⟨name, hname, ?_⟩
      split
      · rwa [if_pos ‹_›] at hearly
      · rw [if_neg ‹_›] at hearly
        obtain ⟨result, hresult, hchild⟩ := hearly
        exact ⟨result, hkeyword hresult, hchild⟩
  · exact h.elim

end Renamed

/-- Two accounts file one node for a location, whose document has a name under each of them, if from there on their
references lead to the same. -/
theorem Filed.agree {good good' : Location → Prop} {f : Document → Document} (hf : Function.Involutive f)
    (T : Location → Prop) (hplace : ∀ l l', T l → good l' → l.place = l'.place → l = l')
    (hplace' : ∀ l l', T l → good' l' → (l.renamed f).place = l'.place → l.renamed f = l')
    (hgoes : ∀ l n t, T l → Built setup (fun t m => Filed setup good leads t.place m) leads l n → l.Goes leads t → T t)
    (hleads : ∀ l members inner ref t fragment t' fragment', T l → l.value = .obj members → l.Inner members inner →
      (.str "$ref", .str ref) ∈ members → leads inner ref t fragment → leads' (inner.renamed f) ref t' fragment' →
      t' = t.renamed f ∧ fragment = fragment')
    {n n' : Node} (hl : T l) (h : Filed setup good leads l.place n) (h' : Filed setup good' leads' (l.renamed f).place n') :
    n = n' := by
  refine h.induction (R := fun p n => ∀ l, T l → l.place = p → ∀ n',
    Filed setup good' leads' (l.renamed f).place n' → n = n') ?_ l hl rfl n' h'
  intro l n hgood hn l₀ hl₀ hp n' hn'
  cases hplace l₀ l hl₀ hgood hp
  have hgoes := fun t => hgoes l n t hl₀ (hn.mono (fun _ _ h => h.1) fun _ _ _ _ h => h)
  obtain ⟨l', hgood', hp', hbuilt'⟩ := hn'.cases
  cases hplace' l l' hl₀ hgood' hp'.symm
  refine hn.unique (hbuilt'.of_renamed hf) (fun members inner hvalue hreplaced hinner sub hsub m m' hm hm' => ?_) ?_
  · exact hm.2 sub (hgoes sub (.part hvalue hreplaced hinner hsub)) rfl m' hm'
  · intro members inner ref hvalue hinner href t fragment m t' fragment' m' ht hm ht' hm'
    obtain ⟨heq, rfl⟩ := hleads l members inner ref t fragment _ fragment' hl₀ hvalue hinner href ht ht'
    rw [heq] at hm'
    exact ⟨rfl, hm.2 t (hgoes t (.reference hvalue hinner href ht)) rfl m' hm'⟩

end Conform
