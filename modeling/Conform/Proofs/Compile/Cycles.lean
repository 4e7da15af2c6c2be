import Mathlib.Logic.Relation
import Conform.Proofs.Compile.Depth
import Conform.Proofs.Compile.Order

/-!
# Cycles

The places that a compilation comes to make a graph, in which each place leads to those of its parts and of the target of
its reference (`Session.Edge`).  Where all that is reached passes the checks and all references resolve, the compilation
ends with a schema if there is no cycle in the graph, and fails at a place on a cycle if there is one
(`Schema.returns_compileAt_iff`).
-/

namespace Conform

open Library (AtHand)

/-- What is accessible is on no cycle. -/
theorem not_transGen_of_acc {α : Type} {r : α → α → Prop} {a : α} (h : Acc (fun b a => r a b) a) :
    ¬Relation.TransGen r a a := by
  induction h with
  | intro a _ ih =>
    intro hcycle
    obtain ⟨b, hab, hback⟩ := Relation.TransGen.head'_iff.1 hcycle
    exact ih b hab (Relation.TransGen.tail' hback hab)

namespace Session

variable {setup : Setup} {t : Session} {root l x : Location} {p q : Place} {n : Node}

/-- From the one place the compilation goes on to the other right away. -/
def Edge (t : Session) (root : Location) (p q : Place) : Prop :=
  ∃ l x, t.ComesTo root l ∧ l.place = p ∧ Location.Goes t.Leads l x ∧ x.place = q

/-- Where a place leads does not depend on the way on which the compilation has come to it. -/
def Placed (t : Session) (root : Location) : Prop :=
  ∀ l l' x, t.ComesTo root l → t.ComesTo root l' → l.place = l'.place → Location.Goes t.Leads l x →
    ∃ x', Location.Goes t.Leads l' x' ∧ x'.place = x.place

/-- The location passes the checks of its keywords, and its samples, if they are checked, can be evaluated. -/
def Clears (setup : Setup) (t : Session) (root l : Location) : Prop :=
  Passes setup l ∧ ∀ members n e, l.value = .obj members → Filed setup (t.ComesTo root) t.Leads l.place n →
    ¬Scope.SampleFails setup.options l.pointer members n e

/-- The reference leads somewhere, or the document that it names is to be had and has not been loaded so far. -/
def Resolves (w : World) (t : Session) (l : Location) (ref : String) : Prop :=
  (∃ x fragment, t.Leads l ref x fragment) ∨
    ∃ full uri fragment, resolveUri l.base ref = .ok full ∧ Uri.splitFragment full = (uri, fragment) ∧
      uri.isEmpty = false ∧ t.homes.lookup uri = none ∧ ∀ e, ¬Loader.Lacks w uri e

/-- A reference leads to one location at most. -/
theorem unique_target {ref : String} {fragment fragment' : Option String} {x' : Location} (h : t.Leads l ref x fragment)
    (h' : t.Leads l ref x' fragment') : x = x' ∧ fragment = fragment' :=
  TargetOf.unique (fun _ uri _ home home' _ _ => t.unambiguous_names _ uri home home') h h'

/-- A way from location to location is one from place to place. -/
theorem transGen_edge (hl : t.ComesTo root l) (h : Relation.TransGen (Location.Goes t.Leads) l x) :
    Relation.TransGen (t.Edge root) l.place x.place := by
  induction h with
  | single hgo => exact .single ⟨l, _, hl, rfl, hgo, rfl⟩
  | tail hway hgo ih => exact ih.tail ⟨_, _, hl.trans hway.to_reflTransGen, rfl, hgo, rfl⟩

/-- All that the compilation comes to passes the checks, and all its references resolve. -/
structure Proper (setup : Setup) (t : Session) (root : Location) : Prop where
  keys : ∀ l members, t.ComesTo root l → l.value = .obj members → (members.map Prod.fst).Nodup
  clears : ∀ l, t.ComesTo root l → t.Clears setup root l
  resolves : ∀ l members inner ref, t.ComesTo root l → l.value = .obj members → l.Inner members inner →
    (.str "$ref", .str ref) ∈ members → t.Resolves setup.world inner ref

section Filed

variable (hproper : t.Proper setup root)

include hproper

/-- Where a location has been built, what it goes on to is meant. -/
theorem exists_means_of_goes {means : Location → Node → Prop} (hl : t.ComesTo root l) (h : Built setup means t.Leads l n)
    (hgo : Location.Goes t.Leads l x) : ∃ m, means x m := by
  cases hgo with
  | part hvalue hreplaced hinner hsub => exact h.part hvalue hreplaced hinner hsub
  | @reference members inner x ref fragment hvalue hinner href htarget =>
    obtain ⟨x', fragment', m, hx', hm⟩ :=
      h.reference hvalue hinner (lookupKey_of_nodup (hproper.keys l members hl hvalue) href)
    obtain ⟨rfl, -⟩ := unique_target htarget hx'
    exact ⟨m, hm⟩

/-- Where the root is filed, something is filed for every place that it comes to. -/
theorem exists_filed (hplaced : t.Placed root) (h : Filed setup (t.ComesTo root) t.Leads root.place n)
    (hl : t.ComesTo root l) : ∃ m, Filed setup (t.ComesTo root) t.Leads l.place m := by
  induction hl with
  | refl => exact ⟨n, h⟩
  | tail hl hgo ih =>
    obtain ⟨m, hm⟩ := ih
    obtain ⟨l', hl', hplace, hbuilt⟩ := hm.cases
    obtain ⟨x', hgo', hx'⟩ := hplaced _ l' _ hl hl' hplace.symm hgo
    rw [← hx']
    exact exists_means_of_goes hproper hl' hbuilt hgo'

/-- What is filed is on no cycle. -/
theorem not_cycle_of_filed (hplaced : t.Placed root) (h : Filed setup (t.ComesTo root) t.Leads p n) :
    ¬Relation.TransGen (t.Edge root) p p := by
  -- A node is built from nodes that have been filed, so no way leads on for ever.
  refine not_transGen_of_acc (h.induction (R := fun p _ => Acc (fun q p => t.Edge root p q) p) fun l n hl hn => ?_)
  refine .intro _ fun q ⟨l', x, hl', hplace, hgo, hq⟩ => ?_
  obtain ⟨x', hgo', hx'⟩ := hplaced l' l x hl' hl hplace hgo
  obtain ⟨m, -, hacc⟩ := exists_means_of_goes hproper hl hn hgo'
  rwa [← hq, ← hx']

end Filed

/-- The document is the one that is compiled, or a reference that the compilation comes to names it. -/
def Needs (w : World) (d : Document) (t : Session) (root : Location) (d' : Document) : Prop :=
  d' = d ∨ ∃ l uri v, t.ComesTo root l ∧ l.Refers uri ∧ d' = .under uri v ∧ AtHand w (· = d) d'

end Session

/-! ### Objects that ask for others only -/

/-- The keyword constrains nothing, or asks for other schemas only, and the value is of the kind that it takes. -/
def Keyword.asksOnly : Keyword → Value → Bool
  | .passive, _ | .negation, _ | .reference, .str _ => true
  | _, _ => false

/-- The keywords among the members ask for other schemas only, and none of them is a name or a text of the object. -/
def asksOnly (members : List (Scalar × Value)) : Bool :=
  members.all (fun
    | (.str name, v) => (Keyword.ofName name).asksOnly v
    | _ => false) &&
  ["$id", "title", "description"].all fun name => (lookupKey (.str name) members).isNone

section Asking

variable {setup : Setup} {l x : Location} {members : List (Scalar × Value)}

theorem lookupKey_of_asksOnly (h : asksOnly members = true) :
    ∀ name ∈ ["$id", "title", "description"], lookupKey (.str name) members = none := by
  intro name hname
  exact Option.isNone_iff_eq_none.1 (List.all_eq_true.1 (Bool.and_eq_true_iff.1 h).2 name hname)

theorem keyword_asksOnly_of_mem (h : asksOnly members = true) {m : Scalar × Value} (hm : m ∈ members) :
    ∃ name, m.1 = .str name ∧ (Keyword.ofName name).asksOnly m.2 = true := by
  have hmember := List.all_eq_true.1 (Bool.and_eq_true_iff.1 h).1 m hm
  split at hmember
  · exact ⟨_, rfl, hmember⟩
  · cases hmember

private theorem keywordOf_of_asksOnly {keyword : Keyword} {name : String} {v : Value} (h : keyword.asksOnly v = true) :
    keyword.isLate = false ∧ ∃ result, KeywordOf setup anything anywhere l members keyword name v result := by
  unfold Keyword.asksOnly at h
  split at h
  · exact ⟨rfl, _, rfl⟩
  · exact ⟨rfl, _, .constant (l.site l.pointer) true, trivial, rfl⟩
  · exact ⟨rfl, _, _, ⟨_, l, none, .constant (l.site l.pointer) true, rfl, trivial, trivial, rfl⟩, rfl⟩
  · cases h

private theorem childrenOf_of_asksOnly (h : asksOnly members = true) :
    ∃ children, ChildrenOf setup anything anywhere l members children := by
  have hchild : ∀ m ∈ members, ∃ child, EarlyOf setup anything anywhere l members m child := by
    rintro ⟨key, v⟩ hm
    obtain ⟨name, rfl, hasks⟩ := keyword_asksOnly_of_mem h hm
    obtain ⟨hlate, result, hresult⟩ := keywordOf_of_asksOnly hasks
    refine ⟨.early result, name, rfl, ?_⟩
    rw [if_neg (by simp [hlate])]
    exact ⟨result, hresult, rfl⟩
  have hresult : ∀ siblings child, ∃ result, LateOf anything l siblings child result := by
    rintro siblings (node | ⟨keyword, name, value⟩)
    · exact ⟨node, rfl⟩
    · exact ⟨_, .constant (l.site l.pointer) true, trivial, rfl⟩
  have : Nonempty Scope.Child := ⟨.early none⟩
  choose! child hchild using hchild
  choose result hresult using hresult
  exact ⟨_, members.map child, _, List.forall₂_map_right_iff.2 (List.forall₂_same.2 hchild),
    List.forall₂_map_right_iff.2 (List.forall₂_same.2 fun c _ => hresult _ c), rfl⟩

private theorem referenceOf_of_asksOnly (h : asksOnly members = true) (href : hasKey (.str "$ref") members = true) :
    ∃ v r, lookupKey (.str "$ref") members = some v ∧ ReferenceOf anything anywhere l v r := by
  obtain ⟨v, hv⟩ := Option.isSome_iff_exists.1 href
  obtain ⟨name, hname, hasks⟩ := keyword_asksOnly_of_mem h (mem_of_lookupKey hv)
  cases hname
  rw [show Keyword.ofName "$ref" = .reference by decide] at hasks
  obtain ⟨-, result, r, hr, -⟩ :=
    @keywordOf_of_asksOnly { world := World.bare } l members .reference "$ref" v hasks
  exact ⟨v, r, hv, hr⟩

/-- An object passes the checks if its keywords ask for other schemas only. -/
theorem passes_of_asksOnly (hvalue : l.value = .obj members) (h : asksOnly members = true)
    (hschema : hasKey (.str "$schema") members = true → l.pointer.isRoot = true) : Passes setup l := by
  have hbare := lookupKey_of_asksOnly h
  have hinner : l.Inner members l := Location.inner_of_nameless (hbare _ (by simp))
  refine ⟨?_, fun members' hvalue' _ ref href => ?_⟩
  · unfold Built
    rw [hvalue]
    cases hreplaced : l.isReplaced members with
    | true =>
      obtain ⟨v, r, hv, hr⟩ := referenceOf_of_asksOnly h (Bool.and_eq_true_iff.1 hreplaced).2
      refine ⟨.group (l.site l.pointer) [r] none none (some Dialect.draft07.uri), hschema, l, hinner, ?_⟩
      rw [if_pos hreplaced]
      exact ⟨v, r, hv, hr, rfl⟩
    | false =>
      obtain ⟨children, hchildren⟩ := childrenOf_of_asksOnly h
      refine ⟨.group (l.site l.pointer) children none none (l.dialect.map Dialect.uri), hschema, l, hinner, ?_⟩
      rw [if_neg (by simp [hreplaced])]
      exact ⟨none, none, children, .inl (hbare _ (by simp)), .inl (hbare _ (by simp)), hchildren, rfl⟩
  · cases hvalue.symm.trans hvalue'
    have hdescription : lookupKey (.str "description") members = none := hbare _ (by simp)
    cases hdescription.symm.trans href

/-- An object without a name and without a reference goes on to its own parts. -/
theorem Session.mem_of_goes {t : Session} (hvalue : l.value = .obj members)
    (hid : lookupKey (.str "$id") members = none) (href : lookupKey (.str "$ref") members = none)
    (h : Location.Goes t.Leads l x) : x ∈ l.subschemas members := by
  cases h with
  | part hvalue' _ hinner hsub =>
    cases hvalue.symm.trans hvalue'
    rwa [hinner.eq_of_nameless hid] at hsub
  | @reference _ _ _ ref _ hvalue' _ href' _ =>
    cases hvalue.symm.trans hvalue'
    exact absurd href' (lookupKey_eq_none.1 href _)

/-- An object without a name goes on to its own parts and to what its reference leads to. -/
theorem Session.mem_or_eq_of_goes {t : Session} {target : Location} {ref : String} {fragment : Option String}
    (hvalue : l.value = .obj members) (hid : lookupKey (.str "$id") members = none) (hkeys : (members.map Prod.fst).Nodup)
    (href : lookupKey (.str "$ref") members = some (.str ref)) (htarget : t.Leads l ref target fragment)
    (h : Location.Goes t.Leads l x) : x ∈ l.subschemas members ∨ x = target := by
  cases h with
  | part hvalue' _ hinner hsub =>
    cases hvalue.symm.trans hvalue'
    rw [hinner.eq_of_nameless hid] at hsub
    exact .inl hsub
  | reference hvalue' hinner href' htarget' =>
    cases hvalue.symm.trans hvalue'
    cases href.symm.trans (lookupKey_of_nodup hkeys href')
    rw [hinner.eq_of_nameless hid] at htarget'
    exact .inr (unique_target htarget' htarget).1

theorem Session.resolves_of_leads {w : World} {t : Session} {inner target : Location} {ref ref' : String}
    {fragment : Option String} (hid : lookupKey (.str "$id") members = none) (hkeys : (members.map Prod.fst).Nodup)
    (href : lookupKey (.str "$ref") members = some (.str ref)) (htarget : t.Leads l ref target fragment)
    (hinner : l.Inner members inner) (hmem : (.str "$ref", .str ref') ∈ members) : t.Resolves w inner ref' := by
  cases href.symm.trans (lookupKey_of_nodup hkeys hmem)
  rw [hinner.eq_of_nameless hid]
  exact .inl ⟨target, fragment, htarget⟩

end Asking

namespace Schema

variable {setup : Setup} {answers : List (String × Answer)} {d : Document} {p : Pointer} {root : Location} {s t : Session}
  {result : Except Failure Schema}

/-- Where all that a compilation comes to passes the checks and all references resolve, only a cycle breaks it. -/
theorem exists_cycle_of_breaks (hworld : setup.world.resolver = .table answers)
    (hnames : ∀ d', t.Needs setup.world d root d' → ∀ e, ¬d'.Misnamed e)
    (hproper : t.Proper setup root) {e : Failure}
    (h : t.Breaks setup (· = d) (d.Token setup.world p) root (s.extent setup.world d p + 1) e) :
    ∃ q, Relation.TransGen (t.Edge root) q q ∧ e = .schema .recursion q.uri? (some q.pointer) := by
  cases h with
  | @recursion l x hx _ hgo hplace =>
    refine ⟨l.place, ?_, rfl⟩
    have hcycle := Session.transGen_edge hx hgo
    rwa [hplace] at hcycle
  | refused hl _ hpasses _ => exact absurd (hproper.clears _ hl).1 hpasses
  | sample hl _ hvalue hn he => exact absurd he ((hproper.clears _ hl).2 _ _ _ hvalue hn)
  -- A reference that resolves is to be followed, or its document is to be loaded, and neither goes wrong.
  | stray hl _ _ hvalue hinner href hnone he =>
    rcases hproper.resolves _ _ _ _ hl hvalue hinner href with
      hleads | ⟨full, uri, fragment, hfull, hsplit, hne, hunknown, -⟩
    · exact absurd hleads hnone
    · rcases he.follows with hfault | ⟨home, fragment', full', uri', hfull', hsplit', hnamed⟩
      · cases hfull.symm.trans hfault
      · cases hfull.symm.trans hfull'
        cases hsplit.symm.trans hsplit'
        rcases hnamed with ⟨hempty, -⟩ | ⟨-, hknown⟩
        · cases hempty.symm.trans hne
        · cases hknown.symm.trans hunknown
  | unresolved hl hrefers hne hunknown he =>
    obtain ⟨members, inner, ref, full, fragment, hvalue, hinner, href, hfull, hsplit⟩ := hrefers
    rcases hproper.resolves _ _ _ _ hl hvalue hinner href with
      ⟨x, fragment', full', uri', home, hfull', hsplit', hnamed, -⟩ | ⟨full', uri', fragment', hfull', hsplit', -, -, hhad⟩
    · cases hfull.symm.trans hfull'
      cases hsplit.symm.trans hsplit'
      rcases hnamed with ⟨hempty, -⟩ | ⟨-, hknown⟩
      · cases hempty.symm.trans hne
      · cases hknown.symm.trans hunknown
    · cases hfull.symm.trans hfull'
      cases hsplit.symm.trans hsplit'
      exact absurd he (hhad _)
  | misnamed hl hrefers _ hhand he => exact absurd he (hnames _ (.inr ⟨_, _, _, hl, hrefers, rfl, hhand⟩) e)
  | deep hway hlength hhouses =>
    -- There are not so many places.
    have hle := length_le_extent hworld hway hhouses s
    omega

/-- Where all that a compilation comes to passes the checks and all references resolve, and all names in the documents that
it needs come to URIs, the compilation ends with a schema if and only if there is no cycle in what it comes to.  Otherwise it
fails at a place on a cycle. -/
theorem returns_compileAt_iff (hworld : setup.world.resolver = .table answers) (hbase : IsBase d.uri)
    (hroot : d.LocatedAt p root) (hs : s.Fresh)
    (hcached : ∀ {uri d'}, s.loader.cache.lookup uri = some d' → AtHand setup.world (· = d) (.under uri d'.value))
    (h : (compileAt setup d p).run.run s = (result, t))
    (hnames : ∀ d', t.Needs setup.world d root d' → ∀ e, ¬d'.Misnamed e)
    (hproper : t.Proper setup root) (hplaced : t.Placed root) :
    (Returns result ↔ ∀ q, ¬Relation.TransGen (t.Edge root) q q) ∧
      ∀ e, result = .error e → ∃ q, Relation.TransGen (t.Edge root) q q ∧ e = .schema .recursion q.uri? (some q.pointer) := by
  have hspells := spells_table hworld d p
  have hended : Session.HasCompiled setup (· = d) d (d.Token setup.world p) p result t :=
    Session.hasCompiled_compileAt hspells rfl (fun t ht => token_of_mem ht _) hbase hs hcached h
  have hfailure : ∀ e, result = .error e →
      ∃ q, Relation.TransGen (t.Edge root) q q ∧ e = .schema .recursion q.uri? (some q.pointer) := by
    rintro e rfl
    rcases hended with hmisnamed | hunlocated | ⟨root', s', hroot', hbreaks⟩
    · exact absurd hmisnamed (hnames d (.inl rfl) e)
    · exact absurd hunlocated hroot.not_unlocated
    · cases hroot'.eq hroot
      exact exists_cycle_of_breaks hworld hnames hproper hbreaks
  refine ⟨⟨?_, fun hacyclic => ?_⟩, hfailure⟩
  · rintro ⟨schema, rfl⟩ q hcycle
    obtain ⟨root', hroot', hplace, -, hfiled⟩ := hended
    cases hroot'.eq hroot
    -- What leads on from the place has been reached, so something is filed for it.
    obtain ⟨_, ⟨l, x, hl, rfl, -⟩, -⟩ := Relation.TransGen.head'_iff.1 hcycle
    obtain ⟨m, hm⟩ := Session.exists_filed hproper hplaced hfiled hl
    exact Session.not_cycle_of_filed hproper hplaced hm hcycle
  · cases hresult : result with
    | ok schema => exact returns_ok schema
    | error e =>
      obtain ⟨q, hcycle, -⟩ := hfailure e hresult
      exact absurd hcycle (hacyclic q)

variable {l x : Location}

/-- Where no samples are checked, a location is clear if it passes the checks. -/
private theorem clears_of_passes {w : World} (h : Passes { world := w } l) : t.Clears { world := w } root l := by
  refine ⟨h, fun members n e _ _ hfails => ?_⟩
  rcases hfails.checked with hon | hon <;> cases hon

/-- A document that is what it is not. -/
def loopDocument : Value := .ofPairs [("not", .ofPairs [("$ref", .str "#")])]

def loopRoot : Location := ⟨.numbered 0 loopDocument, loopDocument, .root, none, none⟩

private def loopPart : Location :=
  ⟨.numbered 0 loopDocument, .ofPairs [("$ref", .str "#")], Pointer.root.child "not", none, none⟩

private theorem leads_loopPart (t : Session) : t.Leads loopPart "#" loopRoot (some "") :=
  ⟨"#", "", ⟨.numbered 0 loopDocument, .root⟩, toOption_eq_some.1 (by decide +kernel), by decide +kernel, .inl ⟨rfl, rfl⟩,
    rfl, rfl, rfl, rfl, none, rfl, rfl⟩

private theorem loop_of_comesTo (h : t.ComesTo loopRoot l) : l = loopRoot ∨ l = loopPart := by
  induction h with
  | refl => exact .inl rfl
  | tail _ hgo ih =>
    rcases ih with rfl | rfl
    · have hsub := Session.mem_of_goes rfl rfl rfl hgo
      exact .inr (List.mem_singleton.1 hsub)
    · rcases Session.mem_or_eq_of_goes rfl rfl (by decide) rfl (leads_loopPart t) hgo with hsub | rfl
      · cases hsub
      · exact .inl rfl

private theorem proper_loop (t : Session) : t.Proper { world := World.bare } loopRoot where
  keys l members hl hvalue := by
    rcases loop_of_comesTo hl with rfl | rfl <;> cases hvalue <;> decide
  clears l hl := by
    rcases loop_of_comesTo hl with rfl | rfl
    · exact clears_of_passes (passes_of_asksOnly rfl (by decide +kernel) (by decide))
    · exact clears_of_passes (passes_of_asksOnly rfl (by decide +kernel) (by decide))
  resolves l members inner ref hl hvalue hinner href := by
    rcases loop_of_comesTo hl with rfl | rfl
    · cases hvalue
      simp at href
    · cases hvalue
      exact Session.resolves_of_leads rfl (by decide) rfl (leads_loopPart t) hinner href

private theorem placed_loop (t : Session) : t.Placed loopRoot := by
  intro l l' x hl hl' hplace hgo
  have heq : l = l' := by
    rcases loop_of_comesTo hl with rfl | rfl <;> rcases loop_of_comesTo hl' with rfl | rfl
    · rfl
    · cases hplace
    · cases hplace
    · rfl
  exact ⟨x, heq ▸ hgo, rfl⟩

private theorem not_misnamed_of_needs_loop {d' : Document} (h : t.Needs World.bare (.numbered 0 loopDocument) loopRoot d')
    (e : Failure) : ¬d'.Misnamed e := by
  rintro ⟨p, part, name, hmem, hname, -⟩
  rcases h with rfl | ⟨l, uri, v, -, -, rfl, hhand⟩
  · have hnameless : (schemaObjects .root loopDocument).all (fun part => (part.2.member? "$id").isNone) = true := by
      decide +kernel
    have hpart := List.all_eq_true.1 hnameless _ hmem
    dsimp only at hpart
    rw [hname] at hpart
    cases hpart
  · -- Nothing else is to be had.
    rcases hhand with (heq | ⟨u, w, hgives, -⟩) | ⟨u, w, _, _, hgives, -⟩
    · cases heq
    · cases mem_sourcesOf rfl hgives
    · cases mem_sourcesOf rfl hgives

theorem returns_compileAt_iff_loop : ∃ e t q,
    (compileAt { world := World.bare } (.numbered 0 loopDocument) .root).run.run {} = (.error e, t) ∧
    Relation.TransGen (t.Edge loopRoot) q q ∧ e = .schema .recursion q.uri? (some q.pointer) := by
  have hfails : ((compileAt { world := World.bare } (.numbered 0 loopDocument) .root).run.run {}).1.toOption.isNone = true := by
    decide +kernel
  cases hrun : (compileAt { world := World.bare } (.numbered 0 loopDocument) .root).run.run {} with
  | mk result t =>
    rw [hrun] at hfails
    cases result with
    | ok schema => cases hfails
    | error e =>
      obtain ⟨-, hcycles⟩ := returns_compileAt_iff rfl (by rintro _ ⟨⟩) ⟨rfl, rfl, rfl, rfl, rfl⟩ ⟨rfl, rfl⟩
        (by rintro _ _ ⟨⟩) hrun (fun d' => not_misnamed_of_needs_loop) (proper_loop t) (placed_loop t)
      obtain ⟨q, hcycle, he⟩ := hcycles e rfl
      exact ⟨e, t, q, rfl, hcycle, he⟩

/-- A document with a name that comes to no URI, in a part that nothing asks for. -/
def misnamingDocument : Value := .ofPairs [("$defs", .ofPairs [("x", .ofPairs [("$id", .str "http://[#")])])]

private def misnamingRoot : Location := ⟨.numbered 0 misnamingDocument, misnamingDocument, .root, none, none⟩

private theorem not_goes_misnamingRoot (t : Session) : ¬Location.Goes t.Leads misnamingRoot x := by
  intro h
  cases Session.mem_of_goes rfl rfl rfl h

private theorem eq_of_comesTo_misnaming (h : t.ComesTo misnamingRoot l) : l = misnamingRoot := by
  rcases Relation.ReflTransGen.cases_head h with heq | ⟨x, hgo, -⟩
  · exact heq.symm
  · exact absurd hgo (not_goes_misnamingRoot t)

/-- A compilation fails for a name that it does not come to. -/
private theorem compileAt_misnaming : ∃ e t,
    (compileAt { world := World.bare } (.numbered 0 misnamingDocument) .root).run.run {} = (.error e, t) ∧
    t.Proper { world := World.bare } misnamingRoot ∧ t.Placed misnamingRoot ∧
    ∀ q, ¬Relation.TransGen (t.Edge misnamingRoot) q q := by
  have hfails : ((compileAt { world := World.bare } (.numbered 0 misnamingDocument) .root).run.run
      {}).1.toOption.isNone = true := by decide +kernel
  cases hrun : (compileAt { world := World.bare } (.numbered 0 misnamingDocument) .root).run.run {} with
  | mk result t =>
    rw [hrun] at hfails
    cases result with
    | ok schema => cases hfails
    | error e =>
      refine ⟨e, t, rfl, ⟨fun l members hl hvalue => ?_, fun l hl => ?_, fun l members inner ref hl hvalue _ href => ?_⟩,
        fun l l' x hl _ _ hgo => ?_, fun q hcycle => ?_⟩
      · rw [eq_of_comesTo_misnaming hl] at hvalue
        cases hvalue
        decide
      · rw [eq_of_comesTo_misnaming hl]
        exact clears_of_passes (passes_of_asksOnly rfl (by decide +kernel) (by decide))
      · rw [eq_of_comesTo_misnaming hl] at hvalue
        cases hvalue
        simp at href
      · rw [eq_of_comesTo_misnaming hl] at hgo
        exact absurd hgo (not_goes_misnamingRoot t)
      · obtain ⟨_, ⟨l, x, hl, -, hgo, -⟩, -⟩ := Relation.TransGen.head'_iff.1 hcycle
        rw [eq_of_comesTo_misnaming hl] at hgo
        exact not_goes_misnamingRoot t hgo

/-- A part that needs itself, unless its dialect has its reference replace it. -/
def recastPart : Value :=
  .ofPairs [("$ref", .str "#/$defs/t"), ("not", .ofPairs [("$ref", .str "#/$defs/s")])]

/-- A document that comes to the part in two dialects. -/
def recastDocument : Value :=
  .ofPairs [("$ref", .str "http://x/a"), ("not", .ofPairs [("$ref", .str "#/$defs/s")]),
    ("$defs", .ofPairs [("s", recastPart), ("t", .ofPairs [])])]

/-- What leads to the part in a dialect of its own. -/
def recastingDocument : Value :=
  .ofPairs [("$schema", .str "http://json-schema.org/draft-07/schema#"), ("$ref", .str "http://x/d#/$defs/s")]

/-- What leads to the part, as a text. -/
def recastAnswers : List (String × Answer) :=
  [("http://x/a", .found ⟨.text (r#"{"$schema": "http://json-schema.org/draft-07/schema#", "# ++
    r#""$ref": "http://x/d#/$defs/s"}"#), none⟩)]

/-- Where the document that leads to the part is to be had. -/
def recastWorld : World := .ofTable recastAnswers

private def recastAt (tokens : List String) (v : Value) (dialect : Option Dialect) : Location :=
  ⟨.under "http://x/d" recastDocument, v, ⟨tokens⟩, some "http://x/d", dialect⟩

private def recasting : Location :=
  ⟨.under "http://x/a" recastingDocument, recastingDocument, .root, some "http://x/a", some .draft07⟩

/-- What the compilation of the document comes to, in whatever dialect. -/
private def IsRecast (l : Location) : Prop :=
  l = recasting ∨ ∃ dialect, l = recastAt [] recastDocument dialect ∨
    l = recastAt ["not"] (.ofPairs [("$ref", .str "#/$defs/s")]) dialect ∨
    l = recastAt ["$defs", "s"] recastPart dialect ∨
    l = recastAt ["$defs", "s", "not"] (.ofPairs [("$ref", .str "#/$defs/s")]) dialect ∨
    l = recastAt ["$defs", "t"] (.ofPairs []) dialect

/-- The session knows both documents. -/
private structure KnowsRecast (t : Session) : Prop where
  document : t.homes.lookup "http://x/d" = some ⟨.under "http://x/d" recastDocument, .root⟩
  recasting : t.homes.lookup "http://x/a" = some ⟨.under "http://x/a" recastingDocument, .root⟩

private theorem leads_recast (h : KnowsRecast t) {ref full text : String} {tokens : List String} {v : Value}
    (hfull : (resolveUri l.base ref).toOption = some full) (hsplit : Uri.splitFragment full = ("http://x/d", some text))
    (hp : (targetPointer? recastDocument .root (some text)).toOption = some (some ⟨tokens⟩))
    (hv : Scope.valueAt? recastDocument ⟨tokens⟩ = .ok (some v))
    (hbase : (Document.under "http://x/d" recastDocument).baseAt ⟨tokens⟩ = .ok (some "http://x/d")) :
    t.Leads l ref (recastAt tokens v l.dialect) (some text) :=
  ⟨full, "http://x/d", ⟨.under "http://x/d" recastDocument, .root⟩, toOption_eq_some.1 hfull, hsplit,
    .inr ⟨by decide, h.document⟩, toOption_eq_some.1 hp, hv, rfl, hbase, none, rfl, rfl⟩

private theorem leads_part (h : KnowsRecast t) (tokens : List String) (v : Value) (dialect : Option Dialect) :
    t.Leads (recastAt tokens v dialect) "#/$defs/s" (recastAt ["$defs", "s"] recastPart dialect) (some "/$defs/s") :=
  leads_recast h (show (resolveUri (some "http://x/d") "#/$defs/s").toOption = some "http://x/d#/$defs/s" by decide +kernel)
    (by decide +kernel) (by decide +kernel) rfl rfl

private theorem leads_rest (h : KnowsRecast t) (tokens : List String) (v : Value) (dialect : Option Dialect) :
    t.Leads (recastAt tokens v dialect) "#/$defs/t" (recastAt ["$defs", "t"] (.ofPairs []) dialect) (some "/$defs/t") :=
  leads_recast h (show (resolveUri (some "http://x/d") "#/$defs/t").toOption = some "http://x/d#/$defs/t" by decide +kernel)
    (by decide +kernel) (by decide +kernel) rfl rfl

private theorem leads_recasting (h : KnowsRecast t) :
    t.Leads recasting "http://x/d#/$defs/s" (recastAt ["$defs", "s"] recastPart (some .draft07)) (some "/$defs/s") :=
  leads_recast h
    (show (resolveUri (some "http://x/a") "http://x/d#/$defs/s").toOption = some "http://x/d#/$defs/s" by decide +kernel)
    (by decide +kernel) (by decide +kernel) rfl rfl

private theorem leads_to_recasting (h : KnowsRecast t) (dialect : Option Dialect) :
    t.Leads (recastAt [] recastDocument dialect) "http://x/a" recasting none :=
  ⟨"http://x/a", "http://x/a", ⟨.under "http://x/a" recastingDocument, .root⟩,
    toOption_eq_some.1 (show (resolveUri (some "http://x/d") "http://x/a").toOption = some "http://x/a" by decide +kernel),
    by decide +kernel, .inr ⟨by decide, h.recasting⟩, rfl, rfl, rfl, rfl, some .draft07, rfl, rfl⟩

private theorem isRecast_of_comesTo (hknows : KnowsRecast t) (h : t.ComesTo (recastAt [] recastDocument none) l) :
    IsRecast l := by
  induction h with
  | refl => exact .inr ⟨none, .inl rfl⟩
  | tail _ hgo ih =>
    rcases ih with rfl | ⟨dialect, rfl | rfl | rfl | rfl | rfl⟩
    · rcases Session.mem_or_eq_of_goes rfl rfl (by decide) rfl (leads_recasting hknows) hgo with hsub | rfl
      · cases hsub
      · exact .inr ⟨_, .inr (.inr (.inl rfl))⟩
    · rcases Session.mem_or_eq_of_goes rfl rfl (by decide) rfl (leads_to_recasting hknows _) hgo with hsub | rfl
      · exact .inr ⟨_, .inr (.inl (List.mem_singleton.1 hsub))⟩
      · exact .inl rfl
    · rcases Session.mem_or_eq_of_goes rfl rfl (by decide) rfl (leads_part hknows _ _ _) hgo with hsub | rfl
      · cases hsub
      · exact .inr ⟨_, .inr (.inr (.inl rfl))⟩
    · rcases Session.mem_or_eq_of_goes rfl rfl (by decide) rfl (leads_rest hknows _ _ _) hgo with hsub | rfl
      · exact .inr ⟨_, .inr (.inr (.inr (.inl (List.mem_singleton.1 hsub))))⟩
      · exact .inr ⟨_, .inr (.inr (.inr (.inr rfl)))⟩
    · rcases Session.mem_or_eq_of_goes rfl rfl (by decide) rfl (leads_part hknows _ _ _) hgo with hsub | rfl
      · cases hsub
      · exact .inr ⟨_, .inr (.inr (.inl rfl))⟩
    · cases Session.mem_of_goes rfl rfl rfl hgo

private theorem proper_recast (hknows : KnowsRecast t) :
    t.Proper { world := recastWorld } (recastAt [] recastDocument none) where
  keys l members hl hvalue := by
    rcases isRecast_of_comesTo hknows hl with rfl | ⟨dialect, rfl | rfl | rfl | rfl | rfl⟩ <;> cases hvalue <;> decide
  clears l hl := by
    refine clears_of_passes ?_
    rcases isRecast_of_comesTo hknows hl with rfl | ⟨dialect, rfl | rfl | rfl | rfl | rfl⟩
    all_goals exact passes_of_asksOnly rfl (by decide +kernel) (by first | exact fun _ => rfl | (intro h; cases h))
  resolves l members inner ref hl hvalue hinner href := by
    rcases isRecast_of_comesTo hknows hl with rfl | ⟨dialect, rfl | rfl | rfl | rfl | rfl⟩
    all_goals cases hvalue
    · exact Session.resolves_of_leads rfl (by decide) rfl (leads_recasting hknows) hinner href
    · exact Session.resolves_of_leads rfl (by decide) rfl (leads_to_recasting hknows _) hinner href
    · exact Session.resolves_of_leads rfl (by decide) rfl (leads_part hknows _ _ _) hinner href
    · exact Session.resolves_of_leads rfl (by decide) rfl (leads_rest hknows _ _ _) hinner href
    · exact Session.resolves_of_leads rfl (by decide) rfl (leads_part hknows _ _ _) hinner href
    · cases href

private theorem cycle_recast (hknows : KnowsRecast t) :
    Relation.TransGen (t.Edge (recastAt [] recastDocument none)) ⟨"http://x/d", Pointer.mk ["$defs", "s"]⟩
      ⟨"http://x/d", Pointer.mk ["$defs", "s"]⟩ := by
  have hpart (tokens : List String) : Location.Goes t.Leads (recastAt tokens (.ofPairs [("$ref", .str "#/$defs/s")]) none)
      (recastAt ["$defs", "s"] recastPart none) :=
    .reference rfl (Location.inner_of_nameless rfl) (List.mem_singleton_self _) (leads_part hknows _ _ _)
  have hcomes : t.ComesTo (recastAt [] recastDocument none) (recastAt ["$defs", "s"] recastPart none) :=
    .tail (.single (.part rfl rfl (Location.inner_of_nameless rfl) (List.mem_singleton_self _))) (hpart ["not"])
  refine Session.transGen_edge (x := recastAt ["$defs", "s"] recastPart none) hcomes ?_
  exact .tail (.single (.part rfl rfl (Location.inner_of_nameless rfl) (List.mem_singleton_self _)))
    (hpart ["$defs", "s", "not"])

private theorem sources_recast : sourcesOf recastWorld.yaml recastAnswers = [("http://x/a", recastingDocument)] := by
  decide +kernel

private theorem eq_of_atHand_recast {d : Document} (h : AtHand recastWorld (· = .under "http://x/d" recastDocument) d) :
    d = .under "http://x/d" recastDocument ∨ d = .under "http://x/a" recastingDocument := by
  rcases h with (rfl | ⟨uri, v, hgives, rfl⟩) | ⟨uri, v, name, short, hgives, hname, -⟩
  · exact .inl rfl
  · have hmem := mem_sourcesOf rfl hgives
    rw [sources_recast] at hmem
    cases List.mem_singleton.1 hmem
    exact .inr rfl
  · have hmem := mem_sourcesOf rfl hgives
    rw [sources_recast] at hmem
    cases List.mem_singleton.1 hmem
    cases hname

/-- A compilation comes to an end although there is a cycle in what it comes to. -/
private theorem compileAt_recast : ∃ schema t,
    (compileAt { world := recastWorld } (.under "http://x/d" recastDocument) .root).run.run {} =
      (.ok schema, t) ∧ KnowsRecast t := by
  obtain ⟨schema, t, hrun, hknown⟩ := exists_of_endsWith
    (x := (compileAt { world := recastWorld } (.under "http://x/d" recastDocument) .root).run.run {})
    (p := fun _ t => ["http://x/d", "http://x/a"].all fun uri => (t.homes.lookup uri).any fun home =>
      home.document.key == uri && home.origin == .root) (by decide +kernel)
  have hbase : IsBase (Document.under "http://x/d" recastDocument).uri := by
    rintro _ ⟨⟩
    decide
  have hhome {uri : String} (huri : uri ∈ ["http://x/d", "http://x/a"]) : ∃ home, t.homes.lookup uri = some home ∧
      home.document.key = uri ∧ home.origin = .root ∧ (home.document = .under "http://x/d" recastDocument ∨
        home.document = .under "http://x/a" recastingDocument) := by
    obtain ⟨home, hlookup, hshape⟩ := (Option.any_eq_true _ _).1 (List.all_eq_true.1 hknown uri huri)
    obtain ⟨hkey, horigin⟩ := Bool.and_eq_true_iff.1 hshape
    exact ⟨home, hlookup, beq_iff_eq.1 hkey, beq_iff_eq.1 horigin, eq_of_atHand_recast
      (Session.atHand_of_compileAt hbase ⟨rfl, rfl⟩ (by rintro _ _ ⟨⟩) hrun hlookup)⟩
  refine ⟨schema, t, hrun, ?_, ?_⟩
  · obtain ⟨⟨document, origin⟩, hlookup, hkey, rfl, rfl | rfl⟩ := @hhome "http://x/d" (by simp)
    · exact hlookup
    · exact absurd hkey (by decide)
  · obtain ⟨⟨document, origin⟩, hlookup, hkey, rfl, rfl | rfl⟩ := @hhome "http://x/a" (by simp)
    · exact absurd hkey (by decide)
    · exact hlookup

/-- A compilation may fail although there is no cycle, for a name in a part that nothing asks for.  It may come to an end
although there is a cycle, where it comes to a part in two dialects. -/
theorem compileAt_misnaming_and_recast :
    (∃ e t, (compileAt { world := World.bare } (.numbered 0 misnamingDocument) .root).run.run {} = (.error e, t) ∧
      ∃ root, (Document.numbered 0 misnamingDocument).LocatedAt .root root ∧ t.Proper { world := World.bare } root ∧
        t.Placed root ∧ ∀ q, ¬Relation.TransGen (t.Edge root) q q) ∧
    ∃ schema t, (compileAt { world := recastWorld } (.under "http://x/d" recastDocument) .root).run.run {} =
        (.ok schema, t) ∧
      ∃ root, (Document.under "http://x/d" recastDocument).LocatedAt .root root ∧
        t.Proper { world := recastWorld } root ∧ ∃ q, Relation.TransGen (t.Edge root) q q := by
  constructor
  · obtain ⟨e, t, hrun, hproper, hplaced, hacyclic⟩ := compileAt_misnaming
    exact ⟨e, t, hrun, misnamingRoot, ⟨rfl, rfl, rfl, rfl, rfl⟩, hproper, hplaced, hacyclic⟩
  · obtain ⟨schema, t, hrun, hknows⟩ := compileAt_recast
    exact ⟨schema, t, hrun, recastAt [] recastDocument none, ⟨rfl, rfl, rfl, rfl, rfl⟩, proper_recast hknows, _,
      cycle_recast hknows⟩

end Schema

end Conform
