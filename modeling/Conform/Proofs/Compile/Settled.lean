import Conform.Proofs.Compile.Contained
import Conform.Proofs.Compile.Depth

/-!
# Compiling a contained document

A session that compiles a contained document loads no other.  So the document alone tells what becomes of the compilation
(`Document.hasRun_compileAt`): the root is filed, or something breaks it (`Document.Breaks`).  It is not both: if the root
can be filed, nothing breaks the compilation but a sample that cannot be evaluated (`Document.Files.sampleFails`), since
nothing that it comes to is refused, and nothing comes to itself.
-/

namespace Conform

open Library (isSchema_of_built)

namespace Document

variable {setup : Setup} {d : Document} {root l t inner : Location} {members : List (Scalar × Value)} {uri ref : String}
  {homes homes' : List (String × Home)} {n : Node}

/-! ### Homes of a contained document -/

/-- What the document names is filed. -/
def Knows (d : Document) (homes : List (String × Home)) : Prop :=
  ∀ {uri home}, d.Names uri home → uri.isEmpty = false → homes.lookup uri = some home

theorem Knows.on (h : d.Knows homes) (hext : Extends homes homes') : d.Knows homes' :=
  fun hname hne => hext _ _ (h hname hne)

/-- A contained document is known once it has been registered, where nothing was known before. -/
theorem Contained.knows (hd : d.Contained) (h : d.Registers [] homes) : d.Knows homes := by
  rintro uri _ (huri | @⟨p, -, hown, hclaims⟩) hne
  · rcases huri with hempty | huri
    · rw [hempty] at hne
      cases hne
    · exact h.own huri rfl
  · obtain ⟨home, hhome⟩ := Option.isSome_iff_exists.1 (h.filed uri _ hclaims)
    rcases h.new hhome with hold | hclaims'
    · cases hold
    · obtain ⟨d', p'⟩ := home
      obtain rfl : d' = d := hclaims'.document_eq
      rw [hhome, hd.names hown hclaims hclaims']

section Runs

variable {C : Course Failure Session} {P : Session → Prop}

/-- Where the document is known, the URIs of its references lead to the homes that they name. -/
private theorem runs_home {s : Scope} (hC : ∀ t, C.inv t → d.Knows t.homes) (hs : s.document = d) (huri : '#' ∉ uri.toList)
    (hnamed : ∃ home, d.Names uri home) : Runs C P (s.home uri) fun home _ => d.Names uri home := by
  obtain ⟨known, hknown⟩ := hnamed
  refine Scope.runs_home huri (fun hempty t _ => ?_) (fun hne t home ht _ hlookup => ?_)
    (fun hne t x t' ht _ hloads => ?_) fun hne t e t' ht _ hfails => ?_
  · rw [hs]
    exact .whole (.inl hempty)
  · have hhome := hC t ht hknown hne
    rw [hlookup] at hhome
    cases hhome
    exact fun _ _ => hknown
  · have hhome := hC t ht hknown hne
    rw [hloads.unknown] at hhome
    cases hhome
  · have hhome := hC t ht hknown hne
    cases hfails with
    | missed hunknown _ | misnamed hunknown _ _ _ _ =>
      rw [hunknown] at hhome
      cases hhome

private theorem runs_target {descend : Location → Compiling Node} {path : Pointer} (hd : d.Contained)
    (hC : ∀ t, C.inv t → d.Knows t.homes) (hroot : d.LocatedAt .root root) (hl : d.ComesTo root l)
    (hdocument : l.document = d) (hvalue : l.value = .obj members) (hinner : l.Inner members inner)
    (href : (.str "$ref", .str ref) ∈ members)
    (h : C.Refuses P (fun e _ => Scope.Stray d.Names inner ref path e) fun _ => ∃ t fragment, d.Leads inner ref t fragment) :
    Runs C P ((inner.scope setup descend members).target ref path) fun t _ => d.Leads inner ref t.1 t.2 := by
  refine Scope.runs_target (fun _ => d.Names) (fun full uri fragment hfull hsplit => ?_)
    (h.part fun _ hcan => ⟨hd.unambiguous, hcan⟩)
  refine runs_home hC (hinner.document.trans hdocument) (Uri.not_mem_of_splitFragment hsplit) (hd.refers hroot hl ?_)
  exact ⟨members, inner, ref, full, fragment, hvalue, hinner, href, hfull, hsplit⟩

end Runs

/-! ### Parts that are no schemas -/

/-- Whatever a compilation comes to lies in the document. -/
theorem ComesTo.lies (hd : d.Contained) (hroot : d.Has root) (h : d.ComesTo root l) : l.document = d ∧ l.Lies := by
  induction h with
  | refl => exact ⟨hroot.document, hroot.lies⟩
  | @tail l t _ hgo ih =>
    obtain ⟨hdocument, hlies⟩ := ih
    cases hgo with
    | part hvalue hreplaced hinner hsub =>
      have hjson : l.value.isJson = true := by
        unfold Location.Lies at hlies
        rw [hdocument] at hlies
        exact Pointer.isJson_of_eval hd.json hlies
      rw [hvalue] at hjson
      refine ⟨?_, (hinner.lies hlies).part (hinner.value.trans hvalue) hjson hsub⟩
      rw [(Location.of_mem_subschemas hsub).1, hinner.document, hdocument]
    | reference hvalue hinner href htarget =>
      have htarget' := TargetOf.lies htarget
      obtain ⟨full, uri, home, -, -, hhome, -, -, heq, -⟩ := htarget
      exact ⟨heq.trans hhome.document, htarget'⟩

/-- The account of a contained document that tells nothing but that the nodes of locations are those of schemas. -/
private def schemas (setup : Setup) (hd : d.Contained) (hroot : d.LocatedAt .root root) : Account setup where
  stock _ homes := d.Knows homes
  good l := d.ComesTo root l
  means l _ := l.value.isSchema = true
  leads _ _ _ _ := True
  good_part hl hvalue hreplaced hinner _ hpart := hl.tail (.part hvalue hreplaced hinner hpart)
  stock_name _ _ _ _ _ hstock := hstock.on (extends_addHome _ _ _)
  keeps_target := by
    intro l members inner ref hl hvalue hinner href filed descend path
    have hdocument := (hl.lies hd hroot.has).1
    have hrun : Runs (.keeping (Session.Sound (fun _ homes => d.Knows homes) filed)) (fun _ => True)
        ((inner.scope setup descend members).target ref path) fun t _ => d.Leads inner ref t.1 t.2 :=
      runs_target hd (fun s hs => hs.stock) hroot hl hdocument hvalue hinner href fun s e hs _ _ _ => hs
    refine (runs_keeping_iff.1 hrun).weaken fun t ht => ?_
    exact ⟨hl.tail (.reference hvalue hinner href ht), trivial⟩
  means_built _ h := isSchema_of_built h
  means_place := by
    intro l l' n hl hl' hplace h
    obtain ⟨hdocument, hlies⟩ := hl.lies hd hroot.has
    obtain ⟨hdocument', hlies'⟩ := hl'.lies hd hroot.has
    rw [← hlies.value_eq hlies' (hdocument.trans hdocument'.symm) (Location.pointer_of_place hplace)]
    exact h

end Document

/-! ### Descriptions -/

namespace Scope

variable {setup : Setup} {descend : Location → Compiling Node} {l : Location} {members : List (Scalar × Value)}

/-- Where a description may not be elsewhere, an object with such a description is refused. -/
theorem keeps_description_allowed :
    Keeps (fun _ => True) (l.scope setup descend members).description fun _ => DescriptionAllowed setup members := by
  by_cases hon : setup.options.descriptionReferences = true
  · exact (Keeps.trivial _).weaken fun _ _ _ _ => hon
  unfold description
  split
  · rename_i hnone
    refine .pure fun ref href => ?_
    cases hnone.symm.trans href
  · rename_i hnull
    refine .pure fun ref href => ?_
    cases hnull.symm.trans href
  · rename_i htext
    refine .pure fun ref href => ?_
    cases htext.symm.trans href
  · refine Keeps.ite (fun h => absurd h hon) fun _ => keeps_fail
  · exact keeps_fail

theorem keeps_group_allowed :
    Keeps (fun _ => True) (l.scope setup descend members).group fun _ => DescriptionAllowed setup members := by
  rw [group_eq, unchecked]
  simp only [bind_assoc]
  refine (Keeps.trivial _).bind fun title _ => ?_
  refine keeps_description_allowed.bind fun description hallowed => ?_
  exact (Keeps.trivial _).weaken fun _ _ => hallowed

theorem keeps_enter : Keeps (fun _ => True) (l.scope setup descend members).enter fun s =>
    ∃ base, s = ({ l with base }).scope setup descend members := by
  unfold enter
  split
  · exact .pure ⟨l.base, rfl⟩
  · refine (Keeps.trivial _).bind fun uri _ => ?_
    refine Keeps.ite (fun _ => .pure ⟨l.base, rfl⟩) fun _ => ?_
    exact (Keeps.trivial _).andThen (.pure ⟨some uri, rfl⟩)
  · exact keeps_fail

end Scope

/-- What is built is described where it may be. -/
theorem keeps_build_described (setup : Setup) (descend : Location → Compiling Node) (l : Location) :
    Keeps (fun _ => True) (build setup descend l) fun _ => l.IsDescribed setup := by
  unfold build
  split
  · rename_i hvalue
    refine .pure fun members hobj => ?_
    cases hvalue.symm.trans hobj
  · rename_i members hvalue
    have hself : DescriptionAllowed setup members → l.IsDescribed setup := by
      intro h members' hobj _
      cases hvalue.symm.trans hobj
      exact h
    have hmain : Keeps (fun _ => True) (Scope.objectAt setup descend l members) fun _ => l.IsDescribed setup := by
      unfold Scope.objectAt
      split
      · rename_i ref hdialect href
        refine (Keeps.trivial _).bind fun _ _ => .pure fun members' hobj hreplaced => ?_
        cases hvalue.symm.trans hobj
        simp [Location.isReplaced, hasKey, hdialect, href] at hreplaced
      · refine Scope.keeps_enter.bind fun s hs => ?_
        obtain ⟨base, rfl⟩ := hs
        exact Scope.keeps_group_allowed.weaken fun _ => hself
    unfold Scope.object
    refine Keeps.ite (fun _ => ?_) fun _ => hmain
    exact (Scope.keeps_fail (Q := fun _ => False)).bind fun _ h => h.elim
  · exact .throw _

namespace Document

variable {setup : Setup} {d : Document} {root l t inner : Location} {members : List (Scalar × Value)} {uri ref : String}
  {homes homes' : List (String × Home)} {n : Node} {e : Failure}

/-! ### The survey of a contained document -/

/-- What breaks the compilation of a contained document from the root on. -/
inductive Breaks (setup : Setup) (d : Document) (root : Location) : Failure → Prop where
  /-- A location needs itself. -/
  | recursion {l x : Location} (hx : d.ComesTo root x) (hgo : Relation.TransGen (Location.Goes d.Leads) x l)
      (hplace : x.place = l.place) : Breaks setup d root (.schema .recursion l.place.uri? (some l.place.pointer))
  /-- The checks refuse a location. -/
  | refused {l : Location} {e : Failure} (hl : d.ComesTo root l) (hpasses : ¬Passes setup l) : Breaks setup d root e
  /-- A reference leads nowhere. -/
  | stray {l inner : Location} {members : List (Scalar × Value)} {ref : String} {e : Failure} (hl : d.ComesTo root l)
      (hvalue : l.value = .obj members) (hinner : l.Inner members inner) (href : (.str "$ref", .str ref) ∈ members)
      (hnone : ¬∃ t fragment, d.Leads inner ref t fragment) : Breaks setup d root e
  /-- A sample cannot be evaluated. -/
  | sample {l : Location} {members : List (Scalar × Value)} {n : Node} {e : Failure}
      (he : Scope.SampleFails setup.options l.pointer members n e) : Breaks setup d root e
  /-- A part of a location cannot be a schema, or its description may not be where it is. -/
  | unfit {l : Location} {e : Failure} (hl : d.ComesTo root l) (h : ¬(l.Whole ∧ l.IsDescribed setup)) : Breaks setup d root e

/-- What is told of the compilation of a contained document. -/
def survey (setup : Setup) (d : Document) (root : Location) (anonymous : Nat) : Survey setup where
  anonymous := anonymous
  stock _ homes := d.Knows homes
  grows _ _ := True
  grows_refl _ := trivial
  grows_trans _ _ := trivial
  fails e _ := d.Breaks setup root e
  good _ l := d.ComesTo root l ∧ d.Has l
  covers l := l.Whole ∧ l.IsDescribed setup
  leads _ := d.Leads

section Lawful

variable {anonymous : Nat} {way : List Location}

/-- A location of which a part cannot be a schema is not compiled, and nor is one that may not be described as it is. -/
private theorem runs_unfit (hd : d.Contained) (hroot : d.LocatedAt .root root) (fuel : Nat)
    (hl : ¬(l.Whole ∧ l.IsDescribed setup)) :
    Runs ((survey setup d root anonymous).course (l :: way)) (fun s => (survey setup d root anonymous).Pending way s l)
      (build setup (compile setup fuel) l) fun n s => (survey setup d root anonymous).filed s l.place n := by
  intro s hs hP
  obtain ⟨⟨hcomes, -⟩, -⟩ := hP.self
  have hsound : (schemas setup hd hroot).Sound s := by
    refine ⟨hs.stock, fun {p n} hn l' hl' hp => ?_⟩
    obtain ⟨l'', hl'', hp'', hbuilt⟩ := (hs.nodes hn s trivial).cases
    exact (schemas setup hd hroot).means_place hl''.1.1 hl' (hp''.trans hp.symm) (isSchema_of_built hbuilt)
  have hbuilt := Account.keeps_built (A := schemas setup hd hroot) hcomes
    (fun t ht => (schemas setup hd hroot).keeps_compile fuel ht) s hsound
  have hdescribed := keeps_build_described setup (compile setup fuel) l s trivial
  generalize (build setup (compile setup fuel) l).run.run s = result at hbuilt hdescribed
  obtain ⟨result, t⟩ := result
  cases result with
  | error e => exact .unfit hcomes hl
  | ok n =>
    refine (hl ⟨fun members inner hvalue hreplaced hinner sub hsub => ?_, hdescribed.2 n rfl⟩).elim
    obtain ⟨m, -, hm⟩ := (hbuilt.2 n rfl).part hvalue hreplaced hinner hsub
    exact hm

theorem lawful_survey (hd : d.Contained) (hroot : d.LocatedAt .root root) (anonymous : Nat) :
    (survey setup d root anonymous).Lawful where
  fails_registry h _ := h
  recursion _ hP hx hplace := .recursion (hP.2 _ hx).1.1 (hP.2 _ hx).2 hplace
  refused _ hP hpasses _ := .refused hP.1.1 hpasses
  sample _ _ _ _ he := .sample he
  good_part hfit hl hvalue hreplaced hinner hpart :=
    ⟨hl.1.tail (.part hvalue hreplaced hinner hpart), hl.2.part hd hfit.1 hvalue hreplaced hinner hpart⟩
  uncovered fuel hl := runs_unfit hd hroot fuel hl
  name hs _ _ _ _ _ _ := ⟨Knows.on hs.stock (extends_addHome _ _ _), trivial⟩
  target := by
    intro way l members inner ref hvalue hinner href descend
    refine .intro fun s hP => ?_
    have hcomes : d.ComesTo root l := hP.1.1
    have hhas : d.Has l := hP.1.2
    have hrun : Runs ((survey setup d root anonymous).course (l :: way))
        (fun s => (survey setup d root anonymous).Pending way s l) ((inner.scope setup descend members).target ref
          (inner.pointer.child "$ref")) fun t _ => d.Leads inner ref t.1 t.2 :=
      runs_target hd (fun s hs => hs.stock) hroot hcomes hhas.document hvalue hinner href
        fun s e _ _ hnone _ => .stray hcomes hvalue hinner href hnone
    refine hrun.weaken (fun _ h => h) fun t s _ ht => ?_
    exact ⟨ht, hcomes.tail (.reference hvalue hinner href ht), hhas.target hinner ht⟩

end Lawful

/-! ### The depth of a contained document -/

section Depth

/-- A session that knows the document has the compilation come to the same locations. -/
theorem ComesTo.known (hd : d.Contained) (hroot : d.Has root) {s : Session} (hs : d.Knows s.homes)
    (h : d.ComesTo root l) : s.ComesTo root l := by
  induction h with
  | refl => exact .refl
  | @tail l t hl hgo ih =>
    refine ih.tail ?_
    cases hgo with
    | part hvalue hreplaced hinner hsub => exact .part hvalue hreplaced hinner hsub
    | reference hvalue hinner href htarget =>
      refine .reference hvalue hinner href (htarget.mono fun uri home hname => ?_)
      have hl : d.ComesTo root l := hl
      rw [hinner.document, (hl.lies hd hroot).1]
      cases hempty : uri.isEmpty with
      | false => exact .inr ⟨hempty, hs hname hempty⟩
      | true =>
        refine .inl ⟨hempty, ?_⟩
        cases hname with
        | whole => rfl
        | part hne =>
          rw [hempty] at hne
          cases hne

/-- No more locations are under way than the extent allows, whatever the world. -/
theorem length_le_extent (hd : d.Contained) (hbase : IsBase d.uri) (hroot : d.LocatedAt .root root)
    (h : d.Registers [] homes) {way : List Location} (hway : (way.map Location.place).Nodup)
    (hcomes : ∀ x ∈ way, d.ComesTo root x) (s : Session) (w : World) : way.length ≤ s.extent w d .root := by
  have hspells : Spells World.bare (· = d) (d.Token World.bare .root) := spells_table rfl d .root
  have hstocks : Stocks World.bare (· = d) (d.Token World.bare .root) [] homes := by
    refine hspells.stocks rfl hbase (fun h => by cases h) fun {uri home} hlookup => ?_
    rcases h.new hlookup with hold | hclaims
    · cases hold
    · exact hclaims
  have hhouses : Houses World.bare (· = d) (d.Token World.bare .root) homes root := by
    refine ⟨?_, hroot.lies.sits, fun t ht => ?_, hbase.along hroot.base⟩
    · rw [hroot.document]
      exact ⟨.inl (.inl rfl), .inl rfl, hbase⟩
    · rw [hroot.pointer] at ht
      cases ht
  have hreach : ∀ x ∈ way, Houses World.bare (· = d) (d.Token World.bare .root) homes x := by
    intro x hx
    have hcomes : ({ homes } : Session).ComesTo root x := (hcomes x hx).known hd hroot.has (hd.knows h)
    exact hhouses.comesTo hspells hstocks hcomes
  calc way.length ≤ ({} : Session).extent World.bare d .root := Conform.length_le_extent rfl hway hreach {}
    _ ≤ s.extent w d .root := s.extent_bare_le w d .root

end Depth

/-! ### Compiling -/

/-- How the compilation of a contained document has ended: the root has been filed, or something has broken it. -/
def HasRun (setup : Setup) (d : Document) : Except Failure Schema → Prop
  | .ok schema => ∃ root, d.LocatedAt .root root ∧ d.Files setup root root.place schema.root ∧ ∀ e, ¬d.Misnamed e
  | .error e => d.Misnamed e ∨ d.Unlocated .root e ∨ ∃ root, d.LocatedAt .root root ∧ d.Breaks setup root e

private theorem keeps_registerPart_named (d : Document) (p : Pointer) (schema : Value) :
    Keeps (fun _ => True) (Compiling.registerPart d p schema) fun _ =>
      ∀ name e, schema.member? "$id" = some (.str name) → name.startsWith "#" = false →
        (d.baseAt p).bind (resolveName · name) ≠ .error e := by
  unfold Compiling.registerPart
  split
  · rename_i name hname
    refine Keeps.ite (fun hanchor => .pure fun name' e hname' hanchor' => ?_) fun hanchor => ?_
    · cases hname.symm.trans hname'
      rw [hanchor] at hanchor'
      cases hanchor'
    · refine (Compiling.keeps_ofExcept fun _ h => h).bind fun uri huri => ?_
      refine (Keeps.trivial _).weaken fun _ _ name' e hname' _ => ?_
      cases hname.symm.trans hname'
      rw [huri]
      simp
  · rename_i hnone
    exact .pure fun name e hname => absurd hname (hnone name)

private theorem keeps_registerParts_named (d : Document) : Keeps (fun _ => True) (do
    for (p, schema) in schemaObjects .root d.content do
      Compiling.registerPart d p schema) fun _ => ∀ e, ¬d.Misnamed e := by
  refine runs_keeping_iff.1 ((Runs.forIn (S := fun entry _ => ∀ name e, entry.2.member? "$id" = some (.str name) →
    name.startsWith "#" = false → (d.baseAt entry.1).bind (resolveName · name) ≠ .error e) fun entry _ _ => ?_).bind
      fun _ => .pure fun _ h e => ?_)
  · exact (runs_keeping_iff.2 (keeps_registerPart_named d entry.1 entry.2)).seq fun _ => .pure fun _ _ h => ⟨rfl, h⟩
  · rintro ⟨p, schema, name, hmem, hname, hanchor, he⟩
    exact h.2 (p, schema) hmem name e hname hanchor he

/-- Where a document has been registered, none of its parts has a name that comes to no URI. -/
theorem keeps_registerDocument_named (d : Document) :
    Keeps (fun _ => True) (Compiling.registerDocument d) fun _ => ∀ e, ¬d.Misnamed e := by
  unfold Compiling.registerDocument
  split
  · exact (Keeps.trivial _).andThen (keeps_registerParts_named d)
  · exact keeps_registerParts_named d

/-- The compilation of a contained document in a fresh session files its root, or something breaks it. -/
theorem hasRun_compileAt (hd : d.Contained) (hbase : IsBase d.uri) {s t : Session} (hs : s.Fresh)
    {result : Except Failure Schema} (h : (Schema.compileAt setup d .root).run.run s = (result, t)) :
    HasRun setup d result := by
  cases Session.ended_compileAt h with
  | unregistered hfails hresult =>
    subst hresult
    exact .inl (Compiling.misnamed_of_registerDocument hfails)
  | unlocated he hresult =>
    subst hresult
    exact .inr (.inl he)
  | @compiled first root r hregistered hroot hrun hresult =>
    have hnamed := (keeps_registerDocument_named d s trivial).2
    rw [hregistered] at hnamed
    obtain ⟨homes, hregisters, rfl⟩ := hs.registers hregistered
    have hin : (survey setup d root s.registry.anonymous).InOrder [] { s with homes } :=
      .of_entries (s := { s with homes }) hs.entries rfl (hd.knows hregisters)
    obtain ⟨depth, hdepth⟩ : ∃ depth, depth = ({ s with homes } : Session).extent setup.world d .root + 1 := ⟨_, rfl⟩
    have hcompile : Runs ((survey setup d root s.registry.anonymous).course [])
        (fun t => (survey setup d root s.registry.anonymous).Pending [] t root) (compile setup depth root)
        fun n t => (survey setup d root s.registry.anonymous).filed t root.place n := by
      refine (lawful_survey hd hroot _).runs_compile (fun way t hway hlength _ hgood => ?_) depth List.nodup_nil
        (Nat.zero_add depth)
      -- There are not so many locations.
      have hle := length_le_extent hd hbase hroot hregisters hway (fun x hx => (hgood x hx).1) { s with homes } setup.world
      omega
    have hend := hcompile { s with homes } hin fun _ _ => ⟨⟨.refl, hroot.has⟩, fun x hx => by cases hx⟩
    rw [hdepth, hrun] at hend
    subst hresult
    cases r with
    | error e => exact .inr (.inr ⟨root, hroot, hend⟩)
    | ok n =>
      obtain ⟨-, -, hn⟩ := hend
      refine ⟨root, hroot, hn.self.mono (fun l hl => ?_) (fun _ _ _ _ ht => ht), hnamed () rfl⟩
      exact ⟨hl.1.1, hl.1.2, hl.2.1, hl.2.2⟩

/-- Where the root can be filed, only a sample breaks the compilation. -/
theorem Files.sampleFails (hd : d.Contained) (hroot : d.LocatedAt .root root) (h : d.Files setup root root.place n)
    (he : d.Breaks setup root e) : ∃ l members m, Scope.SampleFails setup.options (Location.pointer l) members m e := by
  cases he with
  | recursion hx hgo hplace => exact absurd hplace (h.acyclic hd hroot.has hx hgo)
  | refused hl hpasses =>
    obtain ⟨hvisits, m, hm⟩ := h.built hd hroot.has hl
    exact absurd ⟨⟨m, hm.mono (fun _ _ _ => trivial) fun _ _ _ _ _ => trivial⟩, hvisits.described⟩ hpasses
  | stray hl hvalue hinner href hnone =>
    obtain ⟨hvisits, m, hm⟩ := h.built hd hroot.has hl
    obtain ⟨t, fragment, -, ht, -⟩ :=
      hm.reference hvalue hinner (lookupKey_of_mem (hvisits.has.membersJson hd hvalue) href)
    exact absurd ⟨t, fragment, ht⟩ hnone
  | sample he => exact ⟨_, _, _, he⟩
  | unfit hl hunfit =>
    obtain ⟨hvisits, -⟩ := h.built hd hroot.has hl
    exact absurd ⟨hvisits.whole, hvisits.described⟩ hunfit

end Document

end Conform
