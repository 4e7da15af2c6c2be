import Conform.Proofs.Compile.Depth
import Conform.Proofs.Compile.Sequences

/-!
# The two ways to a schema under a URI

A schema can be asked for by its URI, or a schema that is compiled on its own can refer to it.  Both come to the same location
of the same document, unless the fragment is a plain name, and both compile it from sessions that differ in nothing but
the schema that refers (`Schema.compileUri_of_referring`).
-/

namespace Conform

open Library (AtHand)

/-! ### A schema that refers -/

/-- A schema that refers to a URI, and no more. -/
def referring (u : String) : Value := .ofPairs [("$ref", .str u)]

theorem lookupKey_referring {u name : String} (h : name ≠ "$ref") :
    lookupKey (.str name) [(.str "$ref", Value.str u)] = none := by
  simp [lookupKey, Scalar.sameKey, Ne.symm h]

section Referring

variable {setup : Setup} {descend : Location → Compiling Node} {d : Document} {u : String}

/-- What is built for it is a group of the reference. -/
theorem build_referring : build setup descend ⟨d, referring u, .root, none, none⟩ =
    (Location.scope ⟨d, referring u, .root, none, none⟩ setup descend [(.str "$ref", .str u)]).reference (.str u) >>= fun r =>
      pure (.group {} [r] none none none) := by
  have hkeyword : Keyword.ofName "$ref" = .reference := by decide +kernel
  have hschema : lookupKey (.str "$schema") [(.str "$ref", Value.str u)] = none := lookupKey_referring (by decide)
  simp only [build, referring, Value.ofPairs, List.map, Scope.object, hasKey, hschema, Location.scope]
  simp [Scope.enter, Scope.group, Scope.title, Scope.description, Scope.children, Scope.early, Scope.node?,
    Scope.selfCheck, Scope.samples, Scope.siteAt, Scope.Child.node?, Keyword.isLate, lookupKey_referring, hkeyword]

end Referring

/-- Where a reference leads, and what becomes of the session: its URI is asked for, and nothing else. -/
theorem Scope.run_target {setup : Setup} {descend : Location → Compiling Node} {l t : Location}
    {members : List (Scalar × Value)} {ref : String} {path : Pointer} {fragment : Option String} {s s' : Session}
    (h : ((l.scope setup descend members).target ref path).run.run s = (.ok (t, fragment), s')) :
    ∃ full uri home, resolveUri l.base ref = .ok full ∧ Uri.splitFragment full = (uri, fragment) ∧
      ((l.scope setup descend members).home uri).run.run s = (.ok home, s') ∧
      targetPointer? home.document.content home.origin fragment = .ok (some t.pointer) ∧
      valueAt? home.document.content t.pointer = .ok (some t.value) ∧ t.document = home.document ∧
      home.document.baseAt t.pointer = .ok t.base ∧ ∃ dialect, home.document.dialect? = .ok dialect ∧
        t.dialect = dialect.or l.dialect := by
  unfold target at h
  obtain ⟨full, s₁, hrun, h⟩ := exists_of_run_bind h
  obtain ⟨hfull, rfl⟩ := Compiling.of_run_ofExcept hrun
  split at h
  rename_i uri fragment' hsplit
  obtain ⟨home, s₂, hhome, h⟩ := exists_of_run_bind h
  obtain ⟨p, s₃, hrun, h⟩ := exists_of_run_bind h
  obtain ⟨hp, rfl⟩ := Compiling.of_run_ofExcept hrun
  split at h
  · cases h
  rename_i p
  obtain ⟨value, s₄, hrun, h⟩ := exists_of_run_bind h
  obtain ⟨hvalue, rfl⟩ := Compiling.of_run_ofExcept hrun
  split at h
  · cases h
  rename_i value
  obtain ⟨dialect, s₅, hrun, h⟩ := exists_of_run_bind h
  obtain ⟨hdialect, rfl⟩ := Compiling.of_run_ofExcept hrun
  obtain ⟨base, s₆, hrun, h⟩ := exists_of_run_bind h
  obtain ⟨hbase, rfl⟩ := Compiling.of_run_ofExcept hrun
  cases h
  exact ⟨full, uri, home, hfull, hsplit, hhome, hp, hvalue, rfl, hbase, dialect, hdialect, rfl⟩

/-- A document under a URI that names nothing yet is loaded and registered. -/
theorem Scope.run_home {setup : Setup} {descend : Location → Compiling Node} {l : Location}
    {members : List (Scalar × Value)} {uri : String} {home : Home} {s s' : Session} (hne : uri.isEmpty = false)
    (hunknown : s.homes.lookup uri = none)
    (h : ((l.scope setup descend members).home uri).run.run s = (.ok home, s')) :
    ∃ content s₁, (Compiling.resolve setup.world uri).run.run s = (.ok content, s₁) ∧
      (Compiling.registerDocument (.under uri content)).run.run s₁ = (.ok (), s') ∧ home = ⟨.under uri content, .root⟩ := by
  rw [Scope.run_home_of_unknown _ hne hunknown] at h
  obtain ⟨content, s₁, hresolve, h⟩ := exists_of_run_bind h
  obtain ⟨_, s₂, hregister, h⟩ := exists_of_run_bind h
  cases h
  exact ⟨content, s₁, hresolve, hregister, rfl⟩

/-! ### Addresses -/

/-- How the session of a schema that refers differs from one that has compiled nothing: it is compiling that schema. -/
def Frame.addressed (own : Place) (final : Session) : Frame where
  uri _ := False
  place p := p = own
  marked p := p = own
  reached _ := True
  forgives _ := True
  stray := False
  final := final

theorem Frame.lawful_addressed (setup : Setup) (own : Place) (final : Session) : (Frame.addressed own final).Lawful setup where
  part _ _ _ _ _ := trivial
  target _ _ _ _ _ := trivial
  marked h := ⟨h, trivial⟩
  place _ h := .inl h
  uri _ _ _ h := h.elim

/-- A fragment that is no plain name is the same pointer in a reference and in a URI that is asked for. -/
theorem targetPointer?_of_pointer {fragment : Option String}
    (h : ∀ text, fragment = some text → text = "" ∨ ∃ rest, text.toList = '/' :: rest) :
    ∃ p, Schema.fragmentPointer fragment = .ok p ∧ ∀ content, targetPointer? content .root fragment = .ok (some p) := by
  cases fragment with
  | none => exact ⟨.root, rfl, fun _ => rfl⟩
  | some text =>
    rcases h text rfl with rfl | ⟨rest, htext⟩
    · exact ⟨.root, rfl, fun _ => rfl⟩
    · have hne : text ≠ "" := by
        rintro rfl
        cases htext
      obtain ⟨q, hq⟩ := returns_targetPointer? .null .root (some text)
      -- Neither reader takes the text for a plain name or for no fragment at all, so both read it as a pointer.
      have htarget : ∀ content, targetPointer? content .root (some text) =
          ((Pointer.ofFragment text).map fun p => some (Pointer.root.append p)).mapError .pointer := by
        intro content
        simp only [targetPointer?, htext]
      have hfragment : Schema.fragmentPointer (some text) = (Pointer.ofFragment text).mapError .pointer := by
        unfold Schema.fragmentPointer
        split
        · cases ‹some text = none›
        · exact absurd (Option.some.inj ‹some text = some ""›) hne
        · cases ‹some text = some _›
          rfl
      cases hp : Pointer.ofFragment text with
      | error e =>
        rw [htarget, hp] at hq
        cases hq
      | ok p =>
        refine ⟨p, ?_, fun content => ?_⟩
        · rw [hfragment, hp]
          rfl
        · rw [htarget, hp]
          rfl

section Addresses

variable {setup : Setup} {u uri : String} {fragment : Option String}

/-- A schema that refers, and no more, is compiled by compiling what its URI leads to. -/
theorem exists_target_of_referring {schema : Schema} {t : Session}
    (h : (Schema.compileValue setup (referring u) none).run.run {} = (.ok schema, t)) :
    ∃ (own : Place) (F : Nat) (s s' s'' : Session) (descend : Location → Compiling Node) (root loc : Location)
      (fragment : Option String) (m : Node),
      (setup.world.resolver = .files → F = World.fileDepth + 2) ∧
      s.registry.find? own = some .compiling ∧ (∀ p, p ≠ own → s.registry.find? p = none) ∧ s.homes = [] ∧ s.loader = {} ∧
      root.base = none ∧ root.dialect = none ∧
      ((root.scope setup descend [(.str "$ref", .str u)]).target u (Pointer.root.child "$ref")).run.run s =
        (.ok (loc, fragment), s') ∧
      (compile setup F loc).run.run s' = (.ok m, s'') ∧
      schema.root = .group {} [.reference ⟨none, Pointer.root.child "$ref"⟩ m fragment] none none none := by
  have hkey : Compiling.anonymousKey.run.run {} = (.ok "urn:anonymous:1", { registry := { anonymous := 1 } }) := rfl
  have hsplit : Schema.compileValue setup (referring u) none = Compiling.anonymousKey >>= fun key =>
      Compiling.registerDocument ⟨key, none, referring u⟩ >>= fun _ =>
        Library.compileRegistered setup ⟨key, none, referring u⟩ .root := rfl
  have hregister : ∀ s, (Compiling.registerDocument ⟨"urn:anonymous:1", none, referring u⟩).run.run s = (.ok (), s) :=
    fun _ => rfl
  rw [hsplit, run_bind, hkey] at h
  dsimp only at h
  rw [run_bind, hregister] at h
  dsimp only at h
  -- The key and the registration leave nothing behind, so the root is compiled in a session as good as new.
  rcases Session.run_compileRegistered setup ⟨"urn:anonymous:1", none, referring u⟩ .root with
    ⟨e, -, hlost⟩ | ⟨root, hroot, hcompile⟩
  · rw [hlost] at h
    cases h
  rw [hcompile] at h
  obtain ⟨n, s₁, hn, h⟩ := exists_of_run_bind h
  cases h
  obtain ⟨document, value, pointer, base, dialect⟩ := root
  obtain rfl : document = _ := hroot.document
  obtain rfl : pointer = _ := hroot.pointer
  obtain rfl : referring u = value := Option.some.inj (Except.ok.inj hroot.value)
  obtain rfl : none = dialect := Except.ok.inj hroot.dialect
  obtain rfl : none = base := Except.ok.inj hroot.base
  -- To build the root is to find the target of its reference and to compile it.
  rw [compile, Compiling.run_getOrCreate_place, build_referring] at hn
  dsimp only [Location.place, Registry.find?, List.lookup] at hn
  split at hn
  · rename_i n' t' hbuild
    cases hn
    obtain ⟨r, s₁, hreference, hgroup⟩ := exists_of_run_bind hbuild
    cases hgroup
    obtain ⟨⟨loc, fragment⟩, s₂, htarget, hreference⟩ := exists_of_run_bind hreference
    obtain ⟨m, s₃, hm, hreference⟩ := exists_of_run_bind hreference
    cases hreference
    refine ⟨⟨"urn:anonymous:1", Pointer.root⟩, _, _, _, _, _, _, loc, fragment, m, fun hfiles => ?_, ?_, fun p hp => ?_,
      ?_, ?_, ?_, ?_, htarget, hm, rfl⟩
    · rw [Session.extent_files hfiles, Nat.add_comm]
      rfl
    · rw [Registry.mark, Registry.find?_set, if_pos rfl]
    · rw [Registry.mark, Registry.find?_set, if_neg hp]
      rfl
    · rfl
    · rfl
    · rfl
    · rfl
  · cases hn

/-- A document that a session loads while it compiles something else is loaded alike by one that compiles nothing. -/
private theorem exists_registered {content : Value} {s s₁ s' : Session} {own : Place} (final : Session)
    (huri : '#' ∉ uri.toList) (hloader : s.loader = {}) (hhomes : s.homes = [])
    (hentries : ∀ p, p ≠ own → s.registry.find? p = none) (hown : s.registry.find? own = some .compiling)
    (hresolve : (Compiling.resolve setup.world uri).run.run s = (.ok content, s₁))
    (hregister : (Compiling.registerDocument (.under uri content)).run.run s₁ = (.ok (), s')) :
    ∃ t₁ t' : Session, (Compiling.resolve setup.world uri).run.run {} = (.ok content, t₁) ∧
      (Compiling.registerDocument (.under uri content)).run.run t₁ = (.ok (), t') ∧
      (Frame.addressed own final).Matches s' t' ∧ t'.registry.entries = [] ∧
      (∀ {v d}, t'.loader.cache.lookup v = some d →
        AtHand setup.world (· = .under uri content) (.under v d.value)) ∧
      ∀ {v home}, t'.homes.lookup v = some home → (Document.under uri content).Claims v home := by
  rw [Compiling.run_resolve, hloader] at hresolve
  obtain ⟨hcontent, rfl⟩ := Prod.mk.inj hresolve
  have hright : (Compiling.resolve setup.world uri).run.run {} =
      (.ok content, { loader := ((Loader.fetch setup.world uri).run.run {}).2 }) := by
    rw [Compiling.run_resolve]
    exact Prod.ext hcontent rfl
  have hcached : ∀ v d, ((Loader.fetch setup.world uri).run.run {}).2.cache.lookup v = some d →
      AtHand setup.world (· = .under uri content) (.under v d.value) :=
    (Library.atHand_of_fetched (by rintro _ _ ⟨⟩) (Loader.run_fetch (Uri.dropFragment_of_not_mem huri) {})).1
  generalize ((Loader.fetch setup.world uri).run.run {}).2 = loader at hregister hright hcached
  -- The sessions differ in the mark of the schema that refers, and in nothing else.
  have hmatches : (Frame.addressed own final).Matches { s with loader } { loader } :=
    { cache := fun _ _ => rfl
      homes := fun v _ => congrArg (List.lookup v) hhomes
      entries := fun p hp => hentries p hp
      marked := fun p hp => by
        obtain rfl : p = own := hp
        exact hown }
  have halike : Alike (Frame.addressed own ((Compiling.registerDocument (.under uri content)).run.run { loader }).2) True
      (Compiling.registerDocument (.under uri content)) (Compiling.registerDocument (.under uri content)) :=
    .registerDocument _
  have hagrees := halike.agrees trivial { s with loader } { loader }
    ⟨hmatches.cache, hmatches.homes, hmatches.entries, hmatches.marked⟩ (.refl _)
  rw [hregister] at hagrees
  generalize hrun : (Compiling.registerDocument (.under uri content)).run.run { loader } = y at hagrees
  cases hagrees with
  | stray h => exact h.elim
  | same h =>
    rename_i t'
    obtain ⟨homes, hregisters, rfl⟩ := Compiling.registers_of_registerDocument hrun
    refine ⟨_, _, hright, hrun, ⟨h.cache, h.homes, h.entries, h.marked⟩, rfl, fun {v d} hd => hcached v d hd, ?_⟩
    exact hregisters.claims

/-- A location that a session compiles while it compiles something else is compiled alike by one that compiles nothing, which
may go as deep. -/
private theorem run_compileRegistered_addressed {d : Document} {p : Pointer} {loc : Location} {own : Place} {final : Session}
    {F : Nat} {m : Node} {s s' t : Session} (hbase : IsBase d.uri) (hlocated : d.LocatedAt p loc)
    (hmatches : (Frame.addressed own final).Matches s t) (hempty : t.registry.entries = [])
    (hcached : ∀ {v d'}, t.loader.cache.lookup v = some d' → AtHand setup.world (· = d) (.under v d'.value))
    (hclaims : ∀ {v home}, t.homes.lookup v = some home → d.Claims v home)
    (hF : setup.world.resolver = .files → F = World.fileDepth + 2) (hm : (compile setup F loc).run.run s = (.ok m, s')) :
    ∃ schema t', (Library.compileRegistered setup d p).run.run t = (.ok schema, t') ∧ schema.root = m := by
  rcases Session.run_compileRegistered setup d p with ⟨e, hlost, -⟩ | ⟨l, hl, hcompile⟩
  · exact absurd hlost hlocated.not_unlocated
  obtain rfl := hlocated.eq hl
  rw [hcompile, run_bind_pure]
  have hagrees := ((Frame.lawful_addressed setup own ((compile setup F loc).run.run t).2).alike_compile F).agrees trivial s t
    ⟨hmatches.cache, hmatches.homes, hmatches.entries, hmatches.marked⟩ (.refl _)
  rw [hm] at hagrees
  have hright : ((compile setup F loc).run.run t).1 = .ok m := by
    generalize (compile setup F loc).run.run t = y at hagrees
    cases hagrees with
    | same h => rfl
    | stray h => exact h.elim
  have hsame : ((compile setup (t.extent setup.world d p + 1) loc).run.run t).1 = .ok m := by
    rw [← hright]
    cases hresolver : setup.world.resolver with
    | files =>
      have hle : F ≤ t.extent setup.world d p + 1 := by
        have hextent := d.content.extent_pos (p.tokens.filter Pointer.isOddIndex ++ [d.content].flatMap Value.oddIndexes).length
        rw [hF hresolver, Session.extent_files hresolver, Pointer.extent, itemsExtent]
        omega
      rcases (compile_of_le hle loc t).1 with hequal | hendless
      · exact hequal.1.symm
      · rw [hright] at hendless
        cases hendless
    | table answers =>
      rcases compile_depth F (t.extent setup.world d p + 1) loc t with hequal | hendless | hendless
      · exact hequal.symm
      · rw [hright] at hendless
        cases hendless
      · exact absurd hendless (compile_ne_endless hresolver hbase hlocated hempty hcached hclaims (Nat.lt_succ_self _))
  exact ⟨_, _, Prod.ext (congrArg (Except.map (Schema.mk loc.place)) hsame) rfl, rfl⟩

/-- A schema that refers to a URI comes to what the URI leads to: the same schema is compiled when the URI itself is asked for,
unless its fragment is a plain name. -/
theorem Schema.compileUri_of_referring (hsplit : Uri.splitFragment u = (uri, fragment)) (hne : uri.isEmpty = false)
    (hpointer : ∀ text, fragment = some text → text = "" ∨ ∃ rest, text.toList = '/' :: rest) {schema : Schema} {t : Session}
    (h : (Schema.compileValue setup (referring u) none).run.run {} = (.ok schema, t)) :
    ∃ target, schema.root = .group {} [.reference ⟨none, Pointer.root.child "$ref"⟩ target fragment] none none none ∧
      ∃ schema' t', (Schema.compileUri setup u).run.run {} = (.ok schema', t') ∧ schema'.root = target := by
  obtain ⟨own, F, s, s', s'', descend, root, loc, fragment', m, hF, hown, hentries, hhomes, hloader, hbase, hdialect, htarget,
    hm, hschema⟩ := exists_target_of_referring h
  obtain ⟨full, uri', home, hfull, hsplit', hhome, hp, hvalue, hdocument, hbase', dialect, hdialect', hor⟩ :=
    Scope.run_target htarget
  rw [hbase] at hfull
  obtain rfl : u = full := Except.ok.inj hfull
  rw [hsplit] at hsplit'
  obtain ⟨rfl, rfl⟩ := Prod.mk.inj hsplit'
  have huri : '#' ∉ uri.toList := Uri.not_mem_of_splitFragment hsplit
  -- The document of the target is loaded while the root is marked; in a new session it is loaded in the same way.
  obtain ⟨content, s₁, hresolve, hregister, rfl⟩ := Scope.run_home hne (by rw [hhomes]; rfl) hhome
  obtain ⟨t₁, t', hresolve', hregister', hmatches, hempty, hcached, hclaims⟩ :=
    exists_registered s' huri hloader hhomes hentries hown hresolve hregister
  obtain ⟨p, hfragment, htargets⟩ := targetPointer?_of_pointer hpointer
  obtain rfl : p = loc.pointer := Option.some.inj (Except.ok.inj ((htargets content).symm.trans hp))
  have hlocated : (Document.under uri content).LocatedAt loc.pointer loc := by
    rw [hdialect, Option.or_none] at hor
    exact ⟨hdocument, rfl, hvalue, hor ▸ hdialect', hbase'⟩
  refine ⟨m, hschema, ?_⟩
  have hrun : (Schema.compileUri setup u).run.run {} =
      (Library.compileRegistered setup (.under uri content) loc.pointer).run.run t' := by
    unfold Schema.compileUri
    rw [hsplit]
    dsimp only
    rw [run_bind, hresolve']
    dsimp only
    rw [run_bind, Compiling.run_ofExcept, hfragment]
    dsimp only
    rw [Library.compileAt_eq, run_bind, hregister']
  rw [hrun]
  refine run_compileRegistered_addressed ?_ hlocated hmatches hempty hcached hclaims hF hm
  rintro _ ⟨⟩
  exact huri

end Addresses

namespace Schema

/-- A table of one document, with a part that carries a plain name. -/
def anchoredAnswers : List (String × Answer) :=
  [("http://x/a", .found ⟨.text r#"{"$defs": {"s": {"$anchor": "foo", "type": "string"}}}"#, none⟩)]

/-- The part is the same in a reference and when it is asked for, by a pointer that is percent-encoded. -/
theorem compileUri_of_referring_encoded : ∃ schema t schema' t' target,
    (compileValue { world := .ofTable anchoredAnswers } (referring "http://x/a#/%24defs/s") none).run.run {} =
      (.ok schema, t) ∧
    schema.root = .group {} [.reference ⟨none, Pointer.root.child "$ref"⟩ target (some "/%24defs/s")] none none none ∧
    (compileUri { world := .ofTable anchoredAnswers } "http://x/a#/%24defs/s").run.run {} = (.ok schema', t') ∧
    schema'.root = target := by
  obtain ⟨schema, t, h, -⟩ := exists_of_endsWith
    (x := (compileValue { world := .ofTable anchoredAnswers } (referring "http://x/a#/%24defs/s") none).run.run {})
    (p := fun _ _ => true) (by decide +kernel)
  have hpointer : ∀ text, some "/%24defs/s" = some text → text = "" ∨ ∃ rest, text.toList = '/' :: rest := by
    rintro _ ⟨⟩
    exact .inr ⟨_, rfl⟩
  obtain ⟨target, hroot, schema', t', h', htarget⟩ :=
    compileUri_of_referring (by decide +kernel : Uri.splitFragment "http://x/a#/%24defs/s" = ("http://x/a", some "/%24defs/s"))
      (by decide +kernel) hpointer h
  exact ⟨schema, t, schema', t', target, h, hroot, h', htarget⟩

/-- The node is that of an object with a reference, and the reference has the fragment. -/
private def refersWith (fragment : Option String) : Node → Bool
  | .group _ [.reference _ _ fragment'] _ _ _ => fragment' == fragment
  | _ => false

/-- By its plain name a reference leads to the part, but it cannot be asked for. -/
theorem compileUri_of_referring_plainName : ∃ schema t target,
    (compileValue { world := .ofTable anchoredAnswers } (referring "http://x/a#foo") none).run.run {} =
      (.ok schema, t) ∧
    schema.root = .group {} [.reference ⟨none, Pointer.root.child "$ref"⟩ target (some "foo")] none none none ∧
    ((compileUri { world := .ofTable anchoredAnswers } "http://x/a#foo").run.run {}).1 =
      .error (.pointer (.malformed "foo")) := by
  obtain ⟨schema, t, h, hshape⟩ := exists_of_endsWith
    (x := (compileValue { world := .ofTable anchoredAnswers } (referring "http://x/a#foo") none).run.run {})
    (p := fun schema _ => refersWith (some "foo") schema.root) (by decide +kernel)
  obtain ⟨_, _, _, _, _, _, _, _, fragment, target, -, -, -, -, -, -, -, -, -, hroot⟩ := exists_target_of_referring h
  rw [hroot] at hshape
  obtain rfl := beq_iff_eq.1 hshape
  exact ⟨schema, t, target, h, hroot, eq_error_of_failsWith (by decide +kernel)⟩

end Schema

end Conform
