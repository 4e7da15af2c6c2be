import Conform.Proofs.Compile.Sequences
import Conform.Proofs.Compile.Subnodes

/-!
# Documents of callers

The values that a caller has compiled without URIs are documents of their own, which are numbered.  A reference of such a
document that names the document itself or a part of it leads to what a new session compiles there, whatever documents
have been compiled before (`Schema.target_numbered`), unless one of the URIs that the reference comes to names something
in another of the documents.
-/

namespace Conform

/-- A value as a document without a URI, after so many others. -/
def Document.numbered (i : Nat) (v : Value) : Document := ⟨Place.anonymousStart ++ toString (i + 1), none, v⟩

namespace Library

/-- The values as documents without URIs, in order. -/
def Numbered (values : List Value) (d : Document) : Prop := ∃ i v, values[i]? = some v ∧ d = .numbered i v

section Alone

variable {w : World} {values : List Value} {D : Value} {i : Nat} {d : Document}

/-- A document at hand is one of the caller's, or it has a URI, under which it is filed. -/
theorem numbered_or_uri (hd : AtHand w (Numbered values) d) : Numbered values d ∨ d.uri = some d.key := by
  obtain (hd | ⟨uri, v, -, rfl⟩) | ⟨uri, v, _, short, -, -, -, rfl⟩ := hd
  · exact .inl hd
  · exact .inr rfl
  · exact .inr rfl

theorem eq_numbered_zero (h : Numbered [D] d) : d = .numbered 0 D := by
  obtain ⟨j, v, hv, rfl⟩ := h
  obtain ⟨hj, rfl⟩ := List.getElem?_eq_some_iff.1 hv
  have hj : j = 0 := by simpa using hj
  subst hj
  rfl

/-- A document of a caller's, as the first one and in its place among others. -/
theorem renames_swap [DecidableEq Document] (hD : values[i]? = some D) :
    Renames w (Numbered [D]) (Numbered values) (Equiv.swap (.numbered 0 D) (.numbered i D)) where
  involutive := Equiv.swap_apply_self _ _
  source := by
    rintro d (⟨j, v, hv, rfl⟩ | ⟨uri, v, hv, rfl⟩)
    · rw [eq_numbered_zero ⟨j, v, hv, rfl⟩, Equiv.swap_apply_left]
      exact .inl ⟨i, _, hD, rfl⟩
    · rw [Equiv.swap_apply_of_ne_of_ne (by simp [Document.numbered]) (by simp [Document.numbered])]
      exact .inr ⟨uri, v, hv, rfl⟩
  copy := by
    rintro d ⟨uri, v, name, short, -, -, -, rfl⟩
    exact Equiv.swap_apply_of_ne_of_ne (by simp [Document.numbered]) (by simp [Document.numbered])
  uri d := by
    rw [Equiv.swap_apply_def]
    split
    · rw [‹d = _›]
      rfl
    · split
      · rw [‹d = _›]
        rfl
      · rfl
  content d := by
    rw [Equiv.swap_apply_def]
    split
    · rw [‹d = _›]
      rfl
    · split
      · rw [‹d = _›]
        rfl
      · rfl

/-- An orderly library is orderly with one document of the caller's alone. -/
theorem Orderly.alone (hw : Orderly w (Numbered values)) (hD : values[i]? = some D) : Orderly w (Numbered [D]) := by
  classical
  have hf := renames_swap (w := w) hD
  have hother : ∀ {d}, AtHand w (Numbered [D]) d → d.uri = some d.key → AtHand w (Numbered values) d := by
    intro d hd huri
    have hhand := hf.atHand hd
    rwa [Equiv.swap_apply_of_ne_of_ne] at hhand
    · rintro rfl
      cases huri
    · rintro rfl
      cases huri
  -- No document of the world has the key of a first document.
  have hfirst : ∀ {d}, AtHand w (Numbered [D]) d → d.uri = some d.key → d.key ≠ (Document.numbered 0 D).key := by
    intro d hd huri hkey
    obtain ⟨hi, -⟩ := List.getElem?_eq_some_iff.1 hD
    have hzero : values[0]? = some values[0] := List.getElem?_eq_getElem (by omega)
    have heq := hw.key (hother hd huri) (.inl (.inl ⟨0, _, hzero, rfl⟩)) hkey
    rw [heq] at huri
    cases huri
  refine ⟨⟨fun hd => ?_, fun hd hd' hdialect => ?_, hw.names⟩, fun {d d'} hd hd' hkey => ?_⟩
  · rw [← hf.content]
    exact hw.json (hf.atHand hd)
  · rw [← hf.dialect?] at hdialect ⊢
    exact hw.dialects (hf.atHand hd) (hf.atHand hd') hdialect
  · rcases numbered_or_uri hd with hnumbered | huri
    · rcases numbered_or_uri hd' with hnumbered' | huri'
      · rw [eq_numbered_zero hnumbered, eq_numbered_zero hnumbered']
      · rw [eq_numbered_zero hnumbered] at hkey
        exact (hfirst hd' huri' hkey.symm).elim
    · rcases numbered_or_uri hd' with hnumbered' | huri'
      · rw [eq_numbered_zero hnumbered'] at hkey
        exact (hfirst hd huri hkey).elim
      · exact hw.key (hother hd huri) (hother hd' huri') hkey

theorem eq_of_numbered_key {i j : Nat} {v v' : Value}
    (h : (Document.numbered i v).key = (Document.numbered j v').key) : i = j := by
  have hnumeral : toString (i + 1) = toString (j + 1) := by
    have hchars := congrArg String.toList h
    simp only [Document.numbered, String.toList_append, List.append_cancel_left_eq] at hchars
    exact String.toList_inj.1 hchars
  have hindex := Pointer.index?_toString (i + 1)
  rw [hnumeral, Pointer.index?_toString] at hindex
  cases hindex
  rfl

/-- Where the world has no documents, JSON documents of a caller's that declare no dialects are orderly. -/
theorem orderly_numbered (hworld : ∀ uri v, ¬w.Gives uri v)
    (hvalues : ∀ v ∈ values, v.isJson = true ∧ v.member? "$schema" = none) : Orderly w (Numbered values) := by
  have hhand : ∀ {d}, AtHand w (Numbered values) d → Numbered values d := by
    rintro d ((hd | ⟨uri, v, hv, -⟩) | ⟨uri, v, _, _, hv, -⟩)
    · exact hd
    · exact (hworld uri v hv).elim
    · exact (hworld uri v hv).elim
  have hcontent : ∀ {d}, AtHand w (Numbered values) d → d.content.isJson = true ∧ d.content.member? "$schema" = none := by
    intro d hd
    obtain ⟨i, v, hv, rfl⟩ := hhand hd
    exact hvalues v (List.mem_of_getElem? hv)
  refine ⟨⟨fun hd => (hcontent hd).1, fun hd _ hdialect => ?_, fun hv => (hworld _ _ hv).elim⟩, fun hd hd' hkey => ?_⟩
  · rw [Document.dialect?, (hcontent hd).2] at hdialect
    cases hdialect
  · obtain ⟨i, v, hv, rfl⟩ := hhand hd
    obtain ⟨j, v', hv', rfl⟩ := hhand hd'
    cases eq_of_numbered_key hkey
    rw [hv] at hv'
    cases hv'
    rfl

end Alone

/-! ### Documents that refer to themselves only -/

/-- The value is no object with a reference to another document. -/
def refersBack (v : Value) : Bool := (v.member? "$ref").all fun ref => ref.text?.all (·.toList.head? == some '#')

/-- A JSON value in which nothing has a name, and all references are to the document itself. -/
structure IsInward (v : Value) : Prop where
  json : v.isJson = true
  nameless : v.every Value.isNameless = true
  back : v.every refersBack = true

section Inward

variable {w : World} {own : Document → Prop} {d : Document} {l t : Location} {members : List (Scalar × Value)}

theorem IsInward.of_mem {key : Scalar} {v : Value} (h : IsInward (.obj members)) (hv : (key, v) ∈ members) :
    IsInward v where
  json := (isJson_of_mem h.json hv).2
  nameless := every_of_mem_members h.nameless hv
  back := every_of_mem_members h.back hv

theorem IsInward.of_mem_items {vs : List Value} {v : Value} (h : IsInward (.arr vs)) (hv : v ∈ vs) : IsInward v where
  json := itemsJson_iff.1 h.json v hv
  nameless := every_of_mem_items h.nameless hv
  back := every_of_mem_items h.back hv

theorem IsInward.of_eval {p : Pointer} {D v : Value} (hD : IsInward D) (h : p.eval D = .ok v) : IsInward v :=
  Pointer.of_eval (P := IsInward) (fun _ _ => IsInward.of_mem_items) (fun _ _ _ => IsInward.of_mem) hD h

/-- A location in an inward document, under no URI. -/
structure InwardIn (d : Document) (t : Location) : Prop where
  document : t.document = d
  base : t.base = none
  value : IsInward t.value

theorem InwardIn.of_lies (hd : IsInward d.content) (huri : d.uri = none) (hdocument : t.document = d)
    (hlies : t.Lies) (hbased : t.Based) : InwardIn d t := by
  unfold Location.Lies at hlies
  unfold Location.Based at hbased
  rw [hdocument] at hlies
  rw [hdocument, Document.baseAt, huri] at hbased
  exact ⟨hdocument, baseAlong_of_nameless hd.nameless hbased, hd.of_eval hlies⟩

private theorem InwardIn.inner {inner : Location} (ht : InwardIn d t) (hvalue : t.value = .obj members)
    (hinner : t.Inner members inner) : inner.base = none := by
  have hnameless := Value.of_every ht.value.nameless
  rw [hvalue, Value.isNameless, Option.isNone_iff_eq_none] at hnameless
  rw [hinner.eq_of_nameless hnameless, ht.base]

/-- A reference at such a location names the document itself. -/
theorem InwardIn.refers {uri : String} (ht : InwardIn d t) (h : t.Refers uri) : uri.isEmpty = true := by
  obtain ⟨members, inner, ref, full, fragment, hvalue, hinner, href, hfull, hsplit⟩ := h
  have hback := Value.of_every ht.value.back
  have hjson := ht.value.json
  rw [hvalue] at hback hjson
  rw [refersBack, Value.member?, lookupKey_of_mem hjson href] at hback
  simp only [Value.text?, Option.all_some, beq_iff_eq] at hback
  obtain ⟨rest, hrest⟩ := List.head?_eq_some_iff.1 hback
  rw [ht.inner hvalue hinner] at hfull
  cases hfull
  rw [Uri.splitFragment, hrest] at hsplit
  simp only [Text.cut?, beq_self_eq_true, ↓reduceIte, Prod.mk.injEq] at hsplit
  rw [← hsplit.1]
  rfl

theorem InwardIn.part {inner sub : Location} (ht : InwardIn d t) (hvalue : t.value = .obj members)
    (hinner : t.Inner members inner) (hsub : sub ∈ inner.subschemas members) : InwardIn d sub := by
  obtain ⟨hdocument, hbase, -⟩ := Location.of_mem_subschemas hsub
  refine ⟨hdocument.trans (hinner.document.trans ht.document), hbase.trans (ht.inner hvalue hinner), ?_⟩
  have hinward := ht.value
  rw [hvalue] at hinward
  obtain ⟨name, v, hmem, hpart⟩ := Location.mem_subschemas hsub
  have hv := hinward.of_mem hmem
  rcases hpart with rfl | ⟨vs, i, w, rfl, hw, rfl⟩ | ⟨es, key, w, rfl, hw, rfl⟩
  · exact hv
  · exact hv.of_mem_items (List.mem_of_getElem? hw)
  · exact hv.of_mem hw

/-- The target of a reference is inward, where the document is the home of URIs that say nothing. -/
theorem InwardIn.target {homes : String → Home → Prop} {inner u : Location} {ref : String} {fragment : Option String}
    (hd : IsInward d.content) (huri : d.uri = none) (ht : InwardIn d t) (hvalue : t.value = .obj members)
    (hinner : t.Inner members inner) (href : (.str "$ref", .str ref) ∈ members)
    (hhomes : ∀ uri home, uri.isEmpty = true → homes uri home → home.document = d)
    (htarget : TargetOf homes inner ref u fragment) : InwardIn d u := by
  have hlies := htarget.lies
  obtain ⟨full, uri, home, hfull, hsplit, hhome, -, -, hdocument, hbase, -⟩ := htarget
  have hempty := ht.refers ⟨members, inner, ref, full, fragment, hvalue, hinner, href, hfull, hsplit⟩
  exact .of_lies hd huri (hdocument.trans (hhomes uri home hempty hhome)) hlies hbase

private theorem InwardIn.passage {u : Location} (hd : IsInward d.content) (huri : d.uri = none) (ht : InwardIn d t)
    (h : Passage w own t u) : InwardIn d u := by
  cases h with
  | part hvalue _ hinner hsub => exact ht.part hvalue hinner hsub
  | reference hvalue hinner href htarget =>
    refine ht.target hd huri hvalue hinner href (fun uri home hempty hhome => ?_) htarget
    rcases hhome with ⟨-, rfl⟩ | ⟨hne, -⟩
    · exact hinner.document.trans ht.document
    · rw [hempty] at hne
      cases hne

/-- From an inward document without a URI no reference is ambiguous, whatever other documents there are. -/
theorem unambiguous_of_inward (hd : IsInward d.content) (huri : d.uri = none) (hl : Located w own l) (hdocument : l.document = d) :
    Unambiguous w own l := by
  have hreached : ∀ t, Relation.ReflTransGen (Passage w own) l t → InwardIn d t := by
    intro t ht
    induction ht with
    | refl => exact .of_lies hd huri hdocument hl.lies hl.based
    | tail _ hpassage ih => exact ih.passage hd huri hpassage
  intro t ht uri home home' hrefers hhome hhome'
  have hempty := (hreached t ht).refers hrefers
  rcases hhome with ⟨-, rfl⟩ | ⟨hne, -⟩
  · rcases hhome' with ⟨-, rfl⟩ | ⟨hne, -⟩
    · rfl
    · rw [hempty] at hne
      cases hne
  · rw [hempty] at hne
    cases hne

end Inward

end Library

namespace Schema

open Library

variable {setup : Setup} {before : List Value} {D : Value} {schema fresh : Schema} {t t₀ : Session}

/-- Compiles a value without a URI after others. -/
def compileValueAfter (setup : Setup) (before : List Value) (v : Value) : Compiling Schema := do
  let _ ← before.mapM (compileValue setup · none)
  compileValue setup v none

theorem run_compileValueAfter (hw : Orderly setup.world (Numbered (before ++ [D])))
    (h : (compileValueAfter setup before D).run.run {} = (.ok schema, t)) :
    Holds setup (Numbered (before ++ [D])) (before.length + 1) t ∧
      Compiles setup (Numbered (before ++ [D])) (.numbered before.length D) .root schema := by
  unfold compileValueAfter at h
  rw [run_bind] at h
  generalize hbefore : (before.mapM (compileValue setup · none)).run.run {} = r at h
  obtain ⟨r, s⟩ := r
  cases r with
  | error e => cases h
  | ok _ =>
    have hs : Holds setup (Numbered (before ++ [D])) before.length s := by
      refine run_mapM (I := Holds setup (Numbered (before ++ [D]))) (fun i v s _ t hv hs ht => ?_)
        (holds_start setup _) hbefore
      exact (run_compileValue hw hs ⟨i, v, List.getElem?_append_left (List.getElem?_eq_some_iff.1 hv).1 ▸ hv, rfl⟩ ht).1
    exact run_compileValue hw hs ⟨before.length, D, by simp, rfl⟩ h

/-- After whatever documents a reference of a document leads to what a new session compiles for the location that it
names, if it names the document itself or a part of it, and no URI that it comes to names two things. -/
theorem target_numbered (hw : Orderly setup.world (Numbered (before ++ [D])))
    (h : (compileValueAfter setup before D).run.run {} = (.ok schema, t))
    (hfresh : (compileValue setup D none).run.run {} = (.ok fresh, t₀)) {p o : Pointer} {n target : Node} {s : Site}
    {fragment : Option String} {ref full uri : String} (hn : t.registry.node? ⟨schema.place.document, p⟩ = some n)
    (hmem : .reference s target fragment ∈ n.subnodes) (href : s.path.eval D = .ok (.str ref))
    (hfull : resolveUri s.uri ref = .ok full) (hsplit : Uri.splitFragment full = (uri, fragment))
    (ho : Names setup.world (Numbered (before ++ [D])) (.numbered before.length D) uri ⟨.numbered before.length D, o⟩)
    (hone : ∀ l, Located setup.world (Numbered (before ++ [D])) l → l.place = ⟨schema.place.document, p⟩ →
      Unambiguous setup.world (Numbered (before ++ [D])) l) :
    ∃ q, targetPointer? D o fragment = .ok (some q) ∧
      ∀ m, t₀.registry.node? ⟨fresh.place.document, q⟩ = some m → target = m := by
  classical
  have hindex : (before ++ [D])[before.length]? = some D := by simp
  have hw₀ := hw.alone hindex
  have hf := renames_swap (w := setup.world) hindex
  obtain ⟨ht, -, root, hroot, hplace, -⟩ := run_compileValueAfter hw h
  obtain ⟨ht₀, -, root₀, hroot₀, hplace₀, -⟩ := run_compileValue hw₀ (holds_start setup _) ⟨0, D, rfl, rfl⟩ hfresh
  rw [hplace, Location.place, hroot.document] at hn hone
  rw [hplace₀, Location.place, hroot₀.document]
  obtain ⟨l, hl, hlp, hbuilt⟩ := (ht.files hn).cases
  have hdocument : l.document = .numbered before.length D :=
    hw.key hl.atHand (.inl (.inl ⟨_, D, hindex, rfl⟩)) (congrArg Place.document hlp)
  obtain ⟨members, inner, ref', x, hvalue, hinner, hmember, hx, htarget, rfl⟩ := hbuilt.reference_of_mem hmem
  have htext := hl.eval_ref hw hvalue hinner hmember
  rw [hdocument] at htext
  cases Except.ok.inj (htext.symm.trans href)
  have hlocated := hl.target hw hinner (hinner.document ▸ hx)
  have hpassage : Passage setup.world (Numbered (before ++ [D])) l x := .reference hvalue hinner hmember hx
  obtain ⟨full', uri', home, hfull', hsplit', hhome, hpointer, -, hxdocument, -⟩ := hx
  cases Except.ok.inj (hfull.symm.trans hfull')
  cases hsplit.symm.trans hsplit'
  rw [hinner.document] at hhome
  have hhomeeq := hone l hl hlp l .refl uri home _ ⟨members, inner, ref, full, fragment, hvalue, hinner, hmember, hfull,
    hsplit⟩ hhome (hdocument ▸ ho)
  rw [hdocument] at hhomeeq
  subst hhomeeq
  refine ⟨x.pointer, hpointer, fun m hm => ?_⟩
  have hfiles := ht₀.files hm
  obtain ⟨l₀, hl₀, hlp₀, -⟩ := hfiles.cases
  have hdocument₀ : l₀.document = .numbered 0 D :=
    hw₀.key hl₀.atHand (.inl (.inl ⟨0, D, rfl, rfl⟩)) (congrArg Place.document hlp₀)
  -- In the session after others the location lies in the document that stands for the one of the new session.
  have hrenamed : l₀.renamed (Equiv.swap (.numbered 0 D) (.numbered before.length D)) = x := by
    refine (hl₀.renamed hf).unique hw hlocated ?_
    have hpointer₀ : l₀.pointer = x.pointer := CodePointer.codes_inj.1 (congrArg Place.pointer hlp₀)
    rw [Location.place, Location.place, Location.renamed, hdocument₀, Equiv.swap_apply_left, hxdocument, hpointer₀]
  have hambiguous : Unambiguous setup.world (Numbered (before ++ [D])) x :=
    fun y hy => hone l hl hlp y (.head hpassage hy)
  rw [← hlp₀] at hfiles
  rw [← hrenamed] at htarget hambiguous
  exact (Files.agree hw₀ hw hf hl₀ hambiguous hfiles (htarget.mono (fun _ h => h) fun _ _ _ _ h => h)).symm

/-- Two documents that give themselves one name. -/
def namesakes : List Value :=
  [.ofPairs [("$id", .str "http://x/s"), ("$defs", .ofPairs [("a", .ofPairs [("maxLength", .int 2)])])],
    .ofPairs [("$id", .str "http://x/s"), ("maxLength", .int 3)]]

/-- A document that refers to a part of itself. -/
def inwardDocument : Value :=
  .ofPairs [("$defs", .ofPairs [("a", .ofPairs [("maxLength", .int 4)])]), ("$ref", .str "#/$defs/a")]

/-- The children are one reference to the part, with such a site and such a target. -/
private def refersToPart (p : Site → Node → Bool) : List Node → Bool
  | [.reference s target (some "/$defs/a")] => p s target
  | _ => false

theorem target_numbered_namesakes : ∃ schema fresh t t₀ n s target m,
    (compileValueAfter { world := .ofTable [] } namesakes inwardDocument).run.run {} = (.ok schema, t) ∧
    (compileValue { world := .ofTable [] } inwardDocument none).run.run {} = (.ok fresh, t₀) ∧
    t.registry.node? ⟨schema.place.document, Pointer.root⟩ = some n ∧
    n.subnodes = [.reference s target (some "/$defs/a")] ∧
    t₀.registry.node? ⟨fresh.place.document, ⟨["$defs", "a"]⟩⟩ = some m ∧ target = m := by
  obtain ⟨schema, t, h, hsub⟩ := exists_of_endsWith
    (x := (compileValueAfter { world := .ofTable [] } namesakes inwardDocument).run.run {})
    (p := fun schema t => schema.place.document == (Document.numbered 2 inwardDocument).key &&
      (t.registry.node? ⟨schema.place.document, Pointer.root⟩).any fun n =>
        refersToPart (fun s _ => s.uri == none && s.path == ⟨["$ref"]⟩) n.subnodes) (by decide +kernel)
  obtain ⟨hkey, hsub⟩ := Bool.and_eq_true_iff.1 hsub
  obtain ⟨schema₀, t₀, h₀, hsub₀⟩ := exists_of_endsWith
    (x := (compileValue { world := .ofTable [] } inwardDocument none).run.run {})
    (p := fun schema t => (t.registry.node? ⟨schema.place.document, ⟨["$defs", "a"]⟩⟩).isSome) (by decide +kernel)
  obtain ⟨n, hn, hsub⟩ := (Option.any_eq_true _ _).1 hsub
  obtain ⟨m, hm⟩ := Option.isSome_iff_exists.1 hsub₀
  unfold refersToPart at hsub
  split at hsub
  · rename_i s target hnodes
    simp only [Bool.and_eq_true, beq_iff_eq] at hsub
    refine ⟨schema, schema₀, t, t₀, n, s, target, m, h, h₀, hn, hnodes, hm, ?_⟩
    -- What is left are the premises of the general statement: nothing is served, and no document declares a dialect.
    have hw : Orderly (.ofTable []) (Numbered (namesakes ++ [inwardDocument])) := by
      refine orderly_numbered (fun uri v hgives => ?_) fun v hv => ?_
      · obtain ⟨r, hr, -⟩ := hgives
        cases (Loader.serves_table rfl).1 hr
      have hall : (namesakes ++ [inwardDocument]).all (fun v => v.isJson && (v.member? "$schema").isNone) = true := by
        decide +kernel
      simpa using List.all_eq_true.1 hall v hv
    have hinward : IsInward inwardDocument := ⟨by decide +kernel, by decide +kernel, by decide +kernel⟩
    have hnode : .reference s target (some "/$defs/a") ∈ n.subnodes := by
      rw [hnodes]
      exact List.mem_cons_self
    have href : s.path.eval inwardDocument = .ok (.str "#/$defs/a") := by
      rw [hsub.2]
      rfl
    have hfull : resolveUri s.uri "#/$defs/a" = .ok "#/$defs/a" := by
      rw [hsub.1]
      rfl
    have hsplit : Uri.splitFragment "#/$defs/a" = ("", some "/$defs/a") := by decide +kernel
    obtain ⟨q, hq, htarget⟩ := target_numbered hw h h₀ hn hnode href hfull hsplit
      (.inl ⟨rfl, rfl⟩) fun l hl hplace => unambiguous_of_inward (d := .numbered 2 inwardDocument) hinward rfl hl <|
        hw.key hl.atHand (.inl (.inl ⟨2, _, rfl, rfl⟩)) ((congrArg Place.document hplace).trans (beq_iff_eq.1 hkey))
    have hpointer : (targetPointer? inwardDocument .root (some "/$defs/a")).toOption = some (some ⟨["$defs", "a"]⟩) := by
      decide +kernel
    rw [toOption_eq_some, hq] at hpointer
    cases hpointer
    exact htarget m hm
  · cases hsub

/-- A document that gives itself the same name, and refers to a part of itself. -/
def namedInwardDocument : Value :=
  .ofPairs [("$id", .str "http://x/s"), ("$defs", .ofPairs [("a", .ofPairs [("type", .str "integer")])]),
    ("$ref", .str "#/$defs/a")]

/-- A reference to a part of the document itself leads into an earlier document that gives itself the same name. -/
theorem target_of_namesake : ∃ schema fresh t t₀ n s target m,
    (compileValueAfter { world := .ofTable [] } namesakes namedInwardDocument).run.run {} = (.ok schema, t) ∧
    (compileValue { world := .ofTable [] } namedInwardDocument none).run.run {} = (.ok fresh, t₀) ∧
    t.registry.node? ⟨schema.place.document, Pointer.root⟩ = some n ∧
    n.subnodes = [.reference s target (some "/$defs/a")] ∧
    t₀.registry.node? ⟨fresh.place.document, ⟨["$defs", "a"]⟩⟩ = some m ∧
    target.accepts (.str "ab") = .ok true ∧ m.accepts (.str "ab") = .ok false := by
  obtain ⟨schema, t, h, hsub⟩ := exists_of_endsWith
    (x := (compileValueAfter { world := .ofTable [] } namesakes namedInwardDocument).run.run {})
    (p := fun schema t => (t.registry.node? ⟨schema.place.document, Pointer.root⟩).any fun n =>
      refersToPart (fun _ target => (target.accepts (.str "ab")).toOption == some true) n.subnodes) (by decide +kernel)
  obtain ⟨schema₀, t₀, h₀, hsub₀⟩ := exists_of_endsWith
    (x := (compileValue { world := .ofTable [] } namedInwardDocument none).run.run {})
    (p := fun schema t => (t.registry.node? ⟨schema.place.document, ⟨["$defs", "a"]⟩⟩).any fun m =>
      (m.accepts (.str "ab")).toOption == some false) (by decide +kernel)
  obtain ⟨n, hn, hsub⟩ := (Option.any_eq_true _ _).1 hsub
  obtain ⟨m, hm, hrefuses⟩ := (Option.any_eq_true _ _).1 hsub₀
  unfold refersToPart at hsub
  split at hsub
  · rename_i s target hnodes
    exact ⟨schema, schema₀, t, t₀, n, s, target, m, h, h₀, hn, hnodes, hm, toOption_eq_some.1 (beq_iff_eq.1 hsub),
      toOption_eq_some.1 (beq_iff_eq.1 hrefuses)⟩
  · cases hsub

end Schema

end Conform
