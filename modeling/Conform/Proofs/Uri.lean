import Conform.Uri
import Mathlib.Data.List.Infix
import Mathlib.Data.List.TakeWhile

/-!
# Fragments of URIs

What comes before the first separator of a text has none (`Text.eq_of_cut?`), so a URI that its fragment has been
cut off is left as it is where fragments are dropped (`Uri.dropFragment_of_splitFragment`).  A URI that is put together
from parts without a fragment mark has none but that of its fragment (`Uri.Plain`), so what a reference is resolved to has
the fragment of the reference (`Uri.fragment_of_resolve`).  A reference with a scheme and an authority of its own denotes
itself under every base (`Uri.StandsAlone`).
-/

namespace Conform

namespace Text

theorem cut?_eq_none {sep : Char} {cs : List Char} : cut? sep cs = none ↔ sep ∉ cs := by
  induction cs with
  | nil => simp [cut?]
  | cons c cs ih =>
    rw [cut?]
    by_cases hc : c = sep
    · simp [hc]
    · simp [hc, ih, Ne.symm hc]

theorem eq_of_cut? {sep : Char} {cs before after : List Char} (h : cut? sep cs = some (before, after)) :
    cs = before ++ sep :: after ∧ sep ∉ before := by
  induction cs generalizing before with
  | nil => cases h
  | cons c cs ih =>
    rw [cut?] at h
    split at h
    · rename_i hc
      have hc : c = sep := by simpa using hc
      cases h
      simp [hc]
    · rename_i hc
      have hc : sep ≠ c := fun heq => hc (by simp [heq])
      obtain ⟨⟨front, rest⟩, hcut, heq⟩ := Option.map_eq_some_iff.1 h
      cases heq
      obtain ⟨rfl, hfront⟩ := ih hcut
      simp [hc, hfront]

theorem cut?_append {sep : Char} {front : List Char} (h : sep ∉ front) (cs : List Char) :
    cut? sep (front ++ cs) = (cut? sep cs).map fun (before, after) => (front ++ before, after) := by
  induction front with
  | nil => simp
  | cons c front ih =>
    rw [List.mem_cons, not_or] at h
    rw [List.cons_append, cut?, if_neg (by simpa using Ne.symm h.1), ih h.2, Option.map_map]
    rfl

theorem mem_of_mem_fields {sep c : Char} {cs part : List Char} (hpart : part ∈ fields sep cs) (hc : c ∈ part) : c ∈ cs := by
  induction cs generalizing part with
  | nil =>
    rw [fields, List.mem_singleton] at hpart
    rw [hpart] at hc
    cases hc
  | cons d cs ih =>
    rw [fields] at hpart
    split at hpart
    · rcases List.mem_cons.1 hpart with rfl | hpart
      · cases hc
      · exact List.mem_cons_of_mem _ (ih hpart hc)
    · split at hpart
      · rename_i first rest hrest
        rw [hrest] at ih
        rcases List.mem_cons.1 hpart with rfl | hpart
        · rcases List.mem_cons.1 hc with rfl | hc
          · exact List.mem_cons_self
          · exact List.mem_cons_of_mem _ (ih List.mem_cons_self hc)
        · exact List.mem_cons_of_mem _ (ih (List.mem_cons_of_mem _ hpart) hc)
      · rename_i hnil
        exact absurd hnil (fields_ne_nil sep cs)

theorem mem_of_mem_join {sep c : Char} {parts : List (List Char)} (h : c ∈ join sep parts) :
    c = sep ∨ ∃ part ∈ parts, c ∈ part := by
  induction parts with
  | nil => cases h
  | cons part parts ih =>
    cases parts with
    | nil => exact .inr ⟨part, List.mem_cons_self, h⟩
    | cons next parts =>
      rw [join, List.mem_append, List.mem_cons] at h
      · rcases h with h | rfl | h
        · exact .inr ⟨part, List.mem_cons_self, h⟩
        · exact .inl rfl
        · rcases ih h with h | ⟨other, hother, hc⟩
          · exact .inl h
          · exact .inr ⟨other, List.mem_cons_of_mem _ hother, hc⟩
      · simp

end Text

namespace Uri

theorem dropFragment_of_not_mem {uri : String} (h : '#' ∉ uri.toList) : dropFragment uri = .ok uri := by
  unfold dropFragment
  rw [if_neg (by simpa using h)]

theorem not_mem_of_splitFragment {full uri : String} {fragment : Option String}
    (h : splitFragment full = (uri, fragment)) : '#' ∉ uri.toList := by
  unfold splitFragment at h
  split at h
  · rename_i hcut
    cases h
    exact Text.cut?_eq_none.1 hcut
  · rename_i hcut
    cases h
    rw [String.toList_ofList]
    exact (Text.eq_of_cut? hcut).2

/-- A URI that its fragment has been cut off stays as it is. -/
theorem dropFragment_of_splitFragment {full uri : String} {fragment : Option String}
    (h : splitFragment full = (uri, fragment)) : dropFragment uri = .ok uri :=
  dropFragment_of_not_mem (not_mem_of_splitFragment h)

/-! ### Parts without a fragment mark -/

/-- No part of the URI but its fragment has the mark of fragments. -/
structure Plain (u : Uri) : Prop where
  scheme : '#' ∉ u.scheme
  authority : '#' ∉ u.authority
  path : '#' ∉ u.path
  parameters : '#' ∉ u.parameters
  query : '#' ∉ u.query

theorem mem_of_mem_cutOff {sep c : Char} {cs : List Char} (h : c ∈ (cutOff sep cs).1 ∨ c ∈ (cutOff sep cs).2) : c ∈ cs := by
  unfold cutOff at h
  cases hcut : Text.cut? sep cs with
  | none => simpa [hcut] using h
  | some parts =>
    obtain ⟨front, rest⟩ := parts
    rw [hcut] at h
    rw [(Text.eq_of_cut? hcut).1]
    rcases h with h | h
    · exact List.mem_append_left _ h
    · exact List.mem_append_right _ (List.mem_cons_of_mem _ h)

theorem not_mem_cutOff (sep : Char) (cs : List Char) : sep ∉ (cutOff sep cs).1 := by
  unfold cutOff
  cases hcut : Text.cut? sep cs with
  | none => exact Text.cut?_eq_none.1 hcut
  | some parts => exact (Text.eq_of_cut? hcut).2

/-- No letter is small where the mark of fragments is. -/
private theorem eq_of_toLower {c : Char} (h : c.toLower = '#') : c = '#' := by
  unfold Char.toLower at h
  split at h
  · rename_i hc
    have hlow : 65 ≤ c.val.toNat := hc.1
    have hhigh : c.val.toNat ≤ 90 := hc.2
    have hval : (c.val.toNat + 32) % 4294967296 = 35 := congrArg (fun d : Char => d.val.toNat) h
    omega
  · exact h

private theorem not_mem_of_all {cs : List Char} (h : cs.all isSchemeChar = true) : '#' ∉ cs := by
  intro hmem
  have hmark := List.all_eq_true.1 h '#' hmem
  revert hmark
  decide

/-- The scheme that a text is cut at has no mark, as it stands and in lower case. -/
private theorem eq_of_cutScheme? {cs scheme rest : List Char} (h : cutScheme? cs = some (scheme, rest)) :
    '#' ∉ scheme ∧ ∃ front, '#' ∉ front ∧ cs = front ++ rest := by
  unfold cutScheme? at h
  split at h
  · split at h
    · split at h
      · rename_i front rest' hcut
        split at h
        · rename_i hall
          cases h
          have hfront := not_mem_of_all hall
          refine ⟨fun hmem => ?_, front ++ [':'], ?_, ?_⟩
          · obtain ⟨c, hc, hlower⟩ := List.mem_map.1 hmem
            exact hfront (eq_of_toLower hlower ▸ hc)
          · simp [hfront]
          · rw [(Text.eq_of_cut? hcut).1, List.append_assoc]
            rfl
        · cases h
      · cases h
    · cases h
  · cases h

private theorem eq_of_cutAuthority (cs : List Char) : '#' ∉ (cutAuthority cs).1 ∧
    ∃ front, '#' ∉ front ∧ cs = front ++ (cutAuthority cs).2 := by
  unfold cutAuthority
  split
  · rename_i rest
    rw [List.span_eq_takeWhile_dropWhile]
    have hauthority : '#' ∉ rest.takeWhile fun c => !(c == '/' || c == '?' || c == '#') := by
      intro hmem
      simpa using List.mem_takeWhile_imp hmem
    refine ⟨hauthority, '/' :: '/' :: rest.takeWhile fun c => !(c == '/' || c == '?' || c == '#'), ?_, ?_⟩
    · simpa using hauthority
    · rw [List.cons_append, List.cons_append, List.takeWhile_append_dropWhile]
  · exact ⟨by simp, [], by simp, rfl⟩

/-- A text that is taken apart has its fragment behind the first mark. -/
theorem plain_of_ofText {inherited text : List Char} {u : Uri} (hinherited : '#' ∉ inherited)
    (h : ofText inherited text = .ok u) : u.Plain ∧ u.fragment = ((Text.cut? '#' (clean text)).map (·.2)).getD [] := by
  unfold ofText at h
  dsimp only at h
  have hscheme : '#' ∉ ((cutScheme? (clean text)).getD (inherited, clean text)).1 ∧
      ∃ front, '#' ∉ front ∧ clean text = front ++ ((cutScheme? (clean text)).getD (inherited, clean text)).2 := by
    cases hcut : cutScheme? (clean text) with
    | none => exact ⟨hinherited, [], by simp, rfl⟩
    | some parts => exact eq_of_cutScheme? hcut
  generalize (cutScheme? (clean text)).getD (inherited, clean text) = parts at h hscheme
  obtain ⟨scheme, cs⟩ := parts
  obtain ⟨hscheme, front, hfront, hclean⟩ := hscheme
  obtain ⟨hauthority, front', hfront', hcs⟩ := eq_of_cutAuthority cs
  dsimp only at h hclean hcs
  generalize cutAuthority cs = parts at h hauthority hcs
  obtain ⟨authority, rest⟩ := parts
  dsimp only at h hauthority hcs
  split at h
  · cases h
  · split at h
    · cases h
    · cases h
      have hpath := not_mem_cutOff '#' rest
      refine ⟨⟨hscheme, hauthority, ?_, by simp, ?_⟩, ?_⟩
      · exact fun hmem => hpath (mem_of_mem_cutOff (.inl hmem))
      · exact fun hmem => hpath (mem_of_mem_cutOff (.inr hmem))
      · rw [hclean, hcs, ← List.append_assoc, Text.cut?_append (by simp [hfront, hfront'])]
        unfold cutOff
        cases Text.cut? '#' rest <;> rfl

theorem mem_of_mem_cutParameters {scheme path : List Char} {c : Char}
    (h : c ∈ (cutParameters scheme path).1 ∨ c ∈ (cutParameters scheme path).2) : c ∈ path := by
  unfold cutParameters at h
  split at h
  · split at h
    · exact mem_of_mem_cutOff h
    · rename_i front segment hlast
      obtain ⟨⟨after, before⟩, hcut, heq⟩ := Option.map_eq_some_iff.1 hlast
      cases heq
      have hpath : path = before.reverse ++ '/' :: after.reverse := by
        rw [← List.reverse_reverse path, (Text.eq_of_cut? hcut).1]
        simp
      split at h
      · simpa using h
      · rename_i segment' parameters hcut'
        rw [hpath, (Text.eq_of_cut? hcut').1]
        simp only [List.mem_append, List.mem_cons] at h ⊢
        grind
  · simpa using h

theorem Plain.parametrized {u : Uri} (h : u.Plain) : u.parametrized.Plain where
  scheme := h.scheme
  authority := h.authority
  path hmem := h.path (mem_of_mem_cutParameters (.inl hmem))
  parameters hmem := h.path (mem_of_mem_cutParameters (.inr hmem))
  query := h.query

/-! ### Resolving without a fragment mark -/

theorem mem_of_mem_removeDots {done segments : List (List Char)} {part : List Char} (h : part ∈ removeDots done segments) :
    part ∈ done ∨ part ∈ segments := by
  induction segments generalizing done with
  | nil => exact .inl (by simpa [removeDots] using h)
  | cons segment segments ih =>
    unfold removeDots at h
    split at h
    · cases ‹_ = _›
    · cases ‹_ = _›
      exact (ih h).imp List.mem_of_mem_drop (List.mem_cons_of_mem _)
    · cases ‹_ = _›
      exact (ih h).imp id (List.mem_cons_of_mem _)
    · cases ‹_ = _›
      rcases ih h with h | h
      · rcases List.mem_cons.1 h with rfl | h
        · exact .inr List.mem_cons_self
        · exact .inl h
      · exact .inr (List.mem_cons_of_mem _ h)

theorem mem_of_mem_dropInnerEmpty {segments : List (List Char)} {part : List Char} (h : part ∈ dropInnerEmpty segments) :
    part ∈ segments := by
  unfold dropInnerEmpty at h
  split at h
  · exact h
  · rename_i first rest
    rw [List.cons_append, List.mem_cons, List.mem_append] at h
    rcases h with rfl | h | h
    · exact List.mem_cons_self
    · exact List.mem_cons_of_mem _ (List.mem_of_mem_dropLast (List.mem_of_mem_filter h))
    · exact List.mem_cons_of_mem _ (List.mem_of_getLast? (Option.mem_toList.1 h))

private theorem mem_of_mem_baseSegments {path part : List Char} (h : part ∈ baseSegments path) :
    part ∈ Text.fields '/' path := by
  unfold baseSegments at h
  dsimp only at h
  split at h
  · exact h
  · exact List.mem_of_mem_dropLast h

theorem mem_of_mem_joinPaths {base path : List Char} {c : Char} (h : c ∈ joinPaths base path) :
    c = '/' ∨ c ∈ base ∨ c ∈ path := by
  have hsegments : ∀ part ∈ (if path.head? == some '/' then Text.fields '/' path
      else dropInnerEmpty (baseSegments base ++ Text.fields '/' path)), ∀ d ∈ part, d ∈ base ∨ d ∈ path := by
    intro part hpart d hd
    split at hpart
    · exact .inr (Text.mem_of_mem_fields hpart hd)
    · rcases List.mem_append.1 (mem_of_mem_dropInnerEmpty hpart) with hpart | hpart
      · exact .inl (Text.mem_of_mem_fields (mem_of_mem_baseSegments hpart) hd)
      · exact .inr (Text.mem_of_mem_fields hpart hd)
  unfold joinPaths at h
  dsimp only at h
  generalize (if path.head? == some '/' then Text.fields '/' path
    else dropInnerEmpty (baseSegments base ++ Text.fields '/' path)) = segments at h hsegments
  -- The dot segments are taken away, and at most an empty one is put at the end.
  have hresolved : ∀ part ∈ (if segments.getLast? == some ['.'] || segments.getLast? == some ['.', '.']
      then removeDots [] segments ++ [[]] else removeDots [] segments), ∀ d ∈ part, d ∈ base ∨ d ∈ path := by
    intro part hpart d hd
    have hpart : part ∈ removeDots [] segments ∨ part = [] := by
      split at hpart
      · simpa using hpart
      · exact .inl hpart
    rcases hpart with hpart | rfl
    · rcases mem_of_mem_removeDots hpart with hpart | hpart
      · cases hpart
      · exact hsegments part hpart d hd
    · cases hd
  generalize (if segments.getLast? == some ['.'] || segments.getLast? == some ['.', '.']
    then removeDots [] segments ++ [[]] else removeDots [] segments) = parts at h hresolved
  split at h
  · exact .inl (List.mem_singleton.1 h)
  · rcases Text.mem_of_mem_join h with h | ⟨part, hpart, hc⟩
    · exact .inl h
    · exact .inr (hresolved part hpart c hc)

theorem Plain.resolveParts {b r : Uri} (hb : b.Plain) (hr : r.Plain) : (resolveParts b r).Plain := by
  unfold Uri.resolveParts
  split
  · exact hr
  · have hauthority : '#' ∉ if schemeIn authoritySchemes r.scheme then b.authority else r.authority := by
      split
      · exact hb.authority
      · exact hr.authority
    dsimp only
    split
    · refine ⟨hr.scheme, hauthority, hb.path, hb.parameters, ?_⟩
      dsimp only
      split
      · exact hb.query
      · exact hr.query
    · refine ⟨hr.scheme, hauthority, fun hmem => ?_, hr.parameters, hr.query⟩
      rcases mem_of_mem_joinPaths hmem with h | h | h
      · cases h
      · exact hb.path h
      · exact hr.path h

theorem fragment_resolveParts (b r : Uri) : (resolveParts b r).fragment = r.fragment := by
  unfold resolveParts
  split
  · rfl
  · dsimp only
    split <;> rfl

private theorem not_mem_hierarchy {scheme authority path : List Char} (hauthority : '#' ∉ authority) (hpath : '#' ∉ path) :
    '#' ∉ hierarchy scheme authority path := by
  unfold hierarchy
  split
  · dsimp only
    split <;> simp [hauthority, hpath]
  · exact hpath

/-- The text of a URI has its fragment behind the first mark. -/
theorem Plain.text_eq {u : Uri} (h : u.Plain) : ∃ front, '#' ∉ front ∧ u.text = front ++ marked '#' u.fragment := by
  have hmarked : ∀ (mark : Char) {part : List Char}, mark ≠ '#' → '#' ∉ part → '#' ∉ marked mark part := by
    intro mark part hmark hpart
    unfold marked
    split
    · simp
    · simp [Ne.symm hmark, hpart]
  have hpath : '#' ∉ u.path ++ marked ';' u.parameters := by simp [h.path, hmarked ';' (by decide) h.parameters]
  have hbody : '#' ∉ hierarchy u.scheme u.authority (u.path ++ marked ';' u.parameters) :=
    not_mem_hierarchy h.authority hpath
  refine ⟨_, ?_, rfl⟩
  rw [List.mem_append, not_or]
  refine ⟨?_, hmarked '?' (by decide) h.query⟩
  split
  · exact hbody
  · simp [h.scheme, hbody]

/-- A URI that its fragment has been dropped from has no mark. -/
theorem not_mem_of_dropFragment {uri short : String} (h : dropFragment uri = .ok short) : '#' ∉ short.toList := by
  unfold dropFragment at h
  split at h
  · cases hu : ofText [] uri.toList with
    | error fault =>
      rw [hu] at h
      cases h
    | ok u =>
      rw [hu] at h
      cases h
      have hplain := (plain_of_ofText (by simp) hu).1.parametrized
      obtain ⟨front, hfront, heq⟩ := Plain.text_eq (u := { u.parametrized with fragment := [] })
        ⟨hplain.scheme, hplain.authority, hplain.path, hplain.parameters, hplain.query⟩
      rw [String.toList_ofList, heq]
      simpa [marked] using hfront
  · rename_i hmark
    cases h
    simpa using hmark

/-- What a reference is resolved to has the fragment of the reference, as it stands or as a reader of URIs takes it. -/
theorem fragment_of_resolve {base ref full uri fragment : String} (hbase : '#' ∉ base.toList)
    (h : resolve base ref = .ok full) (hsplit : splitFragment full = (uri, some fragment)) :
    (∃ front, Text.cut? '#' ref.toList = some (front, fragment.toList)) ∨
      ∃ front, Text.cut? '#' (clean ref.toList) = some (front, fragment.toList) := by
  have hcut : ∃ front, Text.cut? '#' full.toList = some (front, fragment.toList) := by
    unfold splitFragment at hsplit
    split at hsplit
    · cases hsplit
    · rename_i front rest hcut
      cases hsplit
      exact ⟨front, by rw [hcut, String.toList_ofList]⟩
  unfold resolve at h
  split at h
  · cases h
    exact .inl hcut
  · split at h
    · cases h
      obtain ⟨front, hcut⟩ := hcut
      rw [Text.cut?_eq_none.2 hbase] at hcut
      cases hcut
    · cases hb : ofText [] base.toList with
      | error fault =>
        rw [hb] at h
        cases h
      | ok b =>
        rw [hb] at h
        simp only [Except.map, Except.bind] at h
        have hplain := (plain_of_ofText (by simp) hb).1.parametrized
        cases hr : ofText b.parametrized.scheme ref.toList with
        | error fault =>
          rw [hr] at h
          cases h
        | ok r =>
          rw [hr] at h
          dsimp only at h
          split at h
          · cases h
            exact .inl hcut
          · cases h
            obtain ⟨hrplain, hfragment⟩ := plain_of_ofText hplain.scheme hr
            obtain ⟨front, hfront, heq⟩ := (hplain.resolveParts hrplain.parametrized).text_eq
            obtain ⟨front', hcut⟩ := hcut
            rw [String.toList_ofList, heq, fragment_resolveParts, Text.cut?_append hfront] at hcut
            have hfragment : r.parametrized.fragment = ((Text.cut? '#' (clean ref.toList)).map (·.2)).getD [] := hfragment
            rw [hfragment] at hcut
            -- A fragment that is not in the text of the URI is empty or has not been there.
            cases hclean : Text.cut? '#' (clean ref.toList) with
            | none =>
              rw [hclean] at hcut
              cases hcut
            | some parts =>
              rw [hclean] at hcut
              obtain ⟨front'', rest⟩ := parts
              cases rest with
              | nil => cases hcut
              | cons c rest =>
                have hrest : c :: rest = fragment.toList := congrArg Prod.snd (Option.some.inj hcut)
                exact .inr ⟨front'', by rw [← hrest]⟩

/-! ### References that stand by themselves -/

/-- The reference has a scheme of its own and denotes itself wherever it stands: references under its scheme are not
resolved, or it has an authority and is spelled as its parts are put together. -/
def StandsAlone (ref : String) : Prop :=
  (cutScheme? (clean ref.toList)).isSome ∧ ∃ r, ofText [] ref.toList = .ok r ∧
    (schemeIn relativeSchemes r.scheme = false ∨ r.authority ≠ [] ∧ r.parametrized.text = ref.toList)

theorem mem_authoritySchemes {scheme : String} (h : scheme ∈ relativeSchemes) : scheme ∈ authoritySchemes := by
  have hall : ∀ scheme ∈ relativeSchemes, scheme ∈ authoritySchemes := by decide
  exact hall scheme h

/-- A text with a scheme of its own is taken apart in the same way under every scheme. -/
theorem ofText_of_cutScheme? {text : List Char} (h : (cutScheme? (clean text)).isSome) (inherited : List Char) :
    ofText inherited text = ofText [] text := by
  obtain ⟨parts, hparts⟩ := Option.isSome_iff_exists.1 h
  unfold ofText
  dsimp only
  rw [hparts]
  rfl

theorem eq_of_resolve_of_standsAlone {base ref uri : String} (h : StandsAlone ref) (hresolve : resolve base ref = .ok uri) :
    uri = ref := by
  obtain ⟨hscheme, r, hr, hkind⟩ := h
  unfold resolve at hresolve
  by_cases hbase : base.isEmpty = true
  · rw [if_pos hbase] at hresolve
    exact (Except.ok.inj hresolve).symm
  rw [if_neg hbase] at hresolve
  by_cases hempty : ref.isEmpty = true
  · have hnil : ref = "" := String.isEmpty_iff.1 hempty
    rw [hnil] at hscheme
    cases hscheme
  rw [if_neg hempty] at hresolve
  cases hb : ofText [] base.toList with
  | error fault =>
    rw [hb] at hresolve
    cases hresolve
  | ok b =>
    rw [hb] at hresolve
    simp only [Except.map, Except.bind, ofText_of_cutScheme? hscheme, hr] at hresolve
    split at hresolve
    · exact (Except.ok.inj hresolve).symm
    · rename_i hresolved
      obtain ⟨-, hlisted⟩ := not_or.1 (mt Bool.or_eq_true_iff.2 hresolved)
      have hrelative : schemeIn relativeSchemes r.scheme = true := by simpa [parametrized] using hlisted
      rcases hkind with hforeign | ⟨hauthority, htext⟩
      · rw [hrelative] at hforeign
        cases hforeign
      · -- A reference with an authority is what it is resolved to, so nothing is done but to put it together again.
        have hlists : schemeIn authoritySchemes r.scheme = true :=
          List.contains_iff_mem.2 (mem_authoritySchemes (List.contains_iff_mem.1 hrelative))
        have hnonempty : r.authority.isEmpty = false := by simpa using hauthority
        have hparts : resolveParts b.parametrized r.parametrized = r.parametrized :=
          if_pos (Bool.and_eq_true_iff.2 ⟨hlists, by simp [parametrized, hnonempty]⟩)
        rw [hparts, htext] at hresolve
        rw [← Except.ok.inj hresolve, String.ofList_toList]

end Uri

end Conform
