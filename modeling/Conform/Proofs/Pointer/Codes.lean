import Conform.Proofs.CodePointer
import Conform.Proofs.Pointer.Text

/-!
# Reading back pointers of code points

A pointer is read back from its text, whatever its tokens hold, and an accepted text is the one that its pointer is written
as exactly if every `~` in it starts an escape.  The two fragments are made of bytes: they are to be had exactly if no half
of a surrogate pair stands alone in a token, and then the pointer is read back from each of them
(`CodePointer.read_back`).

Escapes are put in and taken out within the runs of characters, so what is known of texts without halves carries over, run
by run.
-/

namespace Conform

namespace CodePointer

open CodeText (ofString mapRunsFrom)
open Pointer (Escaped escaped_cons escaped_append_cons escaped_nil)

/-! ### Texts -/

theorem unescape_escape (t : CodeText) : unescape (escape t) = t := by
  obtain ⟨cs⟩ := t
  change CodeText.mk (mapRunsFrom Pointer.unescape [] (mapRunsFrom Pointer.escape [] cs)) = ⟨cs⟩
  rw [CodeText.mapRunsFrom_mapRunsFrom]
  simp only [Pointer.unescape_escape]
  rw [CodeText.mapRunsFrom_id]
  rfl

theorem not_mem_escape (t : CodeText) : .char '/' ∉ (escape t).codes := by
  intro h
  obtain ⟨run, hrun⟩ := CodeText.exists_run_of_mem_mapRuns h
  exact Pointer.not_mem_escape run hrun

/-- The text of a pointer denotes it. -/
theorem parse_text (p : CodePointer) : parse p.text = .ok p := by
  obtain ⟨tokens⟩ := p
  cases tokens with
  | nil => rfl
  | cons t ts =>
    have hslash : ∀ cs ∈ (escape t).codes :: ts.map fun t => (escape t).codes, .char '/' ∉ cs := by
      intro cs hcs
      rcases List.mem_cons.1 hcs with rfl | hcs
      · exact not_mem_escape t
      · obtain ⟨u, -, rfl⟩ := List.mem_map.1 hcs
        exact not_mem_escape u
    have hfields := Text.fields_flatMap (escape t).codes (ts.map fun t => (escape t).codes) hslash
    rw [List.flatMap_map] at hfields
    simp only [parse, text, List.flatMap_cons, List.cons_append]
    rw [hfields]
    have hread : ∀ t : CodeText, unescape ⟨(escape t).codes⟩ = t := unescape_escape
    simp [hread, Function.comp_def]

/-! ### Texts that are the text of their pointer -/

theorem escaped_map {cs : List Char} : Escaped CodePoint.char (cs.map .char) ↔ Escaped id cs := by
  induction cs with
  | nil => exact iff_of_true escaped_nil escaped_nil
  | cons c cs ih =>
    rw [List.map_cons, escaped_cons, escaped_cons, ih]
    simp [List.head?_map]

/-- A half ends a run. -/
private theorem append_half_inj {r r' : List Char} {h : Fin 2048} {cs cs' : List CodePoint} :
    r.map .char ++ .half h :: cs = r'.map .char ++ .half h :: cs' ↔ r = r' ∧ cs = cs' := by
  induction r generalizing r' with
  | nil => cases r' <;> simp
  | cons c r ih => cases r' <;> simp [ih, and_assoc]

private theorem escape_unescape_from_iff (run : List Char) {cs : List CodePoint} (hrun : '/' ∉ run) (hcs : .char '/' ∉ cs) :
    mapRunsFrom (fun r => Pointer.escape (Pointer.unescape r)) run cs = run.reverse.map .char ++ cs ↔
      Escaped CodePoint.char (run.reverse.map .char ++ cs) := by
  have hinj : Function.Injective CodePoint.char := fun _ _ h => CodePoint.char.inj h
  have hrun' : '/' ∉ run.reverse := by simpa using hrun
  -- The induction is on the code points; a run is judged where it ends.
  induction cs generalizing run with
  | nil =>
    rw [mapRunsFrom, List.append_nil, (List.map_injective_iff.2 hinj).eq_iff, escaped_map]
    exact Pointer.escape_unescape_iff hrun'
  | cons c cs ih =>
    have hcs' : .char '/' ∉ cs := fun hmem => hcs (List.mem_cons_of_mem _ hmem)
    cases c with
    | char c =>
      have hc : c ≠ '/' := fun heq => hcs (by simp [heq])
      have hstep := ih (c :: run) (by simp [hrun, hc.symm]) hcs' (by simp [hrun, hc.symm])
      simpa [mapRunsFrom] using hstep
    | half h =>
      have hrest := ih [] (by simp) hcs' (by simp)
      rw [List.reverse_nil, List.map_nil, List.nil_append] at hrest
      rw [mapRunsFrom, append_half_inj, escaped_append_cons (by simp), escaped_map]
      exact and_congr (Pointer.escape_unescape_iff hrun') hrest

theorem escape_unescape_iff {cs : List CodePoint} (h : .char '/' ∉ cs) :
    escape (unescape ⟨cs⟩) = ⟨cs⟩ ↔ Escaped CodePoint.char cs := by
  have hfrom := escape_unescape_from_iff [] (by simp) h
  rw [List.reverse_nil, List.map_nil, List.nil_append] at hfrom
  rw [← hfrom, ← CodeText.mapRunsFrom_mapRunsFrom]
  exact CodeText.mk.injEq .. ▸ Iff.rfl

/-- An accepted text is empty, or a slash comes before each of its parts. -/
private theorem codes_of_parse {t : CodeText} {p : CodePointer} (h : parse t = .ok p) :
    ∃ parts : List (List CodePoint), (∀ cs ∈ parts, .char '/' ∉ cs) ∧ t.codes = parts.flatMap (.char '/' :: ·) ∧
      p.tokens = parts.map fun cs => unescape ⟨cs⟩ := by
  unfold parse at h
  split at h
  · rename_i hempty
    cases h
    exact ⟨[], by simp, hempty, rfl⟩
  · rename_i rest hslash
    cases h
    refine ⟨Text.fields (.char '/') rest, fun cs hcs => Text.not_mem_of_mem_fields hcs, ?_, rfl⟩
    rw [hslash, Text.flatMap_fields]
  · cases h

/-- The text of a pointer is the one that it has been read from exactly if every `~` in that starts an escape. -/
theorem text_eq_iff_of_parse {t : CodeText} {p : CodePointer} (h : parse t = .ok p) :
    p.text = t ↔ Escaped CodePoint.char t.codes := by
  obtain ⟨parts, hslash, ht, hp⟩ := codes_of_parse h
  have htext : p.text.codes = (parts.map fun cs => (escape (unescape ⟨cs⟩)).codes).flatMap (.char '/' :: ·) := by
    rw [text, hp, List.flatMap_map, List.flatMap_map]
  have hwritten : ∀ cs ∈ parts.map fun cs => (escape (unescape ⟨cs⟩)).codes, .char '/' ∉ cs := by
    intro cs hcs
    obtain ⟨part, -, rfl⟩ := List.mem_map.1 hcs
    exact not_mem_escape _
  have hmap : parts.map (fun cs => (escape (unescape ⟨cs⟩)).codes) = parts ↔
      ∀ cs ∈ parts, (escape (unescape ⟨cs⟩)).codes = cs := by
    simpa using (List.map_inj_left : parts.map (fun cs => (escape (unescape ⟨cs⟩)).codes) = parts.map id ↔ _)
  have hcodes : p.text = t ↔ p.text.codes = t.codes := by
    cases t
    exact CodeText.mk.injEq .. ▸ Iff.rfl
  rw [hcodes, htext, ht, Text.flatMap_sep_inj hwritten hslash, hmap, Pointer.escaped_flatMap (by decide)]
  refine forall₂_congr fun cs hcs => ?_
  rw [← escape_unescape_iff (hslash cs hcs)]
  exact CodeText.mk.injEq .. ▸ Iff.rfl

/-! ### Texts without halves -/

private theorem fields_map (sep : Char) (cs : List Char) :
    Text.fields (CodePoint.char sep) (cs.map .char) = (Text.fields sep cs).map (·.map .char) := by
  induction cs with
  | nil => rfl
  | cons c cs ih =>
    rw [List.map_cons, Text.fields, Text.fields, ih]
    by_cases hc : c = sep
    · simp [hc]
    · cases hfields : Text.fields sep cs with
      | nil => exact absurd hfields (Text.fields_ne_nil sep cs)
      | cons part parts => simp [hc]

/-- A text without halves denotes the pointer of texts that it denotes as one. -/
theorem parse_ofString (s : String) : parse s = (Pointer.parse s).map Pointer.codes := by
  unfold parse Pointer.parse ofString
  cases s.toList with
  | nil => rfl
  | cons c rest =>
    by_cases hc : c = '/'
    · subst hc
      simp only [List.map_cons, fields_map, Except.map, Pointer.codes, List.map_map]
      refine congrArg (fun tokens => Except.ok (CodePointer.mk tokens)) (List.map_congr_left fun part _ => ?_)
      have hpart := CodeText.mapRuns_ofString Pointer.unescape (String.ofList part)
      rwa [ofString, String.toList_ofList] at hpart
    · simp [hc, Except.map]

/-- The text of a pointer of texts is its text as one. -/
theorem text_codes (q : Pointer) : (q : CodePointer).text = q.text := by
  have hescape : ∀ s : String, (escape s).codes = (Pointer.escape s.toList).map .char := by
    intro s
    rw [escape, CodeText.mapRuns_ofString, ofString, String.toList_ofList]
  rw [text, Pointer.text, Pointer.codes, ofString, String.toList_ofList, List.flatMap_map, List.map_flatMap]
  exact congrArg CodeText.mk (List.flatMap_congr fun s _ => by rw [hescape, List.map_cons])

theorem text_eq_iff_of_parse_ofString {t : String} {q : Pointer} (h : Pointer.parse t = .ok q) :
    q.text = t ↔ Escaped id t.toList := by
  have hcodes : parse t = .ok q := by
    rw [parse_ofString, h]
    rfl
  rw [← CodeText.ofString_inj, ← text_codes, text_eq_iff_of_parse hcodes]
  exact escaped_map

/-! ### Fragments -/

theorem ofFragment_ofString (s : String) : ofFragment s = (Pointer.ofFragment s).map Pointer.codes := by
  have hdecode : ∀ cs : List Char, CodeText.mapRuns Text.Percent.decode ⟨cs.map .char⟩ =
      String.ofList (Text.Percent.decode cs) := by
    intro cs
    have hcs := CodeText.mapRuns_ofString Text.Percent.decode (String.ofList cs)
    rwa [ofString, String.toList_ofList] at hcs
  unfold ofFragment Pointer.ofFragment ofString
  cases s.toList with
  | nil => exact (congrArg parse (hdecode [])).trans (parse_ofString _)
  | cons c rest =>
    by_cases hc : c = '#'
    · subst hc
      exact (congrArg parse (hdecode rest)).trans (parse_ofString _)
    · have hbody := (congrArg parse (hdecode (c :: rest))).trans (parse_ofString _)
      simpa [hc] using hbody

theorem ofFragment_of_fragmentKeeping {keep : Char → Bool} (hkeep : Text.Percent.Plain keep) {p : CodePointer} {s : String}
    (h : p.fragmentKeeping keep = .ok s) : ofFragment s = .ok p := by
  obtain ⟨q, rfl⟩ := isPlain_iff.1 (exists_fragmentKeeping_iff.1 ⟨s, h⟩)
  rw [fragmentKeeping_codes] at h
  cases h
  rw [ofFragment_ofString, Pointer.ofFragment_fragmentKeeping hkeep]
  rfl

/-- A pointer is read back from its text, so no text is written for two pointers, and an accepted text is the one that its
pointer is written as exactly if every `~` in it is followed by `0` or `1`.  The two fragments of a pointer are to be had
exactly if no half of a surrogate pair stands alone in its tokens; then the pointer is read back from either, and neither is
written for two pointers. -/
theorem read_back :
    ((∀ p : CodePointer, parse p.text = .ok p) ∧ Function.Injective text) ∧
    (∀ p : CodePointer, ((∃ s, p.fragment = .ok s) ↔ p.IsPlain) ∧ ((∃ s, p.schemaFragment = .ok s) ↔ p.IsPlain)) ∧
    (∀ (p : CodePointer) s, p.fragment = .ok s ∨ p.schemaFragment = .ok s → ofFragment s = .ok p) ∧
    (∀ (p q : CodePointer) s, p.fragment = .ok s ∧ q.fragment = .ok s ∨ p.schemaFragment = .ok s ∧ q.schemaFragment = .ok s →
      p = q) ∧
    ∀ t p, parse t = .ok p → (p.text = t ↔ Escaped CodePoint.char t.codes) := by
  have hread : ∀ (p : CodePointer) s, p.fragment = .ok s ∨ p.schemaFragment = .ok s → ofFragment s = .ok p := by
    rintro p s (h | h)
    · exact ofFragment_of_fragmentKeeping (fun _ hc => by cases hc) h
    · exact ofFragment_of_fragmentKeeping (fun c hc => by rw [beq_iff_eq.1 hc]; decide) h
  refine ⟨⟨parse_text, fun p q heq => ?_⟩, fun p => ⟨exists_fragmentKeeping_iff, exists_fragmentKeeping_iff⟩, hread, ?_,
    fun _ _ => text_eq_iff_of_parse⟩
  · have hp := parse_text p
    rw [heq, parse_text q] at hp
    exact (Except.ok.inj hp).symm
  · rintro p q s (⟨hp, hq⟩ | ⟨hp, hq⟩)
    · exact Except.ok.inj ((hread p s (.inl hp)).symm.trans (hread q s (.inl hq)))
    · exact Except.ok.inj ((hread p s (.inr hp)).symm.trans (hread q s (.inr hq)))

/-- The first `~` of the text starts an escape, the second does not; a half of a pair stands beside it. -/
theorem read_back_loose :
    let t : CodeText := ⟨[.char '/', .char '~', .char '1', .half 0, .char '~', .half 1024]⟩
    let p : CodePointer := ⟨[⟨[.char '/', .half 0, .char '~', .half 1024]⟩]⟩
    parse t = .ok p ∧ p.text ≠ t := by
  intro t p
  have hparse : parse t = .ok p := by decide
  refine ⟨hparse, fun h => ?_⟩
  have hescaped := (read_back.2.2.2.2 t p hparse).1 h
  rcases hescaped [.char '/', .char '~', .char '1', .half 0] [.half 1024] rfl with hhead | hhead
  · cases hhead
  · cases hhead

/-- A token that is half of a surrogate pair has no bytes to write in a fragment. -/
theorem fragment_of_half :
    (⟨[⟨[.half 0]⟩]⟩ : CodePointer).fragment = .error ⟨[.half 0]⟩ ∧
      (⟨[⟨[.half 0]⟩]⟩ : CodePointer).schemaFragment = .error ⟨[.half 0]⟩ :=
  ⟨rfl, rfl⟩

end CodePointer

end Conform
