import Conform.CodePointer
import Conform.Proofs.Result
import Mathlib.Data.List.Basic

/-!
# Texts and pointers with halves of surrogate pairs

What is done run by run to a text of code points is done to a text without halves as a whole (`CodeText.mapRuns_ofString`),
and it leaves the halves of any other where they are.  So a pointer of code points that has no half in it is a pointer of
texts, with the same fragment (`CodePointer.fragmentKeeping_codes`), and one with a half has none
(`CodePointer.exists_fragmentKeeping_iff`).
-/

namespace Conform

namespace CodeText

variable {f g : List Char → List Char} {t : CodeText} {s : String} {h : Fin 2048}

/-! ### Texts without halves -/

/-- No half stands in the text. -/
def IsPlain (t : CodeText) : Prop := ∀ h, .half h ∉ t.codes

theorem isPlain_ofString (s : String) : (ofString s).IsPlain := by
  intro h hmem
  obtain ⟨c, -, hc⟩ := List.mem_map.1 hmem
  cases hc

private theorem mapM_char?_eq_some {cs : List CodePoint} {chars : List Char} :
    cs.mapM CodePoint.char? = some chars ↔ cs = chars.map .char := by
  induction cs generalizing chars with
  | nil => cases chars <;> simp
  | cons c cs ih =>
    cases c with
    | half h => cases chars <;> simp [CodePoint.char?]
    | char c =>
      cases chars with
      | nil => simp [CodePoint.char?, Option.bind_eq_some_iff]
      | cons d chars => simp [CodePoint.char?, Option.bind_eq_some_iff, ih, and_left_comm]

theorem toString?_eq_some : t.toString? = some s ↔ t = s := by
  obtain ⟨cs⟩ := t
  unfold toString? ofString
  rw [Option.map_eq_some_iff]
  constructor
  · rintro ⟨chars, hchars, rfl⟩
    rw [String.toList_ofList]
    exact congrArg CodeText.mk (mapM_char?_eq_some.1 hchars)
  · intro heq
    cases heq
    exact ⟨s.toList, mapM_char?_eq_some.2 rfl, String.ofList_toList⟩

theorem ofString_inj {s s' : String} : ofString s = ofString s' ↔ s = s' := by
  refine ⟨fun h => ?_, congrArg ofString⟩
  exact Option.some.inj ((toString?_eq_some.2 rfl).symm.trans (toString?_eq_some.2 h))

theorem isPlain_iff : t.IsPlain ↔ ∃ s : String, t = s := by
  constructor
  · intro hplain
    obtain ⟨cs⟩ := t
    suffices hchars : ∃ chars : List Char, cs = chars.map .char by
      obtain ⟨chars, rfl⟩ := hchars
      exact ⟨String.ofList chars, by rw [ofString, String.toList_ofList]⟩
    induction cs with
    | nil => exact ⟨[], rfl⟩
    | cons c cs ih =>
      cases c with
      | half h => exact absurd (List.mem_cons_self ..) (hplain h)
      | char c =>
        obtain ⟨chars, rfl⟩ := ih fun h hmem => hplain h (List.mem_cons_of_mem _ hmem)
        exact ⟨c :: chars, rfl⟩
  · rintro ⟨s, rfl⟩
    exact isPlain_ofString s

/-! ### Runs -/

/-- Characters that come next belong to the run. -/
theorem mapRunsFrom_map (cs run : List Char) (rest : List CodePoint) :
    mapRunsFrom f run (cs.map .char ++ rest) = mapRunsFrom f (cs.reverse ++ run) rest := by
  induction cs generalizing run with
  | nil => rfl
  | cons c cs ih => rw [List.map_cons, List.cons_append, mapRunsFrom, ih, List.reverse_cons, List.append_assoc]; rfl

theorem mapRuns_ofString (f : List Char → List Char) (s : String) :
    (ofString s).mapRuns f = String.ofList (f s.toList) := by
  have hrun := mapRunsFrom_map (f := f) s.toList [] []
  rw [List.append_nil, List.append_nil, mapRunsFrom, List.reverse_reverse] at hrun
  rw [mapRuns, ofString, hrun, ofString, String.toList_ofList]

/-- One function after another is their composition, run by run. -/
theorem mapRunsFrom_mapRunsFrom (run : List Char) (cs : List CodePoint) :
    mapRunsFrom g [] (mapRunsFrom f run cs) = mapRunsFrom (fun r => g (f r)) run cs := by
  induction cs generalizing run with
  | nil =>
    have hrun := mapRunsFrom_map (f := g) (f run.reverse) [] []
    rwa [List.append_nil, List.append_nil, mapRunsFrom, List.reverse_reverse] at hrun
  | cons c cs ih =>
    cases c with
    | char c => exact ih (c :: run)
    | half h =>
      rw [mapRunsFrom, mapRunsFrom_map, List.append_nil, mapRunsFrom, List.reverse_reverse, ih, mapRunsFrom]

theorem mapRunsFrom_id (run : List Char) (cs : List CodePoint) :
    mapRunsFrom (fun r => r) run cs = run.reverse.map .char ++ cs := by
  induction cs generalizing run with
  | nil => rw [mapRunsFrom, List.append_nil]
  | cons c cs ih =>
    cases c with
    | char c => rw [mapRunsFrom, ih, List.reverse_cons, List.map_append, List.append_assoc]; rfl
    | half h => rw [mapRunsFrom, ih]; rfl

private theorem half_mem_mapRunsFrom (run : List Char) (cs : List CodePoint) :
    .half h ∈ mapRunsFrom f run cs ↔ .half h ∈ cs := by
  induction cs generalizing run with
  | nil => simp [mapRunsFrom]
  | cons c cs ih =>
    cases c with
    | char c => simp [mapRunsFrom, ih]
    | half h' => simp [mapRunsFrom, ih]

/-- What is done to the runs makes no half and takes none away. -/
theorem isPlain_mapRuns : (t.mapRuns f).IsPlain ↔ t.IsPlain :=
  forall_congr' fun _ => not_congr (half_mem_mapRunsFrom [] t.codes)

private theorem exists_run_of_mem {c : Char} {run : List Char} {cs : List CodePoint} (h : .char c ∈ mapRunsFrom f run cs) :
    ∃ r, c ∈ f r := by
  induction cs generalizing run with
  | nil =>
    obtain ⟨d, hd, heq⟩ := List.mem_map.1 h
    cases heq
    exact ⟨_, hd⟩
  | cons d cs ih =>
    cases d with
    | char d => exact ih h
    | half d =>
      rcases List.mem_append.1 h with h | h
      · obtain ⟨d, hd, heq⟩ := List.mem_map.1 h
        cases heq
        exact ⟨_, hd⟩
      · exact ih (List.mem_of_ne_of_mem (by simp) h)

/-- The characters of the text are those of its runs. -/
theorem exists_run_of_mem_mapRuns {c : Char} (h : .char c ∈ (t.mapRuns f).codes) : ∃ r, c ∈ f r := exists_run_of_mem h

end CodeText

namespace CodePointer

open CodeText (ofString)

variable {keep : Char → Bool} {p : CodePointer} {q : Pointer}

/-! ### Pointers without halves -/

theorem codes_inj {p q : Pointer} : (p : CodePointer) = q ↔ p = q := by
  refine ⟨fun h => ?_, fun h => by rw [h]⟩
  obtain ⟨tokens⟩ := p
  obtain ⟨tokens'⟩ := q
  have htokens := congrArg CodePointer.tokens h
  exact congrArg Pointer.mk (List.map_injective_iff.2 (fun _ _ => CodeText.ofString_inj.1) htokens)

/-- No half stands in a token. -/
def IsPlain (p : CodePointer) : Prop := ∀ t ∈ p.tokens, t.IsPlain

theorem isPlain_codes (p : Pointer) : (p : CodePointer).IsPlain := by
  intro t ht
  obtain ⟨s, -, rfl⟩ := List.mem_map.1 ht
  exact CodeText.isPlain_ofString s

theorem isPlain_iff : p.IsPlain ↔ ∃ q : Pointer, p = q := by
  constructor
  · intro hplain
    obtain ⟨tokens⟩ := p
    suffices htexts : ∃ texts : List String, tokens = texts.map ofString by
      obtain ⟨texts, rfl⟩ := htexts
      exact ⟨⟨texts⟩, rfl⟩
    induction tokens with
    | nil => exact ⟨[], rfl⟩
    | cons t tokens ih =>
      obtain ⟨s, rfl⟩ := CodeText.isPlain_iff.1 (hplain t (List.mem_cons_self ..))
      obtain ⟨texts, rfl⟩ := ih fun t ht => hplain t (List.mem_cons_of_mem _ ht)
      exact ⟨s :: texts, rfl⟩
  · rintro ⟨q, rfl⟩
    exact isPlain_codes q

/-! ### Fragments -/

theorem tokenFragment_ofString (keep : Char → Bool) (s : String) :
    tokenFragment keep s = .ok ('/' :: Text.Percent.encode keep (Pointer.escape s.toList)) := by
  have hescape : (escape s).toString? = some (String.ofList (Pointer.escape s.toList)) := by
    rw [escape, CodeText.mapRuns_ofString, CodeText.toString?_eq_some]
  rw [tokenFragment, hescape]
  dsimp only
  rw [String.toList_ofList]

/-- A token with a half has no bytes. -/
theorem isPlain_of_tokenFragment {t : CodeText} {cs : List Char} (h : tokenFragment keep t = .ok cs) : t.IsPlain := by
  unfold tokenFragment at h
  split at h
  · rename_i s hs
    rw [← CodeText.isPlain_mapRuns, ← escape, CodeText.toString?_eq_some.1 hs]
    exact CodeText.isPlain_ofString s
  · cases h

/-- The fragment of a pointer of texts is its fragment among those of code points. -/
theorem fragmentKeeping_codes (keep : Char → Bool) (q : Pointer) :
    (q : CodePointer).fragmentKeeping keep = .ok (q.fragmentKeeping keep) := by
  obtain ⟨tokens⟩ := q
  have htokens : (tokens.map ofString).mapM (tokenFragment keep) =
      .ok (tokens.map fun s => '/' :: Text.Percent.encode keep (Pointer.escape s.toList)) := by
    induction tokens with
    | nil => rfl
    | cons s tokens ih =>
      rw [List.map_cons, List.mapM_cons, tokenFragment_ofString, ih]
      rfl
  rw [fragmentKeeping, Pointer.codes, htokens, Pointer.fragmentKeeping, List.flatMap_def]
  rfl

/-- A pointer has a fragment exactly if no half stands in it. -/
theorem exists_fragmentKeeping_iff : (∃ s, p.fragmentKeeping keep = .ok s) ↔ p.IsPlain := by
  constructor
  · rintro ⟨s, hs⟩
    obtain ⟨parts, hparts, -⟩ := map_eq_ok.1 hs
    clear hs
    obtain ⟨tokens⟩ := p
    intro t ht
    induction tokens generalizing parts with
    | nil => cases ht
    | cons u tokens ih =>
      rw [List.mapM_cons] at hparts
      obtain ⟨cs, hcs, hparts⟩ := bind_eq_ok.1 hparts
      obtain ⟨others, hothers, -⟩ := bind_eq_ok.1 hparts
      rcases List.mem_cons.1 ht with rfl | ht
      · exact isPlain_of_tokenFragment hcs
      · exact ih others hothers ht
  · intro hplain
    obtain ⟨q, rfl⟩ := isPlain_iff.1 hplain
    exact ⟨_, fragmentKeeping_codes keep q⟩

end CodePointer

end Conform
