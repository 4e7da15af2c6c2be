import Conform.Format.Standard
import Conform.Proofs.Pointer.Codes

/-!
# Pointers as a format

The format `json-pointer` accepts the texts of pointers, as they are written, and a single line break, which is the text of
none (`Format.accepts_jsonPointer_iff`).  The recognizer reads the text in one go, slashes and all, while a pointer is read by
its parts; what they have in common is that every `~` starts an escape (`Pointer.Escaped`).
-/

namespace Conform

namespace Format

open Pointer (Escaped escaped_nil escaped_cons escaped_cons_of_ne escaped_append_cons)

variable {cs : List Char}

theorem isTokenText_iff (cs : List Char) : isTokenText cs = true ↔ Escaped id cs := by
  fun_induction isTokenText cs with
  | case1 rest ih =>
    rw [ih, escaped_cons, escaped_cons_of_ne (by decide)]
    simp
  | case2 rest ih =>
    rw [ih, escaped_cons, escaped_cons_of_ne (by decide)]
    simp
  | case3 c rest hzero hone ih =>
    have hloose : c = '~' → rest.head? ≠ some '0' ∧ rest.head? ≠ some '1' := by
      intro htilde
      constructor
      · intro hhead
        obtain ⟨tail, rfl⟩ := List.head?_eq_some_iff.1 hhead
        exact hzero tail htilde rfl
      · intro hhead
        obtain ⟨tail, rfl⟩ := List.head?_eq_some_iff.1 hhead
        exact hone tail htilde rfl
    by_cases htilde : c = '~'
    · -- A `~` that starts no escape is refused, whatever comes after it.
      refine iff_of_false (by simp [htilde]) fun hescaped => ?_
      rcases (escaped_cons.1 hescaped).1 htilde with hhead | hhead
      · exact (hloose htilde).1 hhead
      · exact (hloose htilde).2 hhead
    · rw [escaped_cons_of_ne htilde, ← ih]
      simp [htilde]
  | case4 => exact iff_of_true rfl escaped_nil

theorem isPointerText_iff : isPointerText cs = true ↔ (cs = [] ∨ cs.head? = some '/') ∧ Escaped id cs := by
  unfold isPointerText
  split
  · exact iff_of_true rfl ⟨.inl rfl, escaped_nil⟩
  · rw [isTokenText_iff, escaped_cons_of_ne (by decide)]
    simp
  · rename_i hempty hslash
    refine iff_of_false (by simp) ?_
    rintro ⟨rfl | hhead, -⟩
    · exact hempty rfl
    · obtain ⟨rest, rfl⟩ := List.head?_eq_some_iff.1 hhead
      exact hslash rest rfl

/-- A line break behind a pointer is a part of its last token, so leaving it out matters only where it is the whole text. -/
theorem isJsonPointer_iff : isJsonPointer cs = true ↔ cs = ['\n'] ∨ isPointerText cs = true := by
  unfold isJsonPointer allowingBreak Text.dropFinalBreak
  rw [Bool.or_eq_true]
  by_cases hlast : cs.getLast? = some '\n'
  · have hcs : cs = cs.dropLast ++ ['\n'] := (List.dropLast_append_getLast? _ hlast).symm
    rw [if_pos (by simp [hlast])]
    generalize cs.dropLast = body at hcs
    subst hcs
    constructor
    · rintro (h | h)
      · exact .inr h
      · rw [isPointerText_iff] at h
        obtain ⟨rfl | hhead, hescaped⟩ := h
        · exact .inl rfl
        · obtain ⟨rest, rfl⟩ := List.head?_eq_some_iff.1 hhead
          exact .inr (isPointerText_iff.2 ⟨.inr rfl, (escaped_append_cons (by decide) _ []).2 ⟨hescaped, escaped_nil⟩⟩)
    · rintro (h | h)
      · have hbody : body = [] := by simpa using h
        exact .inr (by rw [hbody]; rfl)
      · exact .inl h
  · rw [if_neg (by simpa using hlast), or_self]
    refine (or_iff_right ?_).symm
    rintro rfl
    exact hlast rfl

/-- A text is the text of a pointer exactly if it is empty or starts with a slash, and every `~` in it starts an escape. -/
theorem exists_pointer_iff {s : String} :
    (∃ p, Pointer.parse s = .ok p ∧ p.text = s) ↔ isPointerText s.toList = true := by
  have hparse : (∃ p, Pointer.parse s = .ok p) ↔ s.toList = [] ∨ s.toList.head? = some '/' := by
    unfold Pointer.parse
    split
    · rename_i hempty
      exact iff_of_true ⟨_, rfl⟩ (.inl hempty)
    · rename_i rest hslash
      exact iff_of_true ⟨_, rfl⟩ (.inr (by rw [hslash]; rfl))
    · rename_i hempty hslash
      refine iff_of_false (by simp) ?_
      rintro (h | h)
      · exact hempty h
      · obtain ⟨rest, hrest⟩ := List.head?_eq_some_iff.1 h
        exact hslash rest hrest
  rw [isPointerText_iff, ← hparse]
  constructor
  · rintro ⟨p, hp, htext⟩
    exact ⟨⟨p, hp⟩, (CodePointer.text_eq_iff_of_parse_ofString hp).1 htext⟩
  · rintro ⟨⟨p, hp⟩, hescaped⟩
    exact ⟨p, hp, (CodePointer.text_eq_iff_of_parse_ofString hp).2 hescaped⟩

/-- The format of pointers accepts a text exactly if that is read as a pointer and is what the pointer is written as, or is a
single line break. -/
theorem accepts_jsonPointer_iff (s : String) : StandardFormat.jsonPointer.accepts (.str s) = .ok true ↔
    (∃ p, Pointer.parse s = .ok p ∧ p.text = s) ∨ s = "\n" := by
  have hbreak : s = "\n" ↔ s.toList = ['\n'] := by
    rw [← String.toList_inj]
    rfl
  change (Except.ok (isJsonPointer s.toList) : Except Regex.ReadError Bool) = .ok true ↔ _
  rw [Except.ok.injEq, isJsonPointer_iff, exists_pointer_iff, hbreak]
  exact or_comm

/-- A line break alone is accepted, and is no pointer. -/
theorem accepts_jsonPointer_break : StandardFormat.jsonPointer.accepts (.str "\n") = .ok true ∧
    ¬∃ p, Pointer.parse "\n" = .ok p ∧ p.text = "\n" := by
  refine ⟨rfl, ?_⟩
  rintro ⟨p, hp, -⟩
  cases hp

end Format

end Conform
