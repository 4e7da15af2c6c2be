import Conform.Proofs.Format.Time
import Conform.Proofs.Fragment

/-!
# Identifiers as formats

A URI is an IRI of ASCII characters in which every percent mark starts an octet (`Format.accepts_uri_iff`): the recognizer of
IRIs refuses characters one by one and lets a percent mark pass, whatever comes after it.

A mail address is a mailbox of at most 64 characters and a domain, with the last at-sign between them.  Before the name of a
host the mailbox is a row of atoms between single dots, and perhaps a line break; before an address literal it is any text
(`Format.accepts_email_iff`).
-/

namespace Conform

namespace Text

variable {sep c : Char} {cs front back : List Char}

/-- What comes after the last separator of a text has none. -/
theorem cutLast?_eq_some : cutLast? sep cs = some (front, back) ↔ cs = front ++ sep :: back ∧ sep ∉ back := by
  unfold cutLast?
  constructor
  · intro h
    obtain ⟨⟨after, before⟩, hcut, heq⟩ := Option.map_eq_some_iff.1 h
    cases heq
    obtain ⟨hcs, hafter⟩ := eq_of_cut? hcut
    refine ⟨?_, by simpa using hafter⟩
    rw [← List.reverse_reverse cs, hcs]
    simp
  · rintro ⟨rfl, hback⟩
    have hcut : cut? sep (front ++ sep :: back).reverse = some (back.reverse, front.reverse) := by
      rw [List.reverse_append, List.reverse_cons, List.append_assoc, cut?_append (by simpa using hback)]
      simp [cut?]
    rw [hcut]
    simp

theorem eq_or_eq_dropFinalBreak (cs : List Char) : cs = dropFinalBreak cs ∨ cs = dropFinalBreak cs ++ ['\n'] := by
  unfold dropFinalBreak
  by_cases hlast : cs.getLast? = some '\n'
  · rw [if_pos (by simp [hlast])]
    exact .inr (List.dropLast_append_getLast? _ hlast).symm
  · rw [if_neg (by simpa using hlast)]
    exact .inl rfl

theorem isHex_iff : isHex c = true ↔ c.isDigit = true ∨ ('a' ≤ c ∧ c ≤ 'f') ∨ 'A' ≤ c ∧ c ≤ 'F' := by
  unfold isHex hexValue?
  split_ifs with hdigit hlower hupper
  · simp [hdigit]
  · simp_all
  · simp_all
  · simp_all

end Text

namespace Format

open Text (isHex dropFinalBreak)

variable {c : Char} {cs : List Char}

/-! ### Percent marks -/

/-- Every percent mark in the text has two hexadecimal digits after it. -/
def IsEncoded (cs : List Char) : Prop :=
  ∀ front rest, cs = front ++ '%' :: rest → ∃ a b rest', rest = a :: b :: rest' ∧ isHex a = true ∧ isHex b = true

theorem isEncoded_nil : IsEncoded [] := by
  intro front rest h
  simp at h

theorem isEncoded_cons : IsEncoded (c :: cs) ↔
    (c = '%' → ∃ a b rest, cs = a :: b :: rest ∧ isHex a = true ∧ isHex b = true) ∧ IsEncoded cs := by
  constructor
  · intro h
    constructor
    · rintro rfl
      exact h [] cs rfl
    · rintro front rest rfl
      exact h (c :: front) rest rfl
  · rintro ⟨hfirst, hrest⟩ front rest heq
    cases front with
    | nil =>
      obtain ⟨rfl, rfl⟩ := List.cons.inj heq
      exact hfirst rfl
    | cons d front =>
      obtain ⟨rfl, rfl⟩ := List.cons.inj heq
      exact hrest front rest rfl

theorem isEncoded_cons_of_ne (hc : c ≠ '%') : IsEncoded (c :: cs) ↔ IsEncoded cs := by
  rw [isEncoded_cons]
  exact and_iff_right fun heq => absurd heq hc

/-- A character that belongs to no octet may follow a text without a change to the octets in it. -/
theorem isEncoded_concat (hmark : c ≠ '%') (hhex : isHex c = false) : IsEncoded (cs ++ [c]) ↔ IsEncoded cs := by
  induction cs with
  | nil => exact (isEncoded_cons_of_ne hmark).trans (iff_of_true isEncoded_nil isEncoded_nil)
  | cons d cs ih =>
    rw [List.cons_append, isEncoded_cons, isEncoded_cons, ih]
    -- Two digits after the mark are not the added character, so they are there without it.
    match cs with
    | [] => simp
    | [a] => simp [hhex]
    | a :: b :: rest => simp

theorem isEncoded_dropFinalBreak : IsEncoded (dropFinalBreak cs) ↔ IsEncoded cs := by
  rcases Text.eq_or_eq_dropFinalBreak cs with h | h
  · rw [← h]
  · conv_rhs => rw [h]
    exact (isEncoded_concat (by decide) (by decide)).symm

/-! ### Characters -/

private theorem lt_of_isUriChar (h : isUriChar c = true) : c.toNat < 128 := by
  unfold isUriChar at h
  rw [Bool.or_eq_true, List.contains_iff_mem] at h
  rcases h with h | h
  · simp only [Char.isAlphanum, Text.Percent.isAlpha_eq, Char.isDigit, Bool.or_eq_true, Bool.and_eq_true,
      decide_eq_true_eq, UInt32.le_iff_toNat_le, ge_iff_le] at h
    change ((65 ≤ c.toNat ∧ c.toNat ≤ 90) ∨ 97 ≤ c.toNat ∧ c.toNat ≤ 122) ∨ 48 ≤ c.toNat ∧ c.toNat ≤ 57 at h
    omega
  · have hall : ("-._~:/?#[]@!$&'()*+,;=".toList.all fun c => decide (c.toNat < 128)) = true := by decide
    exact of_decide_eq_true (List.all_eq_true.1 hall c h)

/-- On ASCII the two kinds of characters are the same but for the percent mark. -/
private theorem isIriChar_of_lt : ∀ n < 128,
    (isIriChar (Char.ofNat n) = true ↔ Char.ofNat n = '%' ∨ isUriChar (Char.ofNat n) = true) := by
  decide +kernel

theorem isIriChar_and_lt_iff : isIriChar c = true ∧ c.toNat < 128 ↔ c = '%' ∨ isUriChar c = true := by
  constructor
  · rintro ⟨h, hlt⟩
    have hascii := isIriChar_of_lt c.toNat hlt
    rw [Char.ofNat_toNat] at hascii
    exact hascii.1 h
  · intro h
    have hlt : c.toNat < 128 := by
      rcases h with rfl | h
      · decide
      · exact lt_of_isUriChar h
    have hascii := isIriChar_of_lt c.toNat hlt
    rw [Char.ofNat_toNat] at hascii
    exact ⟨hascii.2 h, hlt⟩

private theorem isUriChar_of_isHex (h : isHex c = true) : isUriChar c = true := by
  have halnum : c.isAlphanum = true := by
    rw [Text.isHex_iff] at h
    rw [Char.isAlphanum, Bool.or_eq_true]
    rcases h with h | ⟨hle, hge⟩ | ⟨hle, hge⟩
    · exact .inr h
    · refine .inl ?_
      simp only [Text.Percent.isAlpha_eq, Bool.or_eq_true, Bool.and_eq_true, decide_eq_true_eq]
      exact .inr ⟨hle, Char.le_trans hge (by decide)⟩
    · refine .inl ?_
      simp only [Text.Percent.isAlpha_eq, Bool.or_eq_true, decide_eq_true_eq]
      exact .inl ⟨hle, Char.le_trans hge (by decide)⟩
  simp [isUriChar, halnum]

/-! ### URIs and IRIs -/

theorem isUriText_iff (cs : List Char) :
    isUriText cs = true ↔ (∀ c ∈ cs, c = '%' ∨ isUriChar c = true) ∧ IsEncoded cs := by
  fun_induction isUriText cs with
  | case1 a b rest ih =>
    rw [Bool.and_eq_true, Bool.and_eq_true, ih]
    constructor
    · rintro ⟨⟨ha, hb⟩, hchars, hencoded⟩
      have hne : ∀ {c}, isHex c = true → c ≠ '%' := by
        rintro _ hc rfl
        exact absurd hc (by decide)
      refine ⟨by simpa [isUriChar_of_isHex ha, isUriChar_of_isHex hb] using hchars, ?_⟩
      refine isEncoded_cons.2 ⟨fun _ => ⟨a, b, rest, rfl, ha, hb⟩, ?_⟩
      rwa [isEncoded_cons_of_ne (hne ha), isEncoded_cons_of_ne (hne hb)]
    · rintro ⟨hchars, hencoded⟩
      obtain ⟨hmark, hencoded⟩ := isEncoded_cons.1 hencoded
      obtain ⟨a', b', rest', heq, ha, hb⟩ := hmark rfl
      cases heq
      refine ⟨⟨ha, hb⟩, fun c hc => hchars c (by simp [hc]), ?_⟩
      exact (isEncoded_cons.1 (isEncoded_cons.1 hencoded).2).2
  | case2 c rest hmark ih =>
    rw [Bool.and_eq_true, ih, List.forall_mem_cons, isEncoded_cons]
    by_cases hc : c = '%'
    · -- A mark without two characters after it is no character of a URI, and starts no octet.
      refine iff_of_false (by simp [hc, (by decide : isUriChar '%' = false)]) ?_
      rintro ⟨-, hoctet, -⟩
      obtain ⟨a, b, rest', hrest, -⟩ := hoctet hc
      exact hmark a b rest' hc hrest
    · simp [hc, and_assoc]
  | case3 => exact iff_of_true rfl ⟨by simp, isEncoded_nil⟩

theorem isUriReference_iff : isUriReference cs = true ↔
    isIriReference cs = true ∧ Network.isAscii cs = true ∧ IsEncoded cs := by
  have hascii : Network.isAscii cs = true ↔ ∀ c ∈ dropFinalBreak cs, c.toNat < 128 := by
    simp only [Network.isAscii, List.all_eq_true, decide_eq_true_eq]
    rcases Text.eq_or_eq_dropFinalBreak cs with h | h
    · rw [← h]
    · conv_lhs => rw [h]
      rw [List.forall_mem_append, List.forall_mem_singleton]
      exact and_iff_left (by decide)
  rw [isUriReference, isIriReference, Bool.and_eq_true, Bool.and_eq_true, isUriText_iff, isEncoded_dropFinalBreak, hascii,
    List.all_eq_true]
  have hchars : (∀ c ∈ dropFinalBreak cs, c = '%' ∨ isUriChar c = true) ↔
      (∀ c ∈ dropFinalBreak cs, isIriChar c = true) ∧ ∀ c ∈ dropFinalBreak cs, c.toNat < 128 := by
    simp only [← isIriChar_and_lt_iff, ← forall_and]
  rw [hchars]
  tauto

/-- The formats of URIs accept exactly what those of IRIs accept of the ASCII texts in which every percent mark starts an
octet. -/
theorem accepts_uri_iff (s : String) :
    (StandardFormat.uriReference.accepts (.str s) = .ok true ↔
      StandardFormat.iriReference.accepts (.str s) = .ok true ∧ Network.isAscii s.toList = true ∧ IsEncoded s.toList) ∧
    (StandardFormat.uri.accepts (.str s) = .ok true ↔
      StandardFormat.iri.accepts (.str s) = .ok true ∧ Network.isAscii s.toList = true ∧ IsEncoded s.toList) := by
  have hreference : isUriReference s.toList = true ↔
      isIriReference s.toList = true ∧ Network.isAscii s.toList = true ∧ IsEncoded s.toList := isUriReference_iff
  constructor
  · change (Except.ok (isUriReference s.toList) : Except Regex.ReadError Bool) = .ok true ↔
      (Except.ok (isIriReference s.toList) : Except Regex.ReadError Bool) = .ok true ∧ _
    rw [Except.ok.injEq, Except.ok.injEq]
    exact hreference
  · change (Except.ok (isUri s.toList) : Except Regex.ReadError Bool) = .ok true ↔
      (Except.ok (isIri s.toList) : Except Regex.ReadError Bool) = .ok true ∧ _
    rw [Except.ok.injEq, Except.ok.injEq, isUri, isIri, Bool.and_eq_true, Bool.and_eq_true, hreference, and_assoc]

/-- A percent mark alone, and one before two letters that are no digits, are IRIs and no URIs. -/
theorem accepts_iri_mark :
    (StandardFormat.iriReference.accepts (.str "%") = .ok true ∧
      StandardFormat.uriReference.accepts (.str "%") = .ok false) ∧
    StandardFormat.iri.accepts (.str "http://x/%zz") = .ok true ∧
      StandardFormat.uri.accepts (.str "http://x/%zz") = .ok false :=
  ⟨⟨rfl, rfl⟩, rfl, rfl⟩

/-! ### Mail addresses -/

/-- Atoms, none of them empty, with single dots between them. -/
inductive IsDotAtom : List Char → Prop where
  | atom {cs : List Char} (hne : cs ≠ []) (h : ∀ c ∈ cs, isAtomChar c = true) : IsDotAtom cs
  | dot {cs rest : List Char} (hne : cs ≠ []) (h : ∀ c ∈ cs, isAtomChar c = true) (hrest : IsDotAtom rest) :
    IsDotAtom (cs ++ '.' :: rest)

private theorem not_mem_of_isAtomChar (h : ∀ c ∈ cs, isAtomChar c = true) : '.' ∉ cs :=
  fun hmem => absurd (h '.' hmem) (by decide)

private theorem isDotAtom_join {parts : List (List Char)} (hne : parts ≠ [])
    (h : ∀ part ∈ parts, part ≠ [] ∧ ∀ c ∈ part, isAtomChar c = true) : IsDotAtom (Text.join '.' parts) := by
  induction parts with
  | nil => exact absurd rfl hne
  | cons part parts ih =>
    obtain ⟨⟨hpart, hchars⟩, hparts⟩ := List.forall_mem_cons.1 h
    cases parts with
    | nil => exact .atom hpart hchars
    | cons next parts => exact .dot hpart hchars (ih (List.cons_ne_nil _ _) hparts)

theorem isDotAtom_iff : isDotAtom cs = true ↔ IsDotAtom cs := by
  have hall : isDotAtom cs = true ↔ ∀ part ∈ Text.fields '.' cs, part ≠ [] ∧ ∀ c ∈ part, isAtomChar c = true := by
    simp [isDotAtom]
  rw [hall]
  constructor
  · intro h
    rw [← Text.join_fields '.' cs]
    exact isDotAtom_join (Text.fields_ne_nil '.' cs) h
  · intro h
    clear hall
    induction h with
    | atom hne h =>
      rw [Text.fields_of_not_mem (not_mem_of_isAtomChar h), List.forall_mem_singleton]
      exact ⟨hne, h⟩
    | dot hne h _ ih =>
      rw [Text.fields_append (not_mem_of_isAtomChar h), List.forall_mem_cons]
      exact ⟨⟨hne, h⟩, ih⟩

theorem IsDotAtom.not_mem_break (h : IsDotAtom cs) : '\n' ∉ cs := by
  have hatom : ∀ {cs : List Char}, (∀ c ∈ cs, isAtomChar c = true) → '\n' ∉ cs :=
    fun h hmem => absurd (h '\n' hmem) (by decide)
  induction h with
  | atom hne h => exact hatom h
  | dot hne h _ ih => simp [hatom h, ih]

/-- The domain is a text between square brackets. -/
def IsBracketed (domain literal : List Char) : Prop := domain = '[' :: (literal ++ [']'])

theorem bracketed?_eq_some {domain literal : List Char} : bracketed? domain = some literal ↔ IsBracketed domain literal := by
  unfold bracketed? IsBracketed
  constructor
  · intro h
    split at h
    · rename_i rest
      split at h
      · rename_i hlast
        cases h
        rw [List.dropLast_append_getLast? _ (by simpa using hlast)]
      · cases h
    · cases h
  · rintro rfl
    simp

/-- The parts of a mail address before and after its last at-sign: the domain is an address literal, and then nothing is
asked of the mailbox, or it is the name of a host. -/
structure IsMail (mailbox domain : List Char) : Prop where
  not_mem : '@' ∉ domain
  pos : 1 ≤ mailbox.length
  le : mailbox.length ≤ 64
  parts : (∃ literal, IsBracketed domain literal ∧ isAddressLiteral literal = true) ∨
    (∀ literal, ¬IsBracketed domain literal) ∧ Ended IsDotAtom mailbox ∧ Network.isHostname domain = true

theorem isDotAtom_dropFinalBreak_iff : isDotAtom (dropFinalBreak cs) = true ↔ Ended IsDotAtom cs := by
  rw [isDotAtom_iff, dropFinalBreak_iff fun body => IsDotAtom.not_mem_break]

theorem isEmail_iff : isEmail cs = true ↔ ∃ mailbox domain, cs = mailbox ++ '@' :: domain ∧ IsMail mailbox domain := by
  unfold isEmail
  constructor
  · intro h
    split at h
    · cases h
    · rename_i mailbox domain hcut
      obtain ⟨hcs, hnot⟩ := Text.cutLast?_eq_some.1 hcut
      rw [Bool.and_eq_true, Bool.and_eq_true] at h
      obtain ⟨⟨hne, hle⟩, h⟩ := h
      have hpos : 1 ≤ mailbox.length := List.length_pos_iff.2 (by simpa using hne)
      refine ⟨mailbox, domain, hcs, hnot, hpos, by simpa using hle, ?_⟩
      cases hdomain : bracketed? domain with
      | some literal =>
        rw [hdomain] at h
        exact .inl ⟨literal, bracketed?_eq_some.1 hdomain, h⟩
      | none =>
        rw [hdomain, Bool.and_eq_true, isDotAtom_dropFinalBreak_iff] at h
        refine .inr ⟨fun literal hliteral => ?_, h⟩
        cases hdomain.symm.trans (bracketed?_eq_some.2 hliteral)
  · rintro ⟨mailbox, domain, hcs, h⟩
    rw [Text.cutLast?_eq_some.2 ⟨hcs, h.not_mem⟩]
    have hne : mailbox ≠ [] := List.length_pos_iff.1 h.pos
    simp only [Bool.and_eq_true]
    refine ⟨⟨by simpa using hne, by simpa using h.le⟩, ?_⟩
    rcases h.parts with ⟨literal, hliteral, haddress⟩ | ⟨hbare, hmailbox, hhost⟩
    · rw [bracketed?_eq_some.2 hliteral]
      exact haddress
    · have hdomain : bracketed? domain = none := by
        rw [Option.eq_none_iff_forall_ne_some]
        exact fun literal hsome => hbare literal (bracketed?_eq_some.1 hsome)
      rw [hdomain, Bool.and_eq_true]
      exact ⟨isDotAtom_dropFinalBreak_iff.2 hmailbox, hhost⟩

/-- The format of mail addresses accepts a mailbox of 1 to 64 characters, the last at-sign and a domain: atoms between dots,
and perhaps a line break, before the name of a host, or any mailbox before an address literal. -/
theorem accepts_email_iff (s : String) : StandardFormat.email.accepts (.str s) = .ok true ↔
    ∃ mailbox domain, s.toList = mailbox ++ '@' :: domain ∧ IsMail mailbox domain := by
  change (Except.ok (isEmail s.toList) : Except Regex.ReadError Bool) = .ok true ↔ _
  rw [Except.ok.injEq]
  exact isEmail_iff

/-- A mailbox with a space, and one of at-signs alone, are accepted before an address literal; before the name of a host a
mailbox may end in a line break. -/
theorem accepts_email_loose :
    (StandardFormat.email.accepts (.str "a b@[127.0.0.1]") = .ok true ∧ ¬IsDotAtom "a b".toList) ∧
    (StandardFormat.email.accepts (.str "@@@[127.0.0.1]") = .ok true ∧ ¬IsDotAtom "@@".toList) ∧
    StandardFormat.email.accepts (.str "a\n@example.com") = .ok true ∧ ¬IsDotAtom "a\n".toList := by
  simp only [← isDotAtom_iff]
  exact ⟨⟨rfl, by decide⟩, ⟨rfl, by decide⟩, rfl, by decide⟩

end Format

end Conform
