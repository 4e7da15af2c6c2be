import Conform.Proofs.Fragment

/-!
# Texts of pointers

The tokens of a pointer are written with escapes, and a part of a text between slashes is written as it was exactly if every
`~` in it starts an escape (`Pointer.escape_unescape_iff`).

The codes are written character by character.  They are also what replacing one part of a text after another yields: the
escapes are put in and taken out in opposite orders (`Pointer.escape_eq_replace`, `Pointer.unescape_eq_replace`), and a
fragment has its dollars left readable if `%24` is replaced (`Pointer.schemaFragment_eq_replace`), which occurs for nothing
but a dollar.
-/

namespace Conform

namespace Text

/-! ### Replacing -/

/-- The text with each occurrence of a part replaced, from the left. -/
def replace (part new : List Char) : List Char → List Char
  | [] => []
  | c :: rest =>
    if part.isPrefixOf (c :: rest) then new ++ replace part new (rest.drop (part.length - 1))
    else c :: replace part new rest
termination_by cs => cs.length

variable {part new : List Char} {c : Char} {rest : List Char}

theorem replace_of_prefix (hne : part ≠ []) (rest : List Char) : replace part new (part ++ rest) = new ++ replace part new rest := by
  cases part with
  | nil => exact absurd rfl hne
  | cons c part =>
    rw [List.cons_append, replace, if_pos (List.isPrefixOf_iff_prefix.2 ⟨rest, by simp⟩)]
    simp

theorem replace_of_not_prefix (h : ¬part <+: c :: rest) : replace part new (c :: rest) = c :: replace part new rest := by
  rw [replace, if_neg fun hprefix => h (List.isPrefixOf_iff_prefix.1 hprefix)]

/-- A character that the part does not start with is left alone. -/
theorem replace_of_ne {first : Char} {others : List Char} (h : first ≠ c) (rest : List Char) :
    replace (first :: others) new (c :: rest) = c :: replace (first :: others) new rest :=
  replace_of_not_prefix fun hprefix => h (List.cons_prefix_cons.1 hprefix).1

/-- A single character is replaced wherever it is. -/
theorem replace_singleton (d : Char) (cs : List Char) :
    replace [d] new cs = cs.flatMap fun c => if c = d then new else [c] := by
  induction cs with
  | nil => rw [replace, List.flatMap_nil]
  | cons c cs ih =>
    rw [List.flatMap_cons, ← ih]
    split
    · rename_i hc
      rw [hc]
      exact replace_of_prefix (List.cons_ne_nil d []) cs
    · rename_i hc
      exact replace_of_ne (Ne.symm hc) cs

/-! ### Parts between separators -/

section Fields

variable {γ : Type} [DecidableEq γ] {sep : γ}

theorem not_mem_of_mem_fields {cs part : List γ} (hpart : part ∈ fields sep cs) : sep ∉ part := by
  induction cs generalizing part with
  | nil =>
    rw [fields, List.mem_singleton] at hpart
    simp [hpart]
  | cons c cs ih =>
    rw [fields] at hpart
    split at hpart
    · rcases List.mem_cons.1 hpart with rfl | hpart
      · simp
      · exact ih hpart
    · rename_i hc
      have hc : sep ≠ c := fun heq => hc (by simp [heq])
      split at hpart
      · rename_i first others hfields
        rcases List.mem_cons.1 hpart with rfl | hpart
        · simpa [hc] using ih (show first ∈ fields sep cs by simp [hfields])
        · exact ih (by simp [hfields, hpart])
      · rename_i hnil
        exact absurd hnil (fields_ne_nil sep cs)

/-- A text is what its parts make with the separators between them. -/
theorem flatMap_fields (sep : γ) (cs : List γ) : (fields sep cs).flatMap (sep :: ·) = sep :: cs := by
  induction cs with
  | nil => rfl
  | cons c cs ih =>
    rw [fields]
    split
    · rename_i hc
      rw [List.flatMap_cons, ih, beq_iff_eq.1 hc]
      rfl
    · split
      · rename_i first others hfields
        rw [hfields, List.flatMap_cons, List.cons_append] at ih
        rw [List.flatMap_cons, List.cons_append, List.cons_append, (List.cons.inj ih).2]
      · rename_i hnil
        exact absurd hnil (fields_ne_nil sep cs)

/-- Parts without the separator are known from the text that they make. -/
theorem flatMap_sep_inj {parts parts' : List (List γ)} (h : ∀ cs ∈ parts, sep ∉ cs)
    (h' : ∀ cs ∈ parts', sep ∉ cs) : parts.flatMap (sep :: ·) = parts'.flatMap (sep :: ·) ↔ parts = parts' := by
  refine ⟨fun heq => ?_, fun heq => by rw [heq]⟩
  cases parts with
  | nil =>
    cases parts' with
    | nil => rfl
    | cons cs' parts' => simp at heq
  | cons cs parts =>
    cases parts' with
    | nil => simp at heq
    | cons cs' parts' =>
      simp only [List.flatMap_cons, List.cons_append, List.cons.injEq, true_and] at heq
      rw [← fields_flatMap cs parts h, heq, fields_flatMap cs' parts' h']

end Fields

/-! ### The sign for a dollar -/

namespace Percent

/-- The bytes of a character beyond ASCII are none of ASCII. -/
private theorem le_of_mem_utf8EncodeChar {c : Char} (hc : 128 ≤ c.toNat) {b : UInt8} (hb : b ∈ String.utf8EncodeChar c) :
    128 ≤ b.toNat := by
  have hval : c.val.toNat = c.toNat := rfl
  have hvalid := Utf8.valid_char c
  rw [String.utf8EncodeChar] at hb
  simp only [hval] at hb
  rw [if_neg (by omega)] at hb
  split at hb
  · simp only [List.mem_cons, List.not_mem_nil, or_false] at hb
    rcases hb with rfl | rfl <;> rw [Utf8.toNat_ofNat (by omega)] <;> omega
  · split at hb
    · simp only [List.mem_cons, List.not_mem_nil, or_false] at hb
      rcases hb with rfl | rfl | rfl <;> rw [Utf8.toNat_ofNat (by omega)] <;> omega
    · simp only [List.mem_cons, List.not_mem_nil, or_false] at hb
      rcases hb with rfl | rfl | rfl | rfl <;> rw [Utf8.toNat_ofNat (by omega)] <;> omega

/-- Only the sign for a dollar is replaced among the signs for bytes. -/
private theorem replace_encodeByte (b : UInt8) (rest : List Char) :
    replace ['%', '2', '4'] ['$'] (encodeByte b ++ rest) =
      (if b = 0x24 then ['$'] else encodeByte b) ++ replace ['%', '2', '4'] ['$'] rest := by
  have hb : b.toNat < 256 := b.toNat_lt
  split
  · rename_i hdollar
    rw [hdollar]
    exact replace_of_prefix (List.cons_ne_nil '%' ['2', '4']) rest
  · rename_i hother
    have hdigit : ∀ n < 16, hexDigit true n ≠ '%' ∧ (hexDigit true n = '2' → n = 2) ∧ (hexDigit true n = '4' → n = 4) := by
      decide
    obtain ⟨hhigh, htwo, -⟩ := hdigit (b.toNat / 16 % 16) (by omega)
    obtain ⟨hlow, -, hfour⟩ := hdigit (b.toNat % 16) (by omega)
    rw [encodeByte_eq, List.cons_append, List.cons_append, List.singleton_append, replace_of_not_prefix,
      replace_of_ne hhigh.symm, replace_of_ne hlow.symm]
    · rfl
    · intro hprefix
      simp only [List.cons_prefix_cons, List.nil_prefix, and_true, true_and] at hprefix
      have hhigh := htwo hprefix.1.symm
      have hlow := hfour hprefix.2.symm
      refine hother (UInt8.toNat_inj.1 ?_)
      change b.toNat = 36
      omega

private theorem replace_encodeChar (c : Char) (rest : List Char) :
    replace ['%', '2', '4'] ['$'] (encodeChar (fun _ => false) c ++ rest) =
      encodeChar (· == '$') c ++ replace ['%', '2', '4'] ['$'] rest := by
  have hbytes : ∀ bs : List UInt8, (∀ b ∈ bs, b ≠ 0x24) →
      replace ['%', '2', '4'] ['$'] (bs.flatMap encodeByte ++ rest) =
        bs.flatMap encodeByte ++ replace ['%', '2', '4'] ['$'] rest := by
    intro bs hbs
    induction bs with
    | nil => rfl
    | cons b bs ih =>
      rw [List.flatMap_cons, List.append_assoc, replace_encodeByte, if_neg (hbs b (by simp)),
        ih fun b' hb' => hbs b' (by simp [hb']), List.append_assoc]
  unfold encodeChar
  by_cases hplain : isUnreserved c = true
  · rw [if_pos (by simp [hplain]), if_pos (by simp [hplain])]
    exact replace_of_ne (Ne.symm (plain_unreserved c hplain).2) rest
  · by_cases hdollar : c = '$'
    · subst hdollar
      exact replace_encodeByte 0x24 rest
    · rw [if_neg (by simp [hplain]), if_neg (by simp [hplain, hdollar])]
      refine hbytes _ fun b hb heq => ?_
      rcases Nat.lt_or_ge c.toNat 128 with hlt | hle
      · rw [utf8EncodeChar_of_lt hlt, List.mem_singleton] at hb
        have hcode : c.toNat = 36 := by rw [← Utf8.toNat_ofNat (n := c.toNat) (by omega), ← hb, heq]; rfl
        exact hdollar (by rw [← Char.ofNat_toNat c, hcode])
      · -- Beyond ASCII no byte is that of a dollar.
        have hbyte := le_of_mem_utf8EncodeChar hle hb
        rw [heq] at hbyte
        exact absurd hbyte (by decide)

/-- In a text with signs for bytes, replacing those for a dollar leaves the dollars readable. -/
theorem replace_encode (cs rest : List Char) :
    replace ['%', '2', '4'] ['$'] (encode (fun _ => false) cs ++ rest) =
      encode (· == '$') cs ++ replace ['%', '2', '4'] ['$'] rest := by
  induction cs with
  | nil => rfl
  | cons c cs ih =>
    simp only [encode, List.flatMap_cons, List.append_assoc] at ih ⊢
    rw [replace_encodeChar, ih]

end Percent

end Text

namespace Pointer

open Text (replace)

/-- Escaping puts `~0` for every `~`, and then `~1` for every `/`. -/
theorem escape_eq_replace (cs : List Char) : escape cs = replace ['/'] ['~', '1'] (replace ['~'] ['~', '0'] cs) := by
  rw [Text.replace_singleton, Text.replace_singleton, List.flatMap_assoc, escape]
  refine List.flatMap_congr fun c _ => ?_
  unfold escapeChar
  by_cases htilde : c = '~'
  · simp [htilde]
  · by_cases hslash : c = '/'
    · simp [hslash]
    · simp [htilde, hslash]

/-- Putting slashes in makes no escape of a tilde. -/
private theorem head?_replace_slash {rest : List Char} (h : (replace ['~', '1'] ['/'] rest).head? = some '0') :
    rest.head? = some '0' := by
  cases rest with
  | nil =>
    rw [replace] at h
    cases h
  | cons c rest =>
    rw [replace] at h
    split at h
    · cases h
    · simpa using h

/-- Unescaping puts `/` for every `~1`, and then `~` for every `~0`. -/
theorem unescape_eq_replace (cs : List Char) : unescape cs = replace ['~', '0'] ['~'] (replace ['~', '1'] ['/'] cs) := by
  fun_induction unescape cs with
  | case1 rest ih =>
    have hslash : replace ['~', '1'] ['/'] ('~' :: '1' :: rest) = '/' :: replace ['~', '1'] ['/'] rest :=
      Text.replace_of_prefix (List.cons_ne_nil '~' ['1']) rest
    rw [hslash, Text.replace_of_ne (by decide), ih]
  | case2 rest ih =>
    have hkept : replace ['~', '1'] ['/'] ('~' :: '0' :: rest) = '~' :: '0' :: replace ['~', '1'] ['/'] rest := by
      rw [Text.replace_of_not_prefix (by simp), Text.replace_of_ne (by decide)]
    have htilde : replace ['~', '0'] ['~'] (['~', '0'] ++ replace ['~', '1'] ['/'] rest) = _ :=
      Text.replace_of_prefix (List.cons_ne_nil '~' ['0']) (replace ['~', '1'] ['/'] rest)
    rw [hkept, ih]
    exact htilde.symm
  | case3 c rest hone hzero ih =>
    have hkept : replace ['~', '1'] ['/'] (c :: rest) = c :: replace ['~', '1'] ['/'] rest := by
      refine Text.replace_of_not_prefix fun hprefix => ?_
      obtain ⟨rfl, tail, rfl⟩ := List.cons_prefix_cons.1 hprefix
      exact hone tail rfl rfl
    -- A single tilde stays so: putting slashes in brings no zero after it.
    have hloose : ¬['~', '0'] <+: c :: replace ['~', '1'] ['/'] rest := by
      intro hprefix
      obtain ⟨rfl, tail, htail⟩ := List.cons_prefix_cons.1 hprefix
      have hhead : rest.head? = some '0' := head?_replace_slash (by rw [← htail]; rfl)
      cases rest with
      | nil => cases hhead
      | cons d rest =>
        cases hhead
        exact hzero rest rfl rfl
    rw [hkept, Text.replace_of_not_prefix hloose, ih]
  | case4 => simp [replace]

/-- The fragment with dollars left readable is the other one with `$` for every `%24`. -/
theorem schemaFragment_eq_replace (p : Pointer) :
    p.schemaFragment = String.ofList (replace ['%', '2', '4'] ['$'] p.fragment.toList) := by
  have htokens : ∀ tokens : List String,
      replace ['%', '2', '4'] ['$'] (tokens.flatMap fun t => '/' :: Text.Percent.encode (fun _ => false) (escape t.toList)) =
        tokens.flatMap fun t => '/' :: Text.Percent.encode (· == '$') (escape t.toList) := by
    intro tokens
    induction tokens with
    | nil => simp [replace]
    | cons t tokens ih =>
      rw [List.flatMap_cons, List.cons_append, Text.replace_of_ne (by decide), Text.Percent.replace_encode, ih,
        List.flatMap_cons, List.cons_append]
  rw [schemaFragment, fragment, fragmentKeeping, fragmentKeeping, String.toList_ofList, Text.replace_of_ne (by decide), htokens]

/-! ### Texts that are the text of their pointer -/

/-- Every `~` starts an escape, where the text is made of what stands for characters. -/
def Escaped {γ : Type} (letter : Char → γ) (cs : List γ) : Prop :=
  ∀ front rest, cs = front ++ letter '~' :: rest → rest.head? = some (letter '0') ∨ rest.head? = some (letter '1')

section Escaped

variable {γ : Type} {letter : Char → γ} {c : γ} {cs rest : List γ}

theorem escaped_nil : Escaped letter [] := by
  intro front rest h
  simp at h

theorem escaped_cons : Escaped letter (c :: rest) ↔
    (c = letter '~' → rest.head? = some (letter '0') ∨ rest.head? = some (letter '1')) ∧ Escaped letter rest := by
  constructor
  · intro h
    refine ⟨?_, fun front tail htail => ?_⟩
    · rintro rfl
      exact h [] rest rfl
    · exact h (c :: front) tail (by rw [htail, List.cons_append])
  · rintro ⟨hfirst, hrest⟩ front tail h
    cases front with
    | nil =>
      cases h
      exact hfirst rfl
    | cons d front =>
      cases h
      exact hrest front tail rfl

theorem escaped_cons_of_ne (h : c ≠ letter '~') : Escaped letter (c :: rest) ↔ Escaped letter rest := by
  rw [escaped_cons]
  exact and_iff_right fun htilde => absurd htilde h

/-- No escape goes over a character that has no part in one. -/
theorem escaped_append_cons (hc : c ≠ letter '~' ∧ c ≠ letter '0' ∧ c ≠ letter '1') (cs rest : List γ) :
    Escaped letter (cs ++ c :: rest) ↔ Escaped letter cs ∧ Escaped letter rest := by
  induction cs with
  | nil =>
    rw [List.nil_append, escaped_cons_of_ne hc.1]
    exact (and_iff_right escaped_nil).symm
  | cons d cs ih =>
    have hfirst : ((cs ++ c :: rest).head? = some (letter '0') ∨ (cs ++ c :: rest).head? = some (letter '1')) ↔
        (cs.head? = some (letter '0') ∨ cs.head? = some (letter '1')) := by
      cases cs with
      | nil => simp [hc]
      | cons e cs => simp
    rw [List.cons_append, escaped_cons, escaped_cons, hfirst, ih, and_assoc]

theorem escaped_flatMap {sep : γ} (hsep : sep ≠ letter '~' ∧ sep ≠ letter '0' ∧ sep ≠ letter '1') (parts : List (List γ)) :
    Escaped letter (parts.flatMap (sep :: ·)) ↔ ∀ cs ∈ parts, Escaped letter cs := by
  induction parts with
  | nil => simp [escaped_nil]
  | cons cs parts ih =>
    rw [List.flatMap_cons, List.cons_append, escaped_cons_of_ne hsep.1, List.forall_mem_cons, ← ih]
    cases parts with
    | nil => simp [escaped_nil]
    | cons next parts =>
      rw [List.flatMap_cons, List.cons_append, escaped_append_cons hsep, escaped_cons_of_ne hsep.1]

end Escaped

/-- A part between slashes is written as it was exactly if every `~` in it starts an escape. -/
theorem escape_unescape_iff {cs : List Char} (h : '/' ∉ cs) : escape (unescape cs) = cs ↔ Escaped id cs := by
  fun_induction unescape cs with
  | case1 rest ih =>
    have hrest : '/' ∉ rest := fun hmem => h (by simp [hmem])
    rw [escaped_cons, escaped_cons_of_ne (by decide), ← ih hrest]
    simp [escape, escapeChar]
  | case2 rest ih =>
    have hrest : '/' ∉ rest := fun hmem => h (by simp [hmem])
    rw [escaped_cons, escaped_cons_of_ne (by decide), ← ih hrest]
    simp [escape, escapeChar]
  | case3 c rest hone hzero ih =>
    have hrest : '/' ∉ rest := fun hmem => h (by simp [hmem])
    have hslash : c ≠ '/' := fun heq => h (by simp [heq])
    rw [escape, List.flatMap_cons, ← escape]
    by_cases htilde : c = '~'
    · -- A tilde that starts no escape comes out as one.
      subst htilde
      refine iff_of_false (fun heq => ?_) fun hescaped => ?_
      · exact hzero _ rfl (List.cons.inj heq).2.symm
      · rcases (escaped_cons.1 hescaped).1 rfl with hhead | hhead
        · obtain ⟨tail, htail⟩ := List.head?_eq_some_iff.1 hhead
          exact hzero tail rfl htail
        · obtain ⟨tail, htail⟩ := List.head?_eq_some_iff.1 hhead
          exact hone tail rfl htail
    · rw [escaped_cons_of_ne htilde, ← ih hrest]
      simp [escapeChar, htilde, hslash]
  | case4 => exact iff_of_true rfl escaped_nil

end Pointer

end Conform
