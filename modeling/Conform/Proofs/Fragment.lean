import Conform.Pointer
import Mathlib.Data.List.Basic

/-!
# Pointers as fragments of URIs

What is written as a fragment is read back as it was (`Pointer.ofFragment_schemaFragment`).  Three codes lie on top of
each other, and each is undone by itself: the escapes inside a token, the bytes of a character, and the signs for the
bytes.
-/

namespace Conform

namespace Text

/-! ### UTF-8 -/

namespace Utf8

theorem toNat_ofNat {n : Nat} (h : n < 256) : (UInt8.ofNat n).toNat = n := by
  rw [UInt8.toNat_ofNat']
  omega

theorem ofNat_lt {n : Nat} (h : n < 256) {b : UInt8} : UInt8.ofNat n < b ↔ n < b.toNat := by
  rw [UInt8.lt_iff_toNat_lt, toNat_ofNat h]

theorem ofNat_le {n : Nat} (h : n < 256) {b : UInt8} : UInt8.ofNat n ≤ b ↔ n ≤ b.toNat := by
  rw [UInt8.le_iff_toNat_le, toNat_ofNat h]

theorem le_ofNat {n : Nat} (h : n < 256) {b : UInt8} : b ≤ UInt8.ofNat n ↔ b.toNat ≤ n := by
  rw [UInt8.le_iff_toNat_le, toNat_ofNat h]

theorem ofNat_beq {n : Nat} (h : n < 256) {b : UInt8} : (UInt8.ofNat n == b) = decide (n = b.toNat) := by
  rw [Bool.eq_iff_iff, beq_iff_eq, decide_eq_true_iff, ← UInt8.toNat_inj, toNat_ofNat h]

/-! How many bytes a first byte calls for. -/

theorem lead?_one {n : Nat} (h : n < 128) : lead? (UInt8.ofNat n) = some (0, 0x80, 0xBF) := by
  have h80 : UInt8.ofNat n < 0x80 := (ofNat_lt (by omega)).2 h
  rw [lead?, if_pos h80]

theorem lead?_two {a : Nat} (h : 2 ≤ a) (h' : a < 32) : lead? (UInt8.ofNat (a + 192)) = some (1, 0x80, 0xBF) := by
  have h80 : ¬ UInt8.ofNat (a + 192) < 0x80 := (ofNat_lt (by omega)).not.2 (by change ¬ a + 192 < 128; omega)
  have hC2 : ¬ UInt8.ofNat (a + 192) < 0xC2 := (ofNat_lt (by omega)).not.2 (by change ¬ a + 192 < 194; omega)
  have hE0 : UInt8.ofNat (a + 192) < 0xE0 := (ofNat_lt (by omega)).2 (by change a + 192 < 224; omega)
  rw [lead?, if_neg h80, if_neg hC2, if_pos hE0]

theorem lead?_three {a : Nat} (h : a < 16) :
    lead? (UInt8.ofNat (a + 224)) =
      some (2, if a = 0 then 0xA0 else 0x80, if a = 13 then 0x9F else 0xBF) := by
  have h80 : ¬ UInt8.ofNat (a + 224) < 0x80 := (ofNat_lt (by omega)).not.2 (by change ¬ a + 224 < 128; omega)
  have hC2 : ¬ UInt8.ofNat (a + 224) < 0xC2 := (ofNat_lt (by omega)).not.2 (by change ¬ a + 224 < 194; omega)
  have hE0 : ¬ UInt8.ofNat (a + 224) < 0xE0 := (ofNat_lt (by omega)).not.2 (by change ¬ a + 224 < 224; omega)
  have hF0 : UInt8.ofNat (a + 224) < 0xF0 := (ofNat_lt (by omega)).2 (by change a + 224 < 240; omega)
  have hfirst : (UInt8.ofNat (a + 224) == 0xE0) = decide (a = 0) := by
    rw [ofNat_beq (by omega)]
    exact decide_eq_decide.2 (by change a + 224 = 224 ↔ _; omega)
  have hsurrogate : (UInt8.ofNat (a + 224) == 0xED) = decide (a = 13) := by
    rw [ofNat_beq (by omega)]
    exact decide_eq_decide.2 (by change a + 224 = 237 ↔ _; omega)
  rw [lead?, if_neg h80, if_neg hC2, if_neg hE0, if_pos hF0, hfirst, hsurrogate]
  simp only [decide_eq_true_eq]

theorem lead?_four {a : Nat} (h : a < 5) :
    lead? (UInt8.ofNat (a + 240)) =
      some (3, if a = 0 then 0x90 else 0x80, if a = 4 then 0x8F else 0xBF) := by
  have h80 : ¬ UInt8.ofNat (a + 240) < 0x80 := (ofNat_lt (by omega)).not.2 (by change ¬ a + 240 < 128; omega)
  have hC2 : ¬ UInt8.ofNat (a + 240) < 0xC2 := (ofNat_lt (by omega)).not.2 (by change ¬ a + 240 < 194; omega)
  have hE0 : ¬ UInt8.ofNat (a + 240) < 0xE0 := (ofNat_lt (by omega)).not.2 (by change ¬ a + 240 < 224; omega)
  have hF0 : ¬ UInt8.ofNat (a + 240) < 0xF0 := (ofNat_lt (by omega)).not.2 (by change ¬ a + 240 < 240; omega)
  have hF5 : UInt8.ofNat (a + 240) < 0xF5 := (ofNat_lt (by omega)).2 (by change a + 240 < 245; omega)
  have hfirst : (UInt8.ofNat (a + 240) == 0xF0) = decide (a = 0) := by
    rw [ofNat_beq (by omega)]
    exact decide_eq_decide.2 (by change a + 240 = 240 ↔ _; omega)
  have hlast : (UInt8.ofNat (a + 240) == 0xF4) = decide (a = 4) := by
    rw [ofNat_beq (by omega)]
    exact decide_eq_decide.2 (by change a + 240 = 244 ↔ _; omega)
  rw [lead?, if_neg h80, if_neg hC2, if_neg hE0, if_neg hF0, if_pos hF5, hfirst, hlast]
  simp only [decide_eq_true_eq]

/-! How many of the bytes after it continue the character. -/

theorem goodCount_cons {low high : UInt8} {b need : Nat} {rest : List UInt8} (hb : b < 64)
    (hlow : low.toNat ≤ b + 128) (hhigh : b + 128 ≤ high.toNat) :
    goodCount (need + 1) low high (UInt8.ofNat (b + 128) :: rest) = goodCount need 0x80 0xBF rest + 1 := by
  have hlow' : low ≤ UInt8.ofNat (b + 128) := (le_ofNat (by omega)).2 hlow
  have hhigh' : UInt8.ofNat (b + 128) ≤ high := (ofNat_le (by omega)).2 hhigh
  rw [goodCount, if_pos (by rw [Bool.and_eq_true, decide_eq_true_eq, decide_eq_true_eq]; exact ⟨hlow', hhigh'⟩)]

theorem goodCount_tail {b need : Nat} {rest : List UInt8} (hb : b < 64) :
    goodCount (need + 1) 0x80 0xBF (UInt8.ofNat (b + 128) :: rest) = goodCount need 0x80 0xBF rest + 1 :=
  goodCount_cons hb (by change 128 ≤ b + 128; omega) (by change b + 128 ≤ 191; omega)

/-- A character is read where as many bytes continue it as the first one calls for. -/
theorem head_eq {b low high : UInt8} {need n : Nat} {rest : List UInt8} (hlead : lead? b = some (need, low, high))
    (hgood : goodCount need low high rest = need) (hcode : codePoint b need rest = n) :
    head b rest = .ok (Char.ofNat n, need) := by
  simp only [head, hlead, hgood, hcode, beq_self_eq_true, ↓reduceIte]

theorem head_one {n : Nat} (h : n < 128) (rest : List UInt8) : head (UInt8.ofNat n) rest = .ok (Char.ofNat n, 0) :=
  head_eq (lead?_one h) rfl (toNat_ofNat (by omega))

theorem head_two {a b : Nat} (ha : 2 ≤ a) (ha' : a < 32) (hb : b < 64) (rest : List UInt8) :
    head (UInt8.ofNat (a + 192)) (UInt8.ofNat (b + 128) :: rest) = .ok (Char.ofNat (a * 64 + b), 1) := by
  refine head_eq (lead?_two ha ha') (goodCount_tail hb) ?_
  change ((UInt8.ofNat (a + 192)).toNat - 192) * 64 + ((UInt8.ofNat (b + 128)).toNat - 128) = _
  rw [toNat_ofNat (by omega), toNat_ofNat (by omega)]
  omega

/-- Of three bytes the first two write no number below `0x800`, and none of those that are no characters. -/
theorem head_three {a b c : Nat} (ha : a < 16) (hb : b < 64) (hc : c < 64) (hfirst : a = 0 → 32 ≤ b)
    (hsurrogate : a = 13 → b < 32) (rest : List UInt8) :
    head (UInt8.ofNat (a + 224)) (UInt8.ofNat (b + 128) :: UInt8.ofNat (c + 128) :: rest) =
      .ok (Char.ofNat ((a * 64 + b) * 64 + c), 2) := by
  have hgood : goodCount 2 (if a = 0 then 0xA0 else 0x80) (if a = 13 then 0x9F else 0xBF)
      (UInt8.ofNat (b + 128) :: UInt8.ofNat (c + 128) :: rest) = 2 := by
    rw [goodCount_cons hb, goodCount_tail hc, goodCount]
    · split
      · change 160 ≤ b + 128
        omega
      · change 128 ≤ b + 128
        omega
    · split
      · change b + 128 ≤ 159
        omega
      · change b + 128 ≤ 191
        omega
  refine head_eq (lead?_three ha) hgood ?_
  change (((UInt8.ofNat (a + 224)).toNat - 224) * 64 + ((UInt8.ofNat (b + 128)).toNat - 128)) * 64 +
    ((UInt8.ofNat (c + 128)).toNat - 128) = _
  rw [toNat_ofNat (by omega), toNat_ofNat (by omega), toNat_ofNat (by omega)]
  omega

theorem head_four {a b c d : Nat} (ha : a < 5) (hb : b < 64) (hc : c < 64) (hd : d < 64) (hfirst : a = 0 → 16 ≤ b)
    (hlast : a = 4 → b < 16) (rest : List UInt8) :
    head (UInt8.ofNat (a + 240)) (UInt8.ofNat (b + 128) :: UInt8.ofNat (c + 128) :: UInt8.ofNat (d + 128) :: rest) =
      .ok (Char.ofNat (((a * 64 + b) * 64 + c) * 64 + d), 3) := by
  have hgood : goodCount 3 (if a = 0 then 0x90 else 0x80) (if a = 4 then 0x8F else 0xBF)
      (UInt8.ofNat (b + 128) :: UInt8.ofNat (c + 128) :: UInt8.ofNat (d + 128) :: rest) = 3 := by
    rw [goodCount_cons hb, goodCount_tail hc, goodCount_tail hd, goodCount]
    · split
      · change 144 ≤ b + 128
        omega
      · change 128 ≤ b + 128
        omega
    · split
      · change b + 128 ≤ 143
        omega
      · change b + 128 ≤ 191
        omega
  refine head_eq (lead?_four ha) hgood ?_
  change ((((UInt8.ofNat (a + 240)).toNat - 240) * 64 + ((UInt8.ofNat (b + 128)).toNat - 128)) * 64 +
    ((UInt8.ofNat (c + 128)).toNat - 128)) * 64 + ((UInt8.ofNat (d + 128)).toNat - 128) = _
  rw [toNat_ofNat (by omega), toNat_ofNat (by omega), toNat_ofNat (by omega), toNat_ofNat (by omega)]
  omega

theorem decodeLossy_of_head {b : UInt8} {rest : List UInt8} {c : Char} {more : Nat} (h : head b rest = .ok (c, more)) :
    decodeLossy (b :: rest) = c :: decodeLossy (rest.drop more) := by
  rw [decodeLossy, h]

/-- The numbers of characters. -/
theorem valid_char (c : Char) : c.toNat < 0xD800 ∨ 0xDFFF < c.toNat ∧ c.toNat < 0x110000 := c.valid

theorem decodeLossy_utf8EncodeChar (c : Char) (rest : List UInt8) :
    decodeLossy (String.utf8EncodeChar c ++ rest) = c :: decodeLossy rest := by
  have hvalid := valid_char c
  have hchar : ∀ n, n = c.toNat → Char.ofNat n = c := fun n hn => hn ▸ Char.ofNat_toNat c
  have hval : c.val.toNat = c.toNat := rfl
  rw [String.utf8EncodeChar]
  simp only [hval]
  split
  · rw [List.singleton_append, decodeLossy_of_head (head_one (by omega) rest), Char.ofNat_toNat]
    rfl
  · split
    · have hhead := head_two (a := c.toNat / 64 % 32) (b := c.toNat % 64) (by omega) (by omega) (by omega) rest
      rw [hchar _ (by omega)] at hhead
      exact decodeLossy_of_head hhead
    · split
      · have hhead := head_three (a := c.toNat / 4096 % 16) (b := c.toNat / 64 % 64) (c := c.toNat % 64) (by omega)
          (by omega) (by omega) (by omega) (by omega) rest
        rw [hchar _ (by omega)] at hhead
        exact decodeLossy_of_head hhead
      · have hhead := head_four (a := c.toNat / 262144 % 8) (b := c.toNat / 4096 % 64) (c := c.toNat / 64 % 64)
          (d := c.toNat % 64) (by omega) (by omega) (by omega) (by omega) (by omega) (by omega) rest
        rw [hchar _ (by omega)] at hhead
        exact decodeLossy_of_head hhead

/-- What is written as bytes is read back. -/
theorem decodeLossy_encode (cs : List Char) : decodeLossy (encode cs) = cs := by
  induction cs with
  | nil => rw [encode, List.flatMap_nil, decodeLossy]
  | cons c cs ih => rw [encode, List.flatMap_cons, decodeLossy_utf8EncodeChar, ← encode, ih]

end Utf8

/-! ### Signs for bytes -/

namespace Percent

theorem hexValue?_hexDigit {n : Nat} (h : n < 16) : hexValue? (hexDigit true n) = some n := by
  have hall : ∀ n < 16, hexValue? (hexDigit true n) = some n := by decide
  exact hall n h

theorem toNat_hexDigit_lt {n : Nat} (h : n < 16) : (hexDigit true n).toNat < 128 := by
  have hall : ∀ n < 16, (hexDigit true n).toNat < 128 := by decide
  exact hall n h

theorem encodeByte_eq (b : UInt8) :
    encodeByte b = ['%', hexDigit true (b.toNat / 16 % 16), hexDigit true (b.toNat % 16)] := rfl

theorem bytes_encodeByte (b : UInt8) (rest : List Char) : bytes (encodeByte b ++ rest) = b :: bytes rest := by
  have hb : b.toNat < 256 := b.toNat_lt
  have hvalue : UInt8.ofNat (16 * (b.toNat / 16 % 16) + b.toNat % 16) = b := by
    rw [← UInt8.toNat_inj, Utf8.toNat_ofNat (by omega)]
    omega
  rw [encodeByte_eq, List.cons_append, List.cons_append, List.singleton_append, bytes,
    hexValue?_hexDigit (by omega), hexValue?_hexDigit (by omega)]
  simp only [hvalue]

theorem bytes_cons {c : Char} (h : c ≠ '%') (rest : List Char) :
    bytes (c :: rest) = UInt8.ofNat c.toNat :: bytes rest := by
  rw [bytes]
  rintro a b rest' rfl
  exact absurd rfl h

theorem bytes_flatMap_encodeByte (bs : List UInt8) (rest : List Char) :
    bytes (bs.flatMap encodeByte ++ rest) = bs ++ bytes rest := by
  induction bs with
  | nil => rfl
  | cons b bs ih => rw [List.flatMap_cons, List.append_assoc, bytes_encodeByte, ih, List.cons_append]

/-- The characters that are left as they are are ASCII, and the sign for bytes is not among them. -/
def Plain (keep : Char → Bool) : Prop := ∀ c, keep c = true → c.toNat < 128 ∧ c ≠ '%'

theorem isAlpha_eq (c : Char) : c.isAlpha =
    (decide ('A'.val ≤ c.val ∧ c.val ≤ 'Z'.val) || (decide ('a'.val ≤ c.val) && decide (c.val ≤ 'z'.val))) := rfl

theorem plain_unreserved : Plain isUnreserved := by
  intro c hc
  have hne : c ≠ '%' := by
    rintro rfl
    revert hc
    decide
  refine ⟨?_, hne⟩
  simp only [isUnreserved, Char.isAlphanum, isAlpha_eq, Char.isDigit, Bool.or_eq_true, Bool.and_eq_true, decide_eq_true_eq,
    beq_iff_eq, UInt32.le_iff_toNat_le] at hc
  rcases hc with ((((hc | hc) | rfl) | rfl) | rfl) | rfl
  · rcases hc with hc | hc
    · exact Nat.lt_of_le_of_lt hc.2 (by decide)
    · exact Nat.lt_of_le_of_lt hc.2 (by decide)
  · exact Nat.lt_of_le_of_lt hc.2 (by decide)
  all_goals decide

theorem utf8EncodeChar_of_lt {c : Char} (h : c.toNat < 128) : String.utf8EncodeChar c = [UInt8.ofNat c.toNat] := by
  have hval : c.val.toNat = c.toNat := rfl
  rw [String.utf8EncodeChar]
  simp only [hval]
  rw [if_pos (by omega)]

variable {keep : Char → Bool}

theorem bytes_encode (hkeep : Plain keep) (cs : List Char) : bytes (encode keep cs) = Utf8.encode cs := by
  induction cs with
  | nil => rfl
  | cons c cs ih =>
    rw [encode, List.flatMap_cons, ← encode, Utf8.encode, List.flatMap_cons, ← Utf8.encode, ← ih, encodeChar]
    split
    · rename_i hc
      obtain ⟨hlt, hne⟩ : c.toNat < 128 ∧ c ≠ '%' := by
        rcases Bool.or_eq_true_iff.1 hc with hc | hc
        · exact plain_unreserved c hc
        · exact hkeep c hc
      rw [utf8EncodeChar_of_lt hlt, List.singleton_append, bytes_cons hne]
      rfl
    · exact bytes_flatMap_encodeByte _ _

/-- The characters of a text in percent-encoding: those that stand for themselves, and those of the signs for bytes. -/
theorem of_mem_encode {cs : List Char} {c : Char} (h : c ∈ encode keep cs) :
    isUnreserved c = true ∨ keep c = true ∨ c = '%' ∨ ∃ n < 16, c = hexDigit true n := by
  obtain ⟨d, -, hc⟩ := List.mem_flatMap.1 h
  unfold encodeChar at hc
  split at hc
  · rename_i hd
    rw [List.mem_singleton.1 hc]
    exact (Bool.or_eq_true_iff.1 hd).imp_right .inl
  · obtain ⟨b, -, hc⟩ := List.mem_flatMap.1 hc
    rw [encodeByte_eq] at hc
    rcases List.mem_cons.1 hc with rfl | hc
    · exact .inr (.inr (.inl rfl))
    · rcases List.mem_cons.1 hc with rfl | hc
      · exact .inr (.inr (.inr ⟨_, by omega, rfl⟩))
      · exact .inr (.inr (.inr ⟨_, by omega, List.mem_singleton.1 hc⟩))

theorem toNat_lt_of_mem_encode (hkeep : Plain keep) {cs : List Char} {c : Char} (h : c ∈ encode keep cs) :
    c.toNat < 128 := by
  rcases of_mem_encode h with hc | hc | rfl | ⟨n, hn, rfl⟩
  · exact (plain_unreserved c hc).1
  · exact (hkeep c hc).1
  · decide
  · exact toNat_hexDigit_lt hn

/-- The mark of fragments is written as a sign for a byte. -/
theorem not_mem_encode {cs : List Char} (hkeep : keep '#' = false) : '#' ∉ encode keep cs := by
  intro h
  rcases of_mem_encode h with hc | hc | hc | ⟨n, hn, hc⟩
  · revert hc
    decide
  · rw [hkeep] at hc
    cases hc
  · revert hc
    decide
  · have hall : ∀ n < 16, '#' ≠ hexDigit true n := by decide
    exact hall n hn hc

theorem decodeRun_of_ascii {cs : List Char} (h : ∀ c ∈ cs, c.toNat < 128) (run : List Char) :
    decodeRun run cs = Utf8.decodeLossy (bytes (run.reverse ++ cs)) := by
  induction cs generalizing run with
  | nil => rw [decodeRun, List.append_nil]
  | cons c cs ih =>
    rw [decodeRun, if_pos (h c (by simp)), ih (fun d hd => h d (by simp [hd])), List.reverse_cons, List.append_assoc,
      List.singleton_append]

/-- What is written with signs for bytes is read back. -/
theorem decode_encode (hkeep : Plain keep) (cs : List Char) : decode (encode keep cs) = cs := by
  rw [decode, decodeRun_of_ascii fun c hc => toNat_lt_of_mem_encode hkeep hc]
  rw [List.reverse_nil, List.nil_append, bytes_encode hkeep, Utf8.decodeLossy_encode]

end Percent

/-! ### Tokens -/

section Fields

variable {γ : Type} [DecidableEq γ] {sep : γ}

theorem fields_append {cs : List γ} (h : sep ∉ cs) (rest : List γ) :
    fields sep (cs ++ sep :: rest) = cs :: fields sep rest := by
  induction cs with
  | nil => simp [fields]
  | cons c cs ih =>
    have hc : c ≠ sep := fun heq => h (by simp [heq])
    have hcs : sep ∉ cs := fun hmem => h (by simp [hmem])
    rw [List.cons_append, fields, if_neg (by simpa using hc), ih hcs]

theorem fields_of_not_mem {cs : List γ} (h : sep ∉ cs) : fields sep cs = [cs] := by
  induction cs with
  | nil => rfl
  | cons c cs ih =>
    have hc : c ≠ sep := fun heq => h (by simp [heq])
    have hcs : sep ∉ cs := fun hmem => h (by simp [hmem])
    rw [fields, if_neg (by simpa using hc), ih hcs]

/-- Parts without the separator are read back from their text. -/
theorem fields_flatMap (part : List γ) (parts : List (List γ)) (h : ∀ cs ∈ part :: parts, sep ∉ cs) :
    fields sep (part ++ parts.flatMap (sep :: ·)) = part :: parts := by
  induction parts generalizing part with
  | nil => rw [List.flatMap_nil, List.append_nil, fields_of_not_mem (h part (by simp))]
  | cons next parts ih =>
    rw [List.flatMap_cons, List.cons_append, fields_append (h part (by simp)),
      ih next fun cs hcs => h cs (List.mem_cons_of_mem _ hcs)]

end Fields

end Text

namespace Pointer

theorem not_mem_escape (cs : List Char) : '/' ∉ escape cs := by
  intro h
  obtain ⟨c, -, hc⟩ := List.mem_flatMap.1 h
  unfold escapeChar at hc
  split at hc
  · simp at hc
  · split at hc
    · simp at hc
    · rename_i hslash
      exact hslash (beq_iff_eq.2 (List.mem_singleton.1 hc).symm)

theorem unescape_escape (cs : List Char) : unescape (escape cs) = cs := by
  induction cs with
  | nil => rfl
  | cons c cs ih =>
    rw [escape, List.flatMap_cons, ← escape, escapeChar]
    split
    · rename_i hc
      rw [List.cons_append, List.singleton_append, unescape, ih, beq_iff_eq.1 hc]
    · split
      · rename_i hc
        rw [List.cons_append, List.singleton_append, unescape, ih, beq_iff_eq.1 hc]
      · rename_i htilde _
        rw [List.singleton_append, unescape, ih]
        · rintro rest rfl
          simp at htilde
        · rintro rest rfl
          simp at htilde

/-- The text of a pointer denotes it. -/
theorem parse_text (p : Pointer) : parse p.text = .ok p := by
  obtain ⟨tokens⟩ := p
  cases tokens with
  | nil => rfl
  | cons t ts =>
    have hslash : ∀ cs ∈ escape t.toList :: ts.map fun t => escape t.toList, '/' ∉ cs := by
      intro cs hcs
      rcases List.mem_cons.1 hcs with rfl | hcs
      · exact not_mem_escape _
      · obtain ⟨u, -, rfl⟩ := List.mem_map.1 hcs
        exact not_mem_escape _
    have hfields := Text.fields_flatMap (escape t.toList) (ts.map fun t => escape t.toList) hslash
    rw [List.flatMap_map] at hfields
    simp only [parse, text, String.toList_ofList, List.flatMap_cons, List.cons_append]
    rw [hfields]
    simp [unescape_escape, Function.comp_def]

/-- The text of a fragment is the text of the pointer with signs for bytes, where the slashes between tokens stand for
themselves. -/
theorem encode_text {keep : Char → Bool} (p : Pointer) :
    (p.tokens.flatMap fun t => '/' :: Text.Percent.encode keep (escape t.toList)) =
      Text.Percent.encode (fun c => keep c || c == '/') p.text.toList := by
  have htoken : ∀ cs : List Char, '/' ∉ cs →
      Text.Percent.encode keep cs = Text.Percent.encode (fun c => keep c || c == '/') cs := by
    intro cs hcs
    refine List.flatMap_congr fun c hc => ?_
    have hne : (c == '/') = false := beq_eq_false_iff_ne.2 fun heq => hcs (heq ▸ hc)
    rw [Text.Percent.encodeChar, Text.Percent.encodeChar, hne, Bool.or_false]
  rw [text, String.toList_ofList, Text.Percent.encode, List.flatMap_assoc]
  refine List.flatMap_congr fun t _ => ?_
  have hslash : Text.Percent.encodeChar (fun c => keep c || c == '/') '/' = ['/'] := by simp [Text.Percent.encodeChar]
  rw [List.flatMap_cons, htoken _ (not_mem_escape _), hslash]
  rfl

theorem ofFragment_fragmentKeeping {keep : Char → Bool} (hkeep : Text.Percent.Plain keep) (p : Pointer) :
    ofFragment (p.fragmentKeeping keep) = .ok p := by
  have hslash : Text.Percent.Plain fun c => keep c || c == '/' := by
    intro c hc
    rcases Bool.or_eq_true_iff.1 hc with hc | hc
    · exact hkeep c hc
    · rw [beq_iff_eq.1 hc]
      decide
  simp only [ofFragment, fragmentKeeping, String.toList_ofList]
  rw [encode_text, Text.Percent.decode_encode hslash, String.ofList_toList, parse_text]

/-- The fragment of a location denotes it. -/
theorem ofFragment_schemaFragment (p : Pointer) : ofFragment p.schemaFragment = .ok p :=
  ofFragment_fragmentKeeping (fun c hc => by rw [beq_iff_eq.1 hc]; decide) p

end Pointer

end Conform
