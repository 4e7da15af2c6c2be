/-!
# Splitting text

Cutting a list of characters at a separator: everywhere (`fields`, undone by `join`), at the first place (`cut?`)
or at the last (`cutLast?`).
-/

namespace Conform.Text

/-- The parts of a text, or of any list, between separators; a text without one is its own only part. -/
def fields {γ : Type} [DecidableEq γ] (sep : γ) : List γ → List (List γ)
  | [] => [[]]
  | c :: rest =>
    if c == sep then [] :: fields sep rest
    else match fields sep rest with
      | part :: parts => (c :: part) :: parts
      | [] => [[c]]

/-- The parts with a separator between neighbours. -/
def join (sep : Char) : List (List Char) → List Char
  | [] => []
  | [part] => part
  | part :: parts => part ++ sep :: join sep parts

/-- The text before and after the first separator. -/
def cut? (sep : Char) : List Char → Option (List Char × List Char)
  | [] => none
  | c :: rest =>
    if c == sep then some ([], rest) else (cut? sep rest).map fun (before, after) => (c :: before, after)

/-- The text before and after the last separator. -/
def cutLast? (sep : Char) (cs : List Char) : Option (List Char × List Char) :=
  (cut? sep cs.reverse).map fun (after, before) => (before.reverse, after.reverse)

/-- The text without a line break at its end. -/
def dropFinalBreak (cs : List Char) : List Char := if cs.getLast? == some '\n' then cs.dropLast else cs

/-- A character that ends a line, in the widest sense. -/
def endsLine (c : Char) : Bool := "\n\x0B\x0C\r\x1C\x1D\x1E\u0085\u2028\u2029".toList.contains c

/-- The text with every line break as a line feed. -/
def unifyBreaks : List Char → List Char
  | '\r' :: '\n' :: rest => '\n' :: unifyBreaks rest
  | '\r' :: rest => '\n' :: unifyBreaks rest
  | c :: rest => c :: unifyBreaks rest
  | [] => []

/-- The lines of a text; the end of the last one may be left out. -/
def lines (cs : List Char) : List (List Char) :=
  let parts := fields '\n' ((unifyBreaks cs).map fun c => if endsLine c then '\n' else c)
  if parts.getLast? == some [] then parts.dropLast else parts

theorem fields_ne_nil {γ : Type} [DecidableEq γ] (sep : γ) (cs : List γ) : fields sep cs ≠ [] := by
  cases cs with
  | nil => simp [fields]
  | cons c rest =>
    simp only [fields]
    split
    · simp
    · split <;> simp

theorem join_fields (sep : Char) (cs : List Char) : join sep (fields sep cs) = cs := by
  induction cs with
  | nil => rfl
  | cons c rest ih =>
    simp only [fields]
    split
    · rename_i h
      have : c = sep := by simpa using h
      subst this
      cases h' : fields c rest with
      | nil => exact absurd h' (fields_ne_nil c rest)
      | cons p ps => simp [join, ← h', ih]
    · split
      · rename_i p ps h'
        rw [h'] at ih
        cases ps with
        | nil => simp_all [join]
        | cons q qs => simp_all [join]
      · rename_i h'
        exact absurd h' (fields_ne_nil sep rest)

end Conform.Text
