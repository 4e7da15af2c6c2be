import Conform.Text.Quoted

/-!
# Texts of code points

A text at hand in a program may hold what no text of a file does: half of a surrogate pair without its other half.  Such a
text has no bytes, so whatever writes it in bytes fails (`CodeText.unencodable`), while everything that goes by single
characters takes a half for a character that it does not know.  So a half comes between two runs of characters, and what is
done to texts run by run leaves it where it is (`CodeText.mapRuns`).
-/

namespace Conform

/-- A code point: a character, or one of the numbers for halves of surrogate pairs. -/
inductive CodePoint where
  | char (c : Char)
  | half (h : Fin 2048)
  deriving DecidableEq, Repr

namespace CodePoint

/-- The character, if the code point is one. -/
def char? : CodePoint → Option Char
  | char c => some c
  | half _ => none

/-- The code point of a number; those beyond the last one stand for the character zero. -/
def ofNat (n : Nat) : CodePoint :=
  if h : 0xD800 ≤ n ∧ n ≤ 0xDFFF then .half ⟨n - 0xD800, by omega⟩ else .char (Char.ofNat n)

/-- The written form of a half: its number. -/
def halfText (h : Fin 2048) : List Char := Text.Quoted.numbered (0xD800 + h.val)

end CodePoint

/-- A text in which halves of surrogate pairs may stand alone. -/
structure CodeText where
  codes : List CodePoint
  deriving DecidableEq, Repr

namespace CodeText

/-- A text without halves. -/
def ofString (s : String) : CodeText := ⟨s.toList.map .char⟩

instance : Coe String CodeText := ⟨ofString⟩

/-- The text, if there is no half in it. -/
def toString? (t : CodeText) : Option String := (t.codes.mapM CodePoint.char?).map String.ofList

/-- The code points with a function applied to every run of characters; `run` holds, last first, the characters read since
the last half. -/
def mapRunsFrom (f : List Char → List Char) (run : List Char) : List CodePoint → List CodePoint
  | [] => (f run.reverse).map .char
  | .char c :: rest => mapRunsFrom f (c :: run) rest
  | .half h :: rest => (f run.reverse).map .char ++ .half h :: mapRunsFrom f [] rest

/-- The text with a function applied to every run of characters between halves. -/
def mapRuns (f : List Char → List Char) (t : CodeText) : CodeText := ⟨mapRunsFrom f [] t.codes⟩

/-- The text as it is shown where halves cannot be: they are written as escapes. -/
def shown (t : CodeText) : String :=
  String.ofList (t.codes.flatMap fun
    | .char c => [c]
    | .half h => CodePoint.halfText h)

/-- The text in quotes. -/
def quoted (t : CodeText) : String :=
  let quote := Text.Quoted.quoteFor (t.codes.filterMap CodePoint.char?)
  let body := t.codes.flatMap fun
    | .char c => Text.Quoted.escape quote c
    | .half h => CodePoint.halfText h
  String.ofList (quote :: body ++ [quote])

/-- What is said of a text that has no bytes: the first halves in it, by place. -/
def unencodable (t : CodeText) : String :=
  let start := (t.codes.takeWhile fun c => c.char?.isSome).length
  let halves := (t.codes.drop start).takeWhile fun c => c.char?.isNone
  let place := match halves with
    | [.half h] => "character '" ++ String.ofList (CodePoint.halfText h) ++ "' in position " ++ toString start
    | _ => "characters in position " ++ toString start ++ "-" ++ toString (start + halves.length - 1)
  "'utf-8' codec can't encode " ++ place ++ ": surrogates not allowed"

end CodeText

end Conform
