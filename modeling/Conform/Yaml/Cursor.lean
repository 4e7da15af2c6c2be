import Conform.Text.Digit
import Conform.Yaml.Fault

/-!
# Cursors

A place in a YAML text, with the line and column that indentation is measured by.  `Scanning` moves one forward
and may fail.
-/

namespace Conform.Yaml

/-- The text from a place on, and where the place lies. -/
structure Cursor where
  rest : List Char
  index : Nat := 0
  line : Nat := 0
  column : Nat := 0

/-- A character that breaks a line. -/
def isBreak (c : Char) : Bool := c == '\n' || c == '\r' || c == '\x85' || c == '\u2028' || c == '\u2029'

/-- A space or a tab. -/
def isGap (c : Char) : Bool := c == ' ' || c == '\t'

/-- A line ends here. -/
def endsLine : List Char → Bool
  | [] => true
  | c :: _ => isBreak c

/-- A line or a row of characters without spaces ends here. -/
def endsAtSpace : List Char → Bool
  | [] => true
  | c :: _ => c == ' ' || isBreak c

/-- A line or a row of characters without spaces and tabs ends here. -/
def endsWord : List Char → Bool
  | [] => true
  | c :: _ => isGap c || isBreak c

/-- One of the two marks between documents stands here, as a word of its own. -/
def atMark (mark : Char) : List Char → Bool
  | a :: b :: c :: rest => a == mark && b == mark && c == mark && endsWord rest
  | _ => false

/-- A mark that starts or ends a document stands here. -/
def atDocumentMark (cs : List Char) : Bool := atMark '-' cs || atMark '.' cs

namespace Cursor

/-- The place after the next character.  A carriage return before a line feed breaks no line of its own, and a
byte order mark takes no column. -/
def next (c : Cursor) : Cursor :=
  match c.rest with
  | [] => c
  | ch :: rest =>
    if isBreak ch && !(ch == '\r' && rest.head? == some '\n') then ⟨rest, c.index + 1, c.line + 1, 0⟩
    else ⟨rest, c.index + 1, c.line, c.column + if ch == '\uFEFF' then 0 else 1⟩

/-- The place after `n` further characters. -/
def skip : Nat → Cursor → Cursor
  | 0, c => c
  | n + 1, c => skip n c.next

end Cursor

/-- Reading on from a place, unless there is a fault. -/
abbrev Scanning := StateT Cursor (Except Fault)

namespace Scanning

/-- The text that is left. -/
def rest : Scanning (List Char) := return (← get).rest

/-- The next character. -/
def peek : Scanning (Option Char) := return (← get).rest.head?

/-- Passes over a number of characters. -/
def pass (n : Nat) : Scanning Unit := modify (·.skip n)

/-- Reads the characters of which the test holds. -/
def takeWhile (test : Char → Bool) : Scanning (List Char) := do
  let taken := (← rest).takeWhile test
  pass taken.length
  return taken

/-- Passes over spaces. -/
def spaces : Scanning Unit := do
  let _ ← takeWhile (· == ' ')

/-- Passes over the line up to its break. -/
def restOfLine : Scanning Unit := do
  let _ ← takeWhile (!isBreak ·)

/-- Passes over a comment up to the end of the line, if there is one here. -/
def comment : Scanning Unit := do
  if (← peek) == some '#' then restOfLine

/-- Reads a line break: the separators beyond ASCII stand for themselves, every other break for a line feed. -/
def lineBreak : Scanning (List Char) := do
  match ← rest with
  | '\r' :: '\n' :: _ => pass 2; return ['\n']
  | c :: _ =>
    if c == '\u2028' || c == '\u2029' then pass 1; return [c]
    else if isBreak c then pass 1; return ['\n']
    else return []
  | [] => return []

/-- Fails unless the test holds of the text that is left. -/
def require (test : List Char → Bool) (fault : Fault) : Scanning Unit := do
  if !test (← rest) then throw fault

/-- Reads as many hexadecimal digits. -/
def hexNumber (digits : Nat) (fault : Fault) : Scanning Nat := do
  let cs := (← rest).take digits
  if cs.length == digits && cs.all Text.isHex then
    pass digits
    return Text.hexOf cs
  else throw fault

end Scanning

end Conform.Yaml
