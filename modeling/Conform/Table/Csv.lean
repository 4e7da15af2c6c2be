import Conform.Table.Fault

/-!
# Comma-separated values

The lines of a text and their fields.  A field may stand in quotes, which a quote written twice does not end; what
follows the end of the quotes belongs to the field.  Lines without a character other than white space do not
count.

`Csv.read` cuts a text with a machine of one step per character.  The first line has the names of the columns and
the second settles how many fields a line has: shorter lines are filled up, and a longer one is a fault.
-/

namespace Conform

namespace Csv

/-- A field of a line. -/
abbrev Field := List Char

/-- Where in a line the reader is. -/
inductive Mode where
  | lineStart
  /-- After white space at the start of a line, which may be all of it. -/
  | indent
  | fieldStart
  | plain
  | quoted
  /-- After a quote in a quoted field: its end, or the first of two. -/
  | quote
  deriving DecidableEq, Repr

/-- What has been read: the field, the fields of the line and the lines, each last first. -/
structure Progress where
  mode : Mode := .lineStart
  field : Field := []
  fields : List Field := []
  lines : List (List Field) := []
  deriving Repr

/-- A character that ends a line. -/
def isBreak (c : Char) : Bool := c == '\n' || c == '\r'

/-- A character that a line may have and not count. -/
def isSpace (c : Char) : Bool := c == ' ' || c == '\t'

namespace Progress

/-- Takes a character into the field. -/
def push (p : Progress) (mode : Mode) (c : Char) : Progress := { p with mode, field := c :: p.field }

/-- Ends the field; a null character ends its text before. -/
def endField (p : Progress) : Progress :=
  { p with mode := .fieldStart, field := [], fields := p.field.reverse.takeWhile (· != '\x00') :: p.fields }

/-- Ends the field and the line. -/
def endLine (p : Progress) : Progress := ⟨.lineStart, [], [], p.endField.fields.reverse :: p.lines⟩

/-- Takes a character outside quotes. -/
def outside (p : Progress) (c : Char) : Progress :=
  if isBreak c then p.endLine else if c == ',' then p.endField else p.push .plain c

/-- Takes the first character of a field. -/
def opening (p : Progress) (c : Char) : Progress :=
  if c == '"' then { p with mode := .quoted } else p.outside c

/-- Takes a character. -/
def step (p : Progress) (c : Char) : Progress :=
  match p.mode with
  | .lineStart => if isBreak c then p else if isSpace c then p.push .indent c else p.opening c
  | .indent =>
    if isBreak c then { p with mode := .lineStart, field := [] }
    else if isSpace c then p.push .indent c
    else p.outside c
  | .fieldStart => p.opening c
  | .plain => p.outside c
  | .quoted => if c == '"' then { p with mode := .quote } else p.push .quoted c
  | .quote => if c == '"' then p.push .quoted c else p.outside c

/-- The lines at the end of the text. -/
def finish (p : Progress) : Except TableFault (List (List Field)) :=
  match p.mode with
  | .lineStart | .indent => .ok p.lines.reverse
  | .quoted => .error .openQuote
  | _ => .ok p.endLine.lines.reverse

end Progress

/-- The text without a byte order mark. -/
def dropMark : List Char → List Char
  | '\uFEFF' :: cs => cs
  | cs => cs

/-- The fields of the lines of a text. -/
def lines (cs : List Char) : Except TableFault (List (List Field)) :=
  ((dropMark cs).foldl Progress.step {}).finish

/-- A line filled up with empty fields. -/
def fillUp (width : Nat) (line : List Field) : List Field := line ++ List.replicate (width - line.length) []

/-- Lines of a width. -/
def evenOut (width : Nat) : List (List Field) → Except TableFault (List (List Field))
  | [] => .ok []
  | line :: rest =>
    if width < line.length then .error (.longLine width line.length)
    else (evenOut width rest).map (fillUp width line :: ·)

/-- The first line of a text, and the others in the width of the second, or of the first if that is greater. -/
def read (cs : List Char) : Except TableFault (List Field × List (List Field)) := do
  match ← lines cs with
  | [] => throw .empty
  | header :: rows =>
    let width := max header.length ((rows.head?.map List.length).getD 0)
    return (header, ← evenOut width rows)

end Csv

end Conform
