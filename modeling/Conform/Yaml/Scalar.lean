import Conform.Yaml.Cursor

/-!
# Scalars

The three ways to write a scalar: as a block of lines (`blockScalar`), between quotes (`quotedScalar`), and plain
(`plainScalar`).  A line break inside a quoted or plain scalar folds to a space, and further breaks are kept; in a
block it depends on the header.
-/

namespace Conform.Yaml

open Scanning

/-! ### Blocks -/

/-- Which breaks at the end of a block are kept. -/
inductive Chomping where
  | clip
  | strip
  | keep
  deriving DecidableEq, Repr

/-- The chomping that a sign asks for. -/
def Chomping.ofSign? : Char → Option Chomping
  | '+' => some .keep
  | '-' => some .strip
  | _ => none

/-- Reads a chomping sign, if there is one. -/
def chompingSign : Scanning (Option Chomping) := do
  match (← peek).bind Chomping.ofSign? with
  | some chomping => pass 1; return some chomping
  | none => return none

/-- Reads a digit for the indentation, if there is one. -/
def indentationDigit : Scanning (Option Nat) := do
  match ← peek with
  | some c =>
    if c.isDigit then
      if c == '0' then throw .blockHeader
      pass 1
      return some (c.toNat - 48)
    else return none
  | none => return none

/-- Reads the sign and the digit of a header, in either order. -/
def blockIndicators : Scanning (Chomping × Option Nat) := do
  let before ← chompingSign
  let digit ← indentationDigit
  let sign ← match before with
    | some sign => pure (some sign)
    | none => if digit.isSome then chompingSign else pure none
  require endsAtSpace .blockHeader
  return (sign.getD .clip, digit)

/-- Passes over what may stand between the indicators of a line and its end. -/
def ignoredLine (fault : Fault) : Scanning Unit := do
  spaces
  comment
  require endsLine fault
  let _ ← lineBreak

/-- Passes over the spaces that indent a line, up to a column. -/
def indentTo (indent : Nat) : Scanning Unit := do
  let c ← get
  let spaces := (c.rest.takeWhile (· == ' ')).length
  pass (min spaces (indent - c.column))

/-- Reads line breaks, with the indentation after each.  Every round reads a break. -/
def blockBreaks (indent : Nat) : Nat → List Char → Scanning (List Char)
  | 0, breaks => return breaks
  | fuel + 1, breaks => do
    match ← peek with
    | some c =>
      if isBreak c then
        let here ← lineBreak
        indentTo indent
        blockBreaks indent fuel (breaks ++ here)
      else return breaks
    | none => return breaks

/-- Reads the empty lines before a block of unknown indentation: their breaks, and the longest of their
indentations. -/
def leadingBreaks : Nat → List Char → Nat → Scanning (List Char × Nat)
  | 0, breaks, widest => return (breaks, widest)
  | fuel + 1, breaks, widest => do
    match ← peek with
    | some c =>
      if c == ' ' then
        pass 1
        leadingBreaks fuel breaks (max widest (← get).column)
      else if isBreak c then
        let here ← lineBreak
        leadingBreaks fuel (breaks ++ here) widest
      else return (breaks, widest)
    | none => return (breaks, widest)

/-- Reads the lines of a block.  `breaks` are those before the line, `text` what has been read.  The result is the
text with the break and the further breaks after its last line. -/
def blockLines (folded : Bool) (indent : Nat) :
    Nat → List Char → List Char → List Char → Scanning (List Char × List Char × List Char)
  | 0, text, last, breaks => return (text, last, breaks)
  | fuel + 1, text, last, breaks => do
    let c ← get
    if c.column == indent && !c.rest.isEmpty then
      let flush := !(c.rest.head?.any isGap)
      let line ← takeWhile (!isBreak ·)
      let here ← lineBreak
      indentTo indent
      let further ← blockBreaks indent ((← rest).length + 1) []
      let after ← get
      let text := text ++ breaks ++ line
      if after.column == indent && !after.rest.isEmpty then
        if folded && here == ['\n'] && flush && !(after.rest.head?.any isGap) then
          blockLines folded indent fuel (if further.isEmpty then text ++ [' '] else text) [] further
        else blockLines folded indent fuel (text ++ here) [] further
      else return (text, here, further)
    else return (text, last, breaks)

/-- Reads a block scalar from its indicator on, inside a block of indentation `indent`. -/
def blockScalar (folded : Bool) (indent : Int) : Scanning (List Char) := do
  pass 1
  let (chomping, digit) ← blockIndicators
  ignoredLine .blockHeader
  let least := max 1 (indent + 1).toNat
  let fuel := (← rest).length + 1
  let (indent, breaks) ← match digit with
    | some n => do
      let indent := least + n - 1
      indentTo indent
      pure (indent, ← blockBreaks indent fuel [])
    | none => do
      let (breaks, widest) ← leadingBreaks fuel [] 0
      pure (max least widest, breaks)
  let (text, last, breaks) ← blockLines folded indent fuel [] [] breaks
  return match chomping with
    | .strip => text
    | .clip => text ++ last
    | .keep => text ++ last ++ breaks

/-! ### Quotes -/

/-- The character that a one-letter escape stands for. -/
def shortEscape? : Char → Option Char
  | '0' => some '\x00'
  | 'a' => some '\x07'
  | 'b' => some '\x08'
  | 't' => some '\t'
  | '\t' => some '\t'
  | 'n' => some '\n'
  | 'v' => some '\x0B'
  | 'f' => some '\x0C'
  | 'r' => some '\r'
  | 'e' => some '\x1B'
  | ' ' => some ' '
  | '"' => some '"'
  | '\\' => some '\\'
  | '/' => some '/'
  | 'N' => some '\x85'
  | '_' => some '\xA0'
  | 'L' => some '\u2028'
  | 'P' => some '\u2029'
  | _ => none

/-- The number of digits that follow the letter of a numbered escape. -/
def escapeWidth? : Char → Option Nat
  | 'x' => some 2
  | 'u' => some 4
  | 'U' => some 8
  | _ => none

/-- Reads the breaks of the empty lines after a break within quotes. -/
def quotedBreaks : Nat → List Char → Scanning (List Char)
  | 0, breaks => return breaks
  | fuel + 1, breaks => do
    if atDocumentMark (← rest) then throw .markInside
    let _ ← takeWhile isGap
    let here ← lineBreak
    if here.isEmpty then return breaks
    else quotedBreaks fuel (breaks ++ here)

/-- Reads the text that a line break with the empty lines after it stands for. -/
def foldedBreak : Scanning (List Char) := do
  let here ← lineBreak
  let breaks ← quotedBreaks ((← rest).length + 1) []
  return if here != ['\n'] then here ++ breaks
    else if breaks.isEmpty then [' ']
    else breaks

/-- Reads an escape after its backslash; `text` is what precedes it in the scalar. -/
def escaped (text : List Char) : Scanning (List Char) := do
  match ← peek with
  | none => throw .escape
  | some c =>
    match shortEscape? c, escapeWidth? c with
    | some ch, _ => pass 1; return [ch]
    | none, some width =>
      pass 1
      let code ← hexNumber width .escape
      if code < 0x110000 then
        match CodePoint.ofNat code with
        | .char c => return [c]
        | .half h => throw (.loneHalf ⟨text.map .char ++ [.half h]⟩)
      else throw (if code < 0x80000000 then .characterRange else .characterOverflow)
    | none, none =>
      if isBreak c then
        let _ ← lineBreak
        quotedBreaks ((← rest).length + 1) []
      else throw .escape

/-- A character that stands for itself within quotes wherever it is. -/
def isQuotedPlain (c : Char) : Bool := !(c == '\x27' || c == '"' || c == '\\' || isGap c || isBreak c)

/-- Reads a quoted scalar after its opening quote; `text` is what has been read.  Every round but the last reads
something. -/
def quotedBody (quote : Char) : Nat → List Char → Scanning (List Char)
  | 0, _ => throw .unterminated
  | fuel + 1, text => do
    match ← rest with
    | [] => throw .unterminated
    | c :: after =>
      if c == quote then
        if quote == '\x27' && after.head? == some '\x27' then
          pass 2
          quotedBody quote fuel (text ++ ['\x27'])
        else
          pass 1
          return text
      else if quote == '"' && c == '\\' then
        pass 1
        let cs ← escaped text
        quotedBody quote fuel (text ++ cs)
      else if isBreak c then
        let cs ← foldedBreak
        quotedBody quote fuel (text ++ cs)
      else if isGap c then
        let gap ← takeWhile isGap
        match ← peek with
        | none => throw .unterminated
        | some d =>
          if isBreak d then
            let cs ← foldedBreak
            quotedBody quote fuel (text ++ cs)
          else quotedBody quote fuel (text ++ gap)
      else if isQuotedPlain c then
        let cs ← takeWhile isQuotedPlain
        quotedBody quote fuel (text ++ cs)
      else
        pass 1
        quotedBody quote fuel (text ++ [c])

/-- Reads a scalar between quotes of the given kind. -/
def quotedScalar (quote : Char) : Scanning (List Char) := do
  pass 1
  quotedBody quote ((← rest).length + 1) []

/-! ### Plain scalars -/

/-- A mark of a flow collection that ends a plain scalar inside it. -/
def isFlowMark (c : Char) : Bool := c == ',' || c == '?' || c == '[' || c == ']' || c == '{' || c == '}'

/-- A plain scalar cannot go on here within its line. -/
def endsPlain (inFlow : Bool) : List Char → Bool
  | [] => true
  | c :: after =>
    isGap c || isBreak c || (inFlow && isFlowMark c) ||
      (c == ':' && (endsWord after || (inFlow && after.head?.any fun d => d != '?' && isFlowMark d)))

/-- The characters of a plain scalar up to the next gap, and their number. -/
def plainRun (inFlow : Bool) : List Char → List Char
  | [] => []
  | c :: after => if endsPlain inFlow (c :: after) then [] else c :: plainRun inFlow after

/-- Reads the empty lines after the first break of a gap; `none` where a document mark ends the scalar. -/
def plainBreaks : Nat → List Char → Scanning (Option (List Char))
  | 0, breaks => return some breaks
  | fuel + 1, breaks => do
    match ← peek with
    | some ' ' =>
      pass 1
      plainBreaks fuel breaks
    | some c =>
      if isBreak c then
        let here ← lineBreak
        if atDocumentMark (← rest) then return none
        else plainBreaks fuel (breaks ++ here)
      else return some breaks
    | none => return some breaks

/-- Reads the gap between two parts of a plain scalar: the text it stands for, empty if the scalar ends, and
whether it holds a line break. -/
def plainGap : Scanning (List Char × Bool) := do
  let gap ← takeWhile (· == ' ')
  match ← peek with
  | some c =>
    if isBreak c then
      let here ← lineBreak
      if atDocumentMark (← rest) then return ([], true)
      match ← plainBreaks ((← rest).length + 1) [] with
      | none => return ([], true)
      | some breaks =>
        return (if here != ['\n'] then here ++ breaks else if breaks.isEmpty then [' '] else breaks, true)
    else return (gap, false)
  | none => return (gap, false)

/-- Reads the parts of a plain scalar; `gap` stands between what has been read and the next part.  The flag tells
whether the scalar ends after a line break. -/
def plainParts (inFlow : Bool) (indent : Int) :
    Nat → List Char → List Char → Bool → Scanning (List Char × Bool)
  | 0, text, _, broken => return (text, broken)
  | fuel + 1, text, gap, broken => do
    let cs ← rest
    if cs.head? == some '#' then return (text, broken)
    let run := plainRun inFlow cs
    if run.isEmpty then return (text, broken)
    pass run.length
    let (after, broken) ← plainGap
    let text := text ++ gap ++ run
    if after.isEmpty || (!inFlow && ((← get).column : Int) < indent) then return (text, broken)
    else plainParts inFlow indent fuel text after broken

/-- Reads a plain scalar inside a block of indentation `indent`, and tells whether it ends after a line break. -/
def plainScalar (inFlow : Bool) (indent : Int) : Scanning (List Char × Bool) := do
  plainParts inFlow (indent + 1) ((← rest).length + 1) [] [] false

end Conform.Yaml
