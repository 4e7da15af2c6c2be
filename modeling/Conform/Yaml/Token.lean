import Conform.Text.Utf8
import Conform.Yaml.Scalar

/-!
# Tokens

The tokens of a YAML text.  Indentation shows in tokens of its own: `blockSequence` and `blockMapping` open a
block, `blockEnd` closes it.  A key of one line is known as a key only when its colon turns up; `Lexer.keys` holds
the places that may turn out to be keys, one for each level of nested flow collections.
-/

namespace Conform.Yaml

/-- The name of a tag as written: a handle, unless the tag is given in full, and the rest. -/
structure TagName where
  handle : Option String
  suffix : String
  deriving DecidableEq, Repr

/-- A token. -/
inductive Token where
  | versionDirective (major : Nat)
  | tagDirective (handle start : String)
  | otherDirective
  | documentStart
  | documentEnd
  | blockSequence
  | blockMapping
  | blockEnd
  | flowSequence
  | flowMapping
  | flowSequenceEnd
  | flowMappingEnd
  | entry
  | flowEntry
  | key
  | value
  | alias (name : String)
  | anchor (name : String)
  | tag (name : TagName)
  | scalar (plain : Bool) (text : String)
  deriving DecidableEq, Repr

/-! ### Names -/

/-- A character of a name. -/
def isNameChar (c : Char) : Bool := c.isAlphanum || c == '-' || c == '_'

/-- A character of the tail of a tag. -/
def isTagChar (c : Char) : Bool := c.isAlphanum || "-;/?:@&=+$,_.!~*'()[]%".toList.contains c

open Scanning

/-- Reads the bytes of a row of percent escapes. -/
def tagEscapes : Nat → List UInt8 → Scanning (List UInt8)
  | 0, bytes => return bytes
  | fuel + 1, bytes => do
    if (← peek) == some '%' then
      pass 1
      let n ← hexNumber 2 .tag
      tagEscapes fuel (bytes ++ [n.toUInt8])
    else return bytes

/-- Reads the tail of a tag; `text` is what has been read. -/
def tagTail : Nat → List Char → Scanning (List Char)
  | 0, text => return text
  | fuel + 1, text => do
    match ← peek with
    | some '%' => do
      let bytes ← tagEscapes ((← rest).length) []
      match Text.Utf8.decode bytes with
      | .ok cs => tagTail fuel (text ++ cs)
      | .error _ => throw .tag
    | some c =>
      if isTagChar c then
        pass 1
        tagTail fuel (text ++ [c])
      else return text
    | none => return text

/-- Reads the tail of a tag, which has at least one character. -/
def tagSuffix : Scanning String := do
  let text ← tagTail ((← rest).length + 1) []
  if text.isEmpty then throw .tag
  return String.ofList text

/-- Reads the handle of a tag: one exclamation mark, or a name between two. -/
def tagHandle : Scanning String := do
  if (← peek) != some '!' then throw .tag
  pass 1
  let name ← takeWhile isNameChar
  match ← peek with
  | some '!' =>
    pass 1
    return String.ofList ('!' :: name ++ ['!'])
  | next =>
    if name.isEmpty && next == some ' ' then return "!"
    else throw .tag

/-- Reads a tag. -/
def tagName : Scanning TagName := do
  let cs := (← rest).drop 1
  let name ←
    if cs.head? == some '<' then do
      pass 2
      let suffix ← tagSuffix
      if (← peek) != some '>' then throw .tag
      pass 1
      pure ⟨none, suffix⟩
    else if endsWord cs then do
      pass 1
      pure ⟨none, "!"⟩
    else if (cs.takeWhile fun c => !(c == ' ' || isBreak c)).contains '!' then do
      let handle ← tagHandle
      pure ⟨some handle, ← tagSuffix⟩
    else do
      pass 1
      pure ⟨some "!", ← tagSuffix⟩
  require endsAtSpace .tag
  return name

/-- A text can go on here after the name of an anchor. -/
def endsAnchor : List Char → Bool
  | [] => true
  | c :: _ => isGap c || isBreak c || "?:,]\x7d%@`".toList.contains c

/-- Reads the name of an anchor or alias after its mark. -/
def anchorName : Scanning String := do
  pass 1
  let name ← takeWhile isNameChar
  if name.isEmpty then throw .anchorName
  require endsAnchor .anchorName
  return String.ofList name

/-! ### Directives -/

/-- Reads a number of a version. -/
def versionNumber : Scanning Nat := do
  let digits ← takeWhile Char.isDigit
  if digits.isEmpty then throw .directive
  return Text.asciiDecimalOf digits

/-- Reads a directive from its mark on. -/
def directive : Scanning Token := do
  pass 1
  let name ← takeWhile isNameChar
  if name.isEmpty then throw .directive
  require endsAtSpace .directive
  let token ←
    if name == "YAML".toList then do
      spaces
      let major ← versionNumber
      if (← peek) != some '.' then throw .directive
      pass 1
      let _ ← versionNumber
      require endsAtSpace .directive
      pure (.versionDirective major)
    else if name == "TAG".toList then do
      spaces
      let handle ← tagHandle
      if (← peek) != some ' ' then throw .directive
      spaces
      let start ← tagSuffix
      require endsAtSpace .directive
      pure (.tagDirective handle start)
    else do
      restOfLine
      pure .otherDirective
  ignoredLine .directive
  return token

/-! ### The lexer -/

/-- A place that is a key if a colon follows in its line. -/
structure PossibleKey where
  /-- The number of tokens before it. -/
  token : Nat
  /-- The block cannot go on here unless it is a key. -/
  required : Bool
  index : Nat
  line : Nat
  column : Nat

/-- The state between two tokens. -/
structure Lexer where
  cursor : Cursor
  /-- The tokens so far, last first, and their number. -/
  tokens : List Token := []
  count : Nat := 0
  /-- The column of the innermost block, and of those around it. -/
  indent : Int := -1
  outer : List Int := []
  /-- The number of open flow collections. -/
  flow : Nat := 0
  keyAllowed : Bool := true
  /-- The possible key at each level of flow collections. -/
  keys : List (Nat × PossibleKey) := []

/-- Reading tokens. -/
abbrev Lexing := StateT Lexer (Except Fault)

namespace Lexing

/-- Reads on within a token. -/
def scan {α : Type} (x : Scanning α) : Lexing α := do
  let s ← get
  match x.run s.cursor with
  | .error fault => throw fault
  | .ok (a, cursor) =>
    set { s with cursor }
    return a

/-- Adds a token. -/
def push (t : Token) : Lexing Unit := modify fun s => { s with tokens := t :: s.tokens, count := s.count + 1 }

/-- Adds a token after the first `place` tokens. -/
def insertAt (place : Nat) (t : Token) : Lexing Unit := modify fun s =>
  let later := s.count - place
  { s with tokens := s.tokens.take later ++ t :: s.tokens.drop later, count := s.count + 1 }

/-- Some flow collection is open. -/
def inFlow : Lexing Bool := return (← get).flow != 0

/-- Says whether a key may start at once. -/
def allowKey (allowed : Bool) : Lexing Unit := modify fun s => { s with keyAllowed := allowed }

/-- Drops the possible keys that the text has passed: a key lies in one line and is not long. -/
def dropStaleKeys : Lexing Unit := do
  let s ← get
  let stale := fun (k : PossibleKey) => k.line != s.cursor.line || 1024 < s.cursor.index - k.index
  if s.keys.any fun k => stale k.2 && k.2.required then throw .missingColon
  set { s with keys := s.keys.filter fun k => !stale k.2 }

/-- Drops the possible key at this level. -/
def dropKey : Lexing Unit := do
  let s ← get
  if s.keys.any fun k => k.1 == s.flow && k.2.required then throw .missingColon
  set { s with keys := s.keys.filter (·.1 != s.flow) }

/-- Notes that a key may start here. -/
def noteKey : Lexing Unit := do
  let s ← get
  if s.keyAllowed then
    dropKey
    let key : PossibleKey :=
      ⟨s.count, s.flow == 0 && s.indent == s.cursor.column, s.cursor.index, s.cursor.line, s.cursor.column⟩
    modify fun s => { s with keys := (s.flow, key) :: s.keys }

/-- Closes the blocks that are indented beyond a column; `blocks` bounds their number. -/
def closeBlocks (column : Int) : Nat → Lexing Unit
  | 0 => return
  | blocks + 1 => do
    let s ← get
    if column < s.indent then
      set { s with indent := s.outer.headD (-1), outer := s.outer.drop 1 }
      push .blockEnd
      closeBlocks column blocks

/-- Closes the blocks that are indented beyond a column, outside flow collections. -/
def unwind (column : Int) : Lexing Unit := do
  let s ← get
  if s.flow == 0 then closeBlocks column (s.outer.length + 1)

/-- Opens a block at a column, unless the innermost one is indented as far. -/
def openBlock (column : Int) : Lexing Bool := do
  let s ← get
  if s.indent < column then
    set { s with indent := column, outer := s.indent :: s.outer }
    return true
  else return false

/-- The column of the place. -/
def column : Lexing Nat := return (← get).cursor.column

/-- Passes over spaces, comments and line breaks.  Outside flow collections a key may start on a new line.  Every
round but the last passes a line break. -/
def toNextToken : Nat → Lexing Unit
  | 0 => return
  | fuel + 1 => do
    let broken ← scan (do
      spaces
      comment
      lineBreak)
    if broken.isEmpty then return
    if !(← inFlow) then allowKey true
    toNextToken fuel

/-! ### Tokens -/

/-- Reads a token that stands between documents. -/
def betweenDocuments (x : Scanning Token) : Lexing Unit := do
  unwind (-1)
  dropKey
  allowKey false
  push (← scan x)

/-- Reads the opening of a flow collection. -/
def openFlow (t : Token) : Lexing Unit := do
  noteKey
  modify fun s => { s with flow := s.flow + 1 }
  allowKey true
  scan (pass 1)
  push t

/-- Reads the end of a flow collection. -/
def closeFlow (t : Token) : Lexing Unit := do
  dropKey
  modify fun s => { s with flow := s.flow - 1 }
  allowKey false
  scan (pass 1)
  push t

/-- Reads the comma of a flow collection. -/
def flowComma : Lexing Unit := do
  allowKey true
  dropKey
  scan (pass 1)
  push .flowEntry

/-- Opens a block here for a mark that starts one, which must be allowed here. -/
def blockFor (t : Token) (fault : Fault) : Lexing Unit := do
  if !(← inFlow) then
    if !(← get).keyAllowed then throw fault
    if ← openBlock (← column) then push t

/-- Reads the dash of a sequence entry. -/
def sequenceEntry : Lexing Unit := do
  blockFor .blockSequence .misplacedEntry
  allowKey true
  dropKey
  scan (pass 1)
  push .entry

/-- Reads the question mark of a key. -/
def explicitKey : Lexing Unit := do
  blockFor .blockMapping .misplacedKey
  allowKey (!(← inFlow))
  dropKey
  scan (pass 1)
  push .key

/-- Reads the colon before a value.  If a key may have started in the line, it has. -/
def mappingValue : Lexing Unit := do
  let s ← get
  match s.keys.lookup s.flow with
  | some key =>
    set { s with keys := s.keys.filter (·.1 != s.flow) }
    insertAt key.token .key
    if s.flow == 0 then
      if ← openBlock key.column then insertAt key.token .blockMapping
    allowKey false
  | none =>
    blockFor .blockMapping .misplacedValue
    allowKey (s.flow == 0)
    dropKey
  scan (pass 1)
  push .value

/-- Reads a token that may be a key or start one. -/
def nodePart (x : Scanning Token) : Lexing Unit := do
  noteKey
  allowKey false
  push (← scan x)

/-- Reads a block scalar. -/
def block (folded : Bool) : Lexing Unit := do
  allowKey true
  dropKey
  let text ← scan (blockScalar folded (← get).indent)
  push (.scalar false (String.ofList text))

/-- Reads a plain scalar; a key may follow it on a new line. -/
def plain : Lexing Unit := do
  noteKey
  let s ← get
  let (text, broken) ← scan (plainScalar (s.flow != 0) s.indent)
  allowKey broken
  push (.scalar true (String.ofList text))

/-- Characters that start no plain scalar. -/
def isIndicator (c : Char) : Bool := "-?:,[]\x7b\x7d#&*!|>'\"%@`".toList.contains c

/-- A plain scalar can start with `c` before `after`. -/
def startsPlain (inFlow : Bool) (c : Char) (after : List Char) : Bool :=
  !(isGap c || isBreak c || isIndicator c) ||
    (!endsWord after && (c == '-' || (!inFlow && (c == '?' || c == ':'))))

/-- Reads the token that starts with `c`. -/
def tokenAt (c : Char) (after : List Char) : Lexing Unit := do
  let s ← get
  let inFlow := s.flow != 0
  let atStart := s.cursor.column == 0
  if c == '%' && atStart then betweenDocuments directive
  else if atStart && atMark '-' (c :: after) then betweenDocuments (do pass 3; return .documentStart)
  else if atStart && atMark '.' (c :: after) then betweenDocuments (do pass 3; return .documentEnd)
  else if c == '[' then openFlow .flowSequence
  else if c == '{' then openFlow .flowMapping
  else if c == ']' then closeFlow .flowSequenceEnd
  else if c == '}' then closeFlow .flowMappingEnd
  else if c == ',' then flowComma
  else if c == '-' && endsWord after then sequenceEntry
  else if c == '?' && (inFlow || endsWord after) then explicitKey
  else if c == ':' && (inFlow || endsWord after) then mappingValue
  else if c == '*' then nodePart (return .alias (← anchorName))
  else if c == '&' then nodePart (return .anchor (← anchorName))
  else if c == '!' then nodePart (return .tag (← tagName))
  else if c == '|' && !inFlow then block false
  else if c == '>' && !inFlow then block true
  else if c == '\x27' || c == '"' then nodePart (return .scalar false (String.ofList (← quotedScalar c)))
  else if startsPlain inFlow c after then plain
  else throw .stray

/-- Reads the tokens that are left.  Every round but the last passes a character. -/
def tokensLeft : Nat → Lexing Unit
  | 0 => return
  | fuel + 1 => do
    toNextToken (fuel + 1)
    dropStaleKeys
    unwind (← column)
    match (← get).cursor.rest with
    | [] =>
      unwind (-1)
      dropKey
    | c :: after =>
      tokenAt c after
      tokensLeft fuel

end Lexing

/-- A character that may stand in a YAML text. -/
def isPrintable (c : Char) : Bool :=
  let n := c.toNat
  n == 9 || n == 10 || n == 13 || (0x20 ≤ n && n ≤ 0x7E) || n == 0x85 || (0xA0 ≤ n && n ≤ 0xFFFD) || 0x10000 ≤ n

/-- The tokens of a text, which may open with a byte order mark. -/
def Token.ofText (text : List Char) : Except Fault (List Token) := do
  if !text.all isPrintable then throw .special
  let start : Cursor := { rest := text }
  let start := if text.head? == some '\uFEFF' then start.next else start
  let (_, s) ← (Lexing.tokensLeft (text.length + 1)).run { cursor := start }
  return s.tokens.reverse

end Conform.Yaml
