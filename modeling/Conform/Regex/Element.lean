import Conform.Regex.Source
import Conform.Text.Split

/-!
# Elements of patterns

Reading what patterns are made of: escapes, character classes, repeats, and the names, numbers and flags that the
opening of a group may hold.
-/

namespace Conform.Regex

/-! ### Escapes -/

/-- An octal digit. -/
def isOctal (c : Char) : Bool := '0' ≤ c && c ≤ '7'

/-- The number that octal digits name. -/
def octalOf (cs : List Char) : Nat := cs.foldl (fun n c => 8 * n + (c.toNat - 48)) 0

/-- The control that a one-letter escape stands for. -/
def controlEscape? : Char → Option Nat
  | 'a' => some 7
  | 'b' => some 8
  | 'f' => some 12
  | 'n' => some 10
  | 'r' => some 13
  | 't' => some 9
  | 'v' => some 11
  | '\\' => some 92
  | _ => none

/-- The class that a one-letter escape stands for. -/
def categoryEscape? : Char → Option ClassItem
  | 'd' => some (.category .digit true)
  | 'D' => some (.category .digit false)
  | 's' => some (.category .space true)
  | 'S' => some (.category .space false)
  | 'w' => some (.category .word true)
  | 'W' => some (.category .word false)
  | _ => none

/-- The number of an escape with exactly `n` hexadecimal digits after its letter. -/
def hexEscape (letter : Char) (n : Nat) : Reading Nat := do
  let digits ← takeWhile Text.isHex n
  let escape := '\\' :: letter :: digits
  if digits.length != n then complain (.incompleteEscape (String.ofList escape)) escape.length
  else
    let value := Text.hexOf digits
    if 0x10FFFF < value then complain (.badEscape (String.ofList escape)) escape.length
    else return value

/-- A character by name. -/
def namedEscape : Reading Nat := do
  if !(← accept '{') then complain .missingBrace 0
  else
    let name ← untilChar '}' "character name"
    match (← get).characters.number? name with
    | some value => return value
    | none => complain (.undefinedCharacter name) (name.length + 4)

/-- The number of a character that an escape stands for inside and outside of classes alike. -/
def charEscape? (c : Char) : Reading (Option Nat) := do
  match c with
  | 'x' => return some (← hexEscape c 2)
  | 'u' => return some (← hexEscape c 4)
  | 'U' => return some (← hexEscape c 8)
  | 'N' => return some (← namedEscape)
  | _ => return none

/-- The number of an escape that no rule explains: a sign stands for itself. -/
def signEscape (c : Char) : Reading Nat :=
  if c.isAlphanum then complain (.badEscape (String.ofList ['\\', c])) 2 else return c.toNat

/-- An escape within a class. -/
def classEscape (c : Char) : Reading ClassItem := do
  match controlEscape? c, categoryEscape? c with
  | some n, _ => return .one n
  | none, some item => return item
  | none, none =>
    match ← charEscape? c with
    | some n => return .one n
    | none =>
      if isOctal c then
        let digits := c :: (← takeWhile isOctal 2)
        let escape := '\\' :: digits
        if 0o377 < octalOf digits then complain (.octalRange (String.ofList escape)) escape.length
        else return .one (octalOf digits)
      else return .one (← signEscape c)

/-- The number of groups, counting the whole match. -/
def groupCount : Reading Nat := return (← get).groups.length + 1

/-- The group has been closed. -/
def isClosed (group : Nat) : Reading Bool := do
  match group with
  | 0 => return false
  | g + 1 => return ((← get).groups[g]?.join).isSome

/-- A pattern that looks behind must not refer to its own groups. -/
def checkLookbehind (group : Nat) : Reading Unit := do
  match (← get).lookbehind with
  | none => pure ()
  | some count =>
    if !(← isClosed group) then complain .openGroup 0
    else if count ≤ group then complain .lookbehindGroup 0

/-- A reference to a group by number, or three octal digits, of which the first has been read. -/
def numberEscape (flags : Flags) (c : Char) : Reading Pattern := do
  let second ← takeWhile Char.isDigit 1
  let third ←
    if isOctal c && !second.isEmpty && second.all isOctal then takeWhile isOctal 1 else pure []
  let digits := c :: second ++ third
  let escape := '\\' :: digits
  if !third.isEmpty then
    if 0o377 < octalOf digits then complain (.octalRange (String.ofList escape)) escape.length
    else return flags.one (octalOf digits)
  else
    let group := Text.asciiDecimalOf digits
    if group < (← groupCount) then
      if !(← isClosed group) then complain .openGroup escape.length
      else
        checkLookbehind group
        return .backref group flags.fold
    else complain (.badGroupReference group) (escape.length - 1)

/-- An escape outside of classes. -/
def escape (flags : Flags) (c : Char) : Reading Pattern := do
  match c with
  | 'A' => return .anchor .textStart
  | 'Z' => return .anchor .textEnd
  | 'b' => return .anchor (.boundary flags.ascii true)
  | 'B' => return .anchor (.boundary flags.ascii false)
  | _ =>
    match categoryEscape? c, controlEscape? c with
    | some item, _ => return flags.charClass false [item]
    | none, some n => return flags.one n
    | none, none =>
      match ← charEscape? c with
      | some n => return flags.one n
      | none =>
        if c == '0' then
          return flags.one (octalOf (c :: (← takeWhile isOctal 2)))
        else if c.isDigit then numberEscape flags c
        else return flags.one (← signEscape c)

/-! ### Classes -/

/-- One end of a range: a character or an escape. -/
def classEnd : Token → Reading ClassItem
  | .plain c => return .one c.toNat
  | .escaped c => classEscape c
  | .dangling => complain .danglingBackslash 0

/-- The items of a class up to its closing bracket, of which `start` is the place of the opening one. -/
def classItems (start : Nat) : Nat → List ClassItem → Reading (List ClassItem)
  | 0, _ => complain .unterminatedSet 0
  | fuel + 1, done => do
    let unterminated : Reading (List ClassItem) := do
      complain .unterminatedSet ((← get).position - start)
    match ← take with
    | none => unterminated
    | some t =>
      if t == .plain ']' && !done.isEmpty then return done.reverse
      else
        let first ← classEnd t
        if ← accept '-' then
          match ← take with
          | none => unterminated
          | some u =>
            if u == .plain ']' then return (.one 45 :: first :: done).reverse
            else
              let last ← classEnd u
              let bad : Reading (List ClassItem) :=
                complain (.badRange (String.ofList t.text) (String.ofList u.text))
                  (t.text.length + 1 + u.text.length)
              match first, last with
              | .one m, .one n => if n < m then bad else classItems start fuel (.range m n :: done)
              | _, _ => bad
        else classItems start fuel (first :: done)

/-! ### Groups and repeats -/

/-- A part of a sequence, as far as a repeat after it needs to know. -/
inductive PieceKind where
  | anchor
  | loop
  | other
  deriving DecidableEq

/-- A part of a sequence. -/
structure Piece where
  pattern : Pattern
  kind : PieceKind := .other

/-- The pattern of a sequence of parts. -/
def sequenceOf (pieces : List Piece) : Pattern :=
  match pieces.map (·.pattern) with
  | [] => .empty
  | p :: ps => ps.foldl .cat p

/-- Numbers of rounds from here on are too large. -/
def maxRounds : Nat := 4294967295

/-- The number of rounds that digits name. -/
def roundsOf (digits : List Char) : Reading Nat := do
  if Text.digitLimit < digits.length then throw (.tooLong digits.length)
  else if maxRounds ≤ Text.asciiDecimalOf digits then throw .tooManyRounds
  else return Text.asciiDecimalOf digits

/-- The bounds of a repeat in braces, after the opening one; without them the brace stands for itself. -/
def braces (start : Nat) : Reading (Option (Nat × Option Nat)) := do
  let before ← get
  if before.rest.head? == some (.plain '}') then return none
  else
    let low ← takeWhile Char.isDigit before.rest.length
    let high ← if ← accept ',' then takeWhile Char.isDigit before.rest.length else pure low
    if !(← accept '}') then
      set before
      return none
    else
      let min ← roundsOf low
      let max ← roundsOf high
      if high.isEmpty then return some (min, none)
      else if max < min then complain .repeatOrder ((← get).position - start)
      else return some (min, some max)

/-- The sequence with its last part repeated; `done` has it first.  The sign of the repeat has `size` characters
before the place `start`. -/
def repeatLast (start : Nat) (min : Nat) (max : Option Nat) (done : List Piece) : Reading (List Piece) := do
  let back := (← get).position - start + 1
  match done with
  | [] => complain .nothingToRepeat back
  | piece :: before =>
    match piece.kind with
    | .anchor => complain .nothingToRepeat back
    | .loop => complain .multipleRepeat back
    | .other =>
      let greed ← if ← accept '?' then pure Greed.lazy
        else if ← accept '+' then pure Greed.possessive
        else pure Greed.greedy
      return ⟨.loop min max greed piece.pattern, .loop⟩ :: before

/-- A name that groups can have. -/
def isIdentifier (name : String) : Bool :=
  match name.toList with
  | [] => false
  | c :: rest => (Text.isWord c && !Text.isDigitSign c) && rest.all Text.isWord

/-- A group's name must be an identifier. -/
def checkName (name : String) : Reading Unit := do
  if !isIdentifier name then complain (.badGroupName name) (name.length + 1)

/-- Start a group. -/
def openGroup (name : Option String) : Reading Nat := do
  let s ← get
  let group := s.groups.length + 1
  match name with
  | none =>
    set { s with groups := s.groups ++ [none] }
    return group
  | some name =>
    match s.names.lookup name with
    | some earlier => complain (.redefinedGroup name group earlier) (name.length + 1)
    | none =>
      set { s with groups := s.groups ++ [none], names := (name, group) :: s.names }
      return group

/-- The width of a group that has been read. -/
def State.widthOf (s : State) (group : Nat) : Width := (s.groups[group - 1]?.join).getD ⟨0, 0⟩

/-- End a group. -/
def closeGroup (group : Nat) (body : Pattern) : Reading Unit :=
  modify fun s => { s with groups := s.groups.set (group - 1) (some (body.width s.widthOf)) }

/-- The group that a condition names: a known name, or a number. -/
def conditionGroup (name : String) : Reading Nat := do
  if isIdentifier name then
    match (← get).names.lookup name with
    | some group => return group
    | none => complain (.unknownGroupName name) (name.length + 1)
  else
    let cs := Text.trim name.toList
    let signed := cs.head? == some '+' || cs.head? == some '-'
    let parts := Text.fields '_' (if signed then cs.drop 1 else cs)
    let digits := parts.flatten
    let group := Text.decimalOf digits
    if parts.any List.isEmpty || !digits.all Text.isDecimal || Text.digitLimit < digits.length ||
        (cs.head? == some '-' && group != 0) then
      complain (.badGroupName name) (name.length + 1)
    else if group == 0 then complain .badGroupNumber (name.length + 1)
    else if 1073741823 ≤ group then complain (.badGroupReference group) (name.length + 1)
    else
      modify fun s =>
        if (s.conditions.lookup group).isSome then s
        else { s with conditions := s.conditions ++ [(group, s.position - name.length - 1)] }
      return group

/-! ### Inline flags -/

/-- A character that is no flag; letters are called unknown flags. -/
def notFlag {α : Type} (t : Token) (other : Reason) : Reading α :=
  match t with
  | .plain c => complain (if c.isAlpha || (Text.isWord c && !Text.isDigitSign c && c != '_') then .unknownFlag
      else other) 1
  | t => complain other t.text.length

/-- The flags that a group turns on, from one of them on, and the character after them. -/
def flagsOn : Nat → Flags → Char → Reading (Flags × Char)
  | 0, _, _ => complain .flagEnd 0
  | fuel + 1, on, c => do
    match Flags.ofLetter? c with
    | none => complain .flagEnd 1
    | some flag =>
      if c == 'L' then complain .localeFlag 0
      else
        let on := on.union flag
        if on.ascii && on.unicode then complain .clashingFlags 0
        else
          match ← take with
          | none => complain .flagEnd 0
          | some (.plain d) =>
            if d == ')' || d == '-' || d == ':' then return (on, d)
            else if (Flags.ofLetter? d).isSome then flagsOn fuel on d
            else notFlag (.plain d) .flagEnd
          | some t => notFlag t .flagEnd

/-- The flags that a group turns off, up to the colon. -/
def flagsOff : Nat → Flags → Reason → Reading Flags
  | 0, _, missing => complain missing 0
  | fuel + 1, off, missing => do
    match ← take with
    | none => complain missing 0
    | some (.plain c) =>
      if c == ':' && missing == .flagColon then return off
      else
        match Flags.ofLetter? c with
        | none => notFlag (.plain c) missing
        | some flag =>
          if flag.hasType || c == 'L' then complain .typeFlagOff 0
          else flagsOff fuel (off.union flag) .flagColon
    | some t => notFlag t missing

/-- The flags of a group, from the character `c` on: those of the whole pattern (`none`), or those that the group
turns on and off. -/
def inlineFlags (c : Char) : Reading (Option (Flags × Flags)) := do
  let fuel := (← get).rest.length + 2
  let (on, stop) ← if c == '-' then pure ({}, c) else flagsOn fuel {} c
  if stop == ')' then
    modify fun s => { s with flags := s.flags.union on }
    return none
  else if on.template then complain .globalFlagOn 1
  else
    let off ← if stop == '-' then flagsOff fuel {} .missingFlag else pure {}
    if off.template then complain .globalFlagOff 1
    else if on.inter off != {} then complain .flagOnAndOff 1
    else return some (on, off)

end Conform.Regex
