import Conform.Regex.Element

/-!
# Reading patterns

`Pattern.read` turns the text of a regular expression into its tree: alternatives of sequences, in groups of
several kinds.  What only the whole pattern shows is checked at the end (`Pattern.check`).
-/

namespace Conform.Regex

/-- What the opening of a group announces. -/
inductive Opening where
  /-- Nothing: a comment, or flags of the whole pattern. -/
  | nothing
  /-- A finished piece. -/
  | piece (p : Pattern)
  | capture (name : Option String)
  | plain (on off : Flags)
  | atomic
  | ahead (positive : Bool)
  | behind (positive : Bool)
  | condition (group : Nat)

/-- Pass the text of a comment. -/
def comment (start : Nat) : Nat → Reading Unit
  | 0 => pure ()
  | fuel + 1 => do
    match ← peek with
    | none => complain .unterminatedComment ((← get).position - start)
    | some t =>
      pass
      if t != .plain ')' then comment start fuel

/-- A group by name, or a reference to one. -/
def namedOpening (flags : Flags) : Reading Opening := do
  if ← accept '<' then
    let name ← untilChar '>' "group name"
    checkName name
    return .capture (some name)
  else if ← accept '=' then
    let name ← untilChar ')' "group name"
    checkName name
    match (← get).names.lookup name with
    | none => complain (.unknownGroupName name) (name.length + 1)
    | some group =>
      if !(← isClosed group) then complain .openGroup (name.length + 1)
      else
        checkLookbehind group
        return .piece (.backref group flags.fold)
  else
    match ← take with
    | none => complain .unexpectedEnd 0
    | some t => complain (.unknownExtension ("P" ++ String.ofList t.text)) (t.text.length + 2)

/-- The opening of a group after its parenthesis at `start`; `first` says that nothing stands before it. -/
def opening (flags : Flags) (start : Nat) (first : Bool) : Reading Opening := do
  if !(← accept '?') then return .capture none
  else
    match ← take with
    | none => complain .unexpectedEnd 0
    | some (.plain c) =>
      match c with
      | 'P' => namedOpening flags
      | ':' => return .plain {} {}
      | '#' =>
        comment start ((← get).rest.length + 1)
        return .nothing
      | '=' => return .ahead true
      | '!' => return .ahead false
      | '<' =>
        match ← take with
        | none => complain .unexpectedEnd 0
        | some (.plain '=') => return .behind true
        | some (.plain '!') => return .behind false
        | some t => complain (.unknownExtension ("<" ++ String.ofList t.text)) (t.text.length + 2)
      | '(' =>
        let group ← conditionGroup (← untilChar ')' "group name")
        checkLookbehind group
        return .condition group
      | '>' => return .atomic
      | c =>
        if (Flags.ofLetter? c).isSome || c == '-' then
          match ← inlineFlags c with
          | some (on, off) => return .plain on off
          | none =>
            if !first then complain .lateFlags ((← get).position - start)
            else return .nothing
        else complain (.unknownExtension (String.ofList [c])) 2
    | some t => complain (.unknownExtension (String.ofList t.text)) (t.text.length + 1)

/-- Pass the closing parenthesis of a group that opens at `start`. -/
def close (start : Nat) : Reading Unit := do
  if !(← accept ')') then complain .unterminatedGroup ((← get).position - start)

/-- The white space that verbose patterns pass over. -/
def isVerboseSpace (c : Char) : Bool := c == ' ' || (9 ≤ c.toNat && c.toNat ≤ 13)

/-- Pass the rest of a line. -/
def passLine : Nat → Reading Unit
  | 0 => pure ()
  | fuel + 1 => do
    match ← take with
    | none => pure ()
    | some t => if t != .plain '\n' then passLine fuel

mutual

/-- Alternatives up to the end of their group.  Outside of all groups (`outer`) the flags are those of the whole
pattern, which the first alternative may set. -/
def alternatives (flags : Flags) (outer first : Bool) : Nat → Reading Pattern
  | 0 => complain .unexpectedEnd 0
  | fuel + 1 => do
    let p ← sequence flags outer first fuel []
    if ← accept '|' then
      let now := (← get).flags
      return .alt p (← alternatives (if outer then now else flags) outer false fuel)
    else return p

/-- The parts of a sequence up to its end, where `done` holds those before, last first. -/
def sequence (flags : Flags) (outer first : Bool) : Nat → List Piece → Reading Pattern
  | 0, _ => complain .unexpectedEnd 0
  | fuel + 1, done => do
    let more (pattern : Pattern) (kind : PieceKind) : Reading Pattern :=
      sequence flags outer first fuel (⟨pattern, kind⟩ :: done)
    match ← peek with
    | none => return sequenceOf done.reverse
    | some .dangling => complain .danglingBackslash 0
    | some (.escaped c) =>
      pass
      let p ← escape flags c
      more p (match p with | .anchor _ => .anchor | _ => .other)
    | some (.plain c) =>
      if c == '|' || c == ')' then return sequenceOf done.reverse
      else
        pass
        let here := (← get).position
        if flags.verbose && isVerboseSpace c then sequence flags outer first fuel done
        else if flags.verbose && c == '#' then
          passLine ((← get).rest.length + 1)
          sequence flags outer first fuel done
        else
          match c with
          | '.' => more (.any flags.dotAll) .other
          | '^' => more (.anchor (if flags.multiline then .lineStart else .textStart)) .anchor
          | '$' => more (.anchor (if flags.multiline then .lineEnd else .lastLineEnd)) .anchor
          | '[' =>
            let negated ← accept '^'
            let items ← classItems (here - 1) ((← get).rest.length + 1) []
            more (flags.charClass negated items) .other
          | '?' => sequence flags outer first fuel (← repeatLast here 0 (some 1) done)
          | '*' => sequence flags outer first fuel (← repeatLast here 0 none done)
          | '+' => sequence flags outer first fuel (← repeatLast here 1 none done)
          | '{' =>
            match ← braces here with
            | none => more (flags.one c.toNat) .other
            | some (min, max) => sequence flags outer first fuel (← repeatLast here min max done)
          | '(' =>
            let start := here - 1
            match ← opening flags start (first && done.isEmpty) with
            | .nothing =>
              let now := (← get).flags
              sequence (if outer then now else flags) outer first fuel done
            | .piece p => more p .other
            | .capture name =>
              let group ← openGroup name
              let body ← alternatives flags false false fuel
              close start
              closeGroup group body
              more (.capture group body) .other
            | .plain on off =>
              let body ← alternatives (flags.enter on off) false false fuel
              close start
              more body .other
            | .atomic =>
              let body ← alternatives flags false false fuel
              close start
              more (.atomic body) .other
            | .ahead positive =>
              let body ← alternatives flags false false fuel
              close start
              more (.ahead positive body) .other
            | .behind positive =>
              let outerCount := (← get).lookbehind
              let count ← groupCount
              modify fun s => { s with lookbehind := some (outerCount.getD count) }
              let body ← alternatives flags false false fuel
              modify fun s => { s with lookbehind := outerCount }
              close start
              more (.behind positive (body.width (← get).widthOf) body) .other
            | .condition group =>
              let captured ← sequence flags false false fuel []
              let otherwise ←
                if ← accept '|' then
                  let p ← sequence flags false false fuel []
                  if (← peek) == some (.plain '|') then complain .manyBranches 0
                  else pure p
                else pure .empty
              close start
              more (.ifGroup group captured otherwise) .other
          | c => more (flags.one c.toNat) .other

end

/-- The fault that shows only in the whole pattern: one that looks back over no fixed distance, or a repeat in a
template. -/
def Pattern.check (template : Bool) : Pattern → Option Reason
  | .cat a b | .alt a b | .ifGroup _ a b => (a.check template).or (b.check template)
  | .loop _ _ greed body => if template then some (.templateRepeat greed) else body.check template
  | .capture _ body | .ahead _ body | .atomic body => body.check template
  | .behind _ width body =>
    if 4294967295 < width.low then some .farLookbehind
    else if width.low != width.high then some .variableLookbehind
    else body.check template
  | .empty | .charClass _ | .any _ | .anchor _ | .backref _ _ => none

/-- The pattern of a whole text. -/
def whole (fuel : Nat) : Reading Pattern := do
  let p ← alternatives {} true true fuel
  let s ← get
  if s.flags.ascii && s.flags.unicode then throw .clashingModes
  else if s.rest.head?.isSome then complain .unbalanced 0
  else
    match s.conditions.find? fun c => s.groups.length < c.1 with
    | some (group, position) => throw (.fault (.badGroupReference group) (some position))
    | none =>
      match p.check s.flags.template with
      | some reason => throw (.fault reason none)
      | none => return p

/-- The pattern that a text denotes. -/
def Pattern.read (characters : CharacterNames) (text : String) : Except ReadError Pattern :=
  let ts := tokens text.toList
  if ts.head? == some .dangling then .error (.fault .danglingBackslash (some 0))
  else (whole (4 * ts.length + 8)).run' ⟨ts, 0, [], [], none, [], {}, characters⟩

end Conform.Regex

namespace Conform

/-- A regular expression with its text. -/
structure Regex where
  text : String
  pattern : Regex.Pattern
  deriving DecidableEq, Repr

namespace Regex

/-- The regular expression that a text denotes. -/
def ofText (characters : CharacterNames) (text : String) : Except ReadError Regex :=
  (Pattern.read characters text).map (⟨text, ·⟩)

end Regex

end Conform
