import Conform.Regex.Fault

/-!
# The source of a pattern

The text of a pattern as the reader sees it: characters, some with a backslash before them (`Token`), the settings
that flags make (`Flags`), and the steps that take tokens or fail at a place (`Reading`).  The names by which a pattern
may call characters are a parameter (`CharacterNames`).
-/

namespace Conform

/-- The names of characters: the number of the character that a name stands for. -/
structure CharacterNames where
  number? : String → Option Nat

namespace CharacterNames

instance : Repr CharacterNames := ⟨fun _ _ => "names of characters"⟩

/-- No names. -/
def empty : CharacterNames := ⟨fun _ => none⟩

end CharacterNames

end Conform

namespace Conform.Regex

/-! ### Tokens -/

/-- A character of a pattern, or a character with a backslash before it. -/
inductive Token where
  | plain (c : Char)
  | escaped (c : Char)
  /-- A backslash at the end. -/
  | dangling
  deriving DecidableEq, Repr

/-- The text of a token. -/
def Token.text : Token → List Char
  | .plain c => [c]
  | .escaped c => ['\\', c]
  | .dangling => ['\\']

/-- The tokens of a pattern. -/
def tokens : List Char → List Token
  | '\\' :: c :: rest => .escaped c :: tokens rest
  | ['\\'] => [.dangling]
  | c :: rest => .plain c :: tokens rest
  | [] => []

/-! ### Flags -/

/-- The settings that flags make. -/
structure Flags where
  ignoreCase : Bool := false
  multiline : Bool := false
  dotAll : Bool := false
  verbose : Bool := false
  ascii : Bool := false
  unicode : Bool := false
  template : Bool := false
  deriving DecidableEq, Repr, Inhabited

namespace Flags

/-- The flag that a letter sets; `L` sets one that patterns do not allow. -/
def ofLetter? : Char → Option Flags
  | 'i' => some { ignoreCase := true }
  | 'm' => some { multiline := true }
  | 's' => some { dotAll := true }
  | 'x' => some { verbose := true }
  | 'a' => some { ascii := true }
  | 'u' => some { unicode := true }
  | 't' => some { template := true }
  | 'L' => some {}
  | _ => none

/-- Flags of either set. -/
def union (f g : Flags) : Flags where
  ignoreCase := f.ignoreCase || g.ignoreCase
  multiline := f.multiline || g.multiline
  dotAll := f.dotAll || g.dotAll
  verbose := f.verbose || g.verbose
  ascii := f.ascii || g.ascii
  unicode := f.unicode || g.unicode
  template := f.template || g.template

/-- Flags of the first set that are not in the second. -/
def without (f g : Flags) : Flags where
  ignoreCase := f.ignoreCase && !g.ignoreCase
  multiline := f.multiline && !g.multiline
  dotAll := f.dotAll && !g.dotAll
  verbose := f.verbose && !g.verbose
  ascii := f.ascii && !g.ascii
  unicode := f.unicode && !g.unicode
  template := f.template && !g.template

/-- Flags of both sets. -/
def inter (f g : Flags) : Flags := f.without (f.without g)

/-- The set has a flag for the extent of the character classes. -/
def hasType (f : Flags) : Bool := f.ascii || f.unicode

/-- The flags in a group that turns some on and some off. -/
def enter (f on off : Flags) : Flags :=
  let f := if on.hasType then { f with ascii := false, unicode := false } else f
  (f.union on).without off

/-- How letter case counts. -/
def fold (f : Flags) : Fold :=
  if !f.ignoreCase then .exact else if f.ascii then .ascii else .full

/-- A character class under the flags. -/
def charClass (f : Flags) (negated : Bool) (items : List ClassItem) : Pattern :=
  .charClass ⟨negated, items, f.fold, f.ascii⟩

/-- A single character under the flags. -/
def one (f : Flags) (n : Nat) : Pattern := f.charClass false [.one n]

end Flags

/-! ### The reader's state -/

/-- What has been read and what is left. -/
structure State where
  rest : List Token
  /-- The number of characters before the rest. -/
  position : Nat
  /-- The widths of the groups in order, while a group is open without one. -/
  groups : List (Option Width) := []
  names : List (String × Nat) := []
  /-- Within a pattern that looks behind, the number of groups before it, counting the whole match. -/
  lookbehind : Option Nat := none
  /-- Groups that conditions refer to, with the places where they first do. -/
  conditions : List (Nat × Nat) := []
  flags : Flags := {}
  /-- What characters are called. -/
  characters : CharacterNames := .empty

/-- A step of the reader. -/
abbrev Reading := StateT State (Except ReadError)

/-- Fail `back` characters before the current place. -/
def complain {α : Type} (reason : Reason) (back : Nat) : Reading α := do
  throw (.fault reason (some ((← get).position - back)))

/-- The next token. -/
def peek : Reading (Option Token) := return (← get).rest.head?

/-- Pass the next token; what comes to stand first must not be a lone backslash. -/
def pass : Reading Unit := do
  let s ← get
  match s.rest with
  | [] => pure ()
  | t :: rest =>
    let s := { s with rest, position := s.position + t.text.length }
    set s
    if rest.head? == some .dangling then throw (.fault .danglingBackslash (some s.position))

/-- Take the next token. -/
def take : Reading (Option Token) := do
  let t ← peek
  pass
  return t

/-- Take the next token if it is the given character. -/
def accept (c : Char) : Reading Bool := do
  if (← peek) == some (.plain c) then
    pass
    return true
  else return false

/-- Take plain characters of a kind, at most `n`. -/
def takeWhile (test : Char → Bool) : Nat → Reading (List Char)
  | 0 => pure []
  | n + 1 => do
    match ← peek with
    | some (.plain c) =>
      if test c then
        pass
        return c :: (← takeWhile test n)
      else return []
    | _ => return []

/-- The text up to a terminator, which is passed. -/
def takeUntil (terminator : Char) (what : String) : Nat → List Char → Reading String
  | 0, _ => complain (.missingName what) 0
  | fuel + 1, done => do
    match ← take with
    | none =>
      if done.isEmpty then complain (.missingName what) 0
      else complain (.unterminatedName (String.ofList [terminator]) what) done.length
    | some t =>
      if t == .plain terminator then
        if done.isEmpty then complain (.missingName what) 1
        else return String.ofList done
      else takeUntil terminator what fuel (done ++ t.text)

/-- The text up to a terminator, which is passed. -/
def untilChar (terminator : Char) (what : String) : Reading String := do
  takeUntil terminator what ((← get).rest.length + 1) []

end Conform.Regex
