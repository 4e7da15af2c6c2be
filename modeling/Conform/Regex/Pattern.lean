import Conform.Text.Blank
import Conform.Text.Case
import Conform.Text.Digit
import Conform.Text.Word

/-!
# Patterns

The tree of a regular expression.  Everything that flags decide (case, the meaning of the dot and of the anchors,
the extent of the character classes) is settled in the leaves.

`Pattern.width` bounds the number of characters a match takes; a pattern is fit to look behind only if both bounds
agree.
-/

namespace Conform.Regex

/-- The classes of characters that have an escape. -/
inductive Category where
  | digit
  | space
  | word
  deriving DecidableEq, Repr

/-- How letter case counts in a comparison. -/
inductive Fold where
  /-- Characters are compared as they are. -/
  | exact
  /-- The case of ASCII letters does not count. -/
  | ascii
  /-- The case of no letter counts. -/
  | full
  deriving DecidableEq, Repr

/-- A part of a character class; characters are given by number, as escapes may name numbers that are none. -/
inductive ClassItem where
  | one (n : Nat)
  | range (first last : Nat)
  | category (kind : Category) (positive : Bool)
  deriving DecidableEq, Repr

/-- A test of one character. -/
structure CharClass where
  negated : Bool
  items : List ClassItem
  fold : Fold
  /-- Categories hold ASCII characters only. -/
  asciiOnly : Bool
  deriving DecidableEq, Repr

/-- A test of a place between characters. -/
inductive Anchor where
  | textStart
  | textEnd
  /-- The end, or the place before a line break that ends the text. -/
  | lastLineEnd
  | lineStart
  | lineEnd
  | boundary (asciiOnly positive : Bool)
  deriving DecidableEq, Repr

/-- In which order a loop tries its numbers of rounds: most first, fewest first, or only as many as it can. -/
inductive Greed where
  | greedy
  | lazy
  | possessive
  deriving DecidableEq, Repr

/-- The least and the greatest number of characters that a match takes. -/
structure Width where
  low : Nat
  high : Nat
  deriving DecidableEq, Repr

/-- A regular expression. -/
inductive Pattern where
  | empty
  | charClass (set : CharClass)
  /-- Any character, or any but a line break. -/
  | any (lineBreaks : Bool)
  | anchor (place : Anchor)
  | cat (first second : Pattern)
  | alt (first second : Pattern)
  /-- At least `min` and, if there is a bound, at most `max` rounds. -/
  | loop (min : Nat) (max : Option Nat) (greed : Greed) (body : Pattern)
  | capture (group : Nat) (body : Pattern)
  /-- The text that a group has captured. -/
  | backref (group : Nat) (fold : Fold)
  /-- What follows. -/
  | ahead (positive : Bool) (body : Pattern)
  /-- What precedes, as many characters back as `width` tells. -/
  | behind (positive : Bool) (width : Width) (body : Pattern)
  /-- The first way to match, and no other. -/
  | atomic (body : Pattern)
  /-- The first pattern if the group has captured, and else the second. -/
  | ifGroup (group : Nat) (captured otherwise : Pattern)
  deriving DecidableEq, Repr

/-! ### Characters -/

/-- The character is in the category. -/
def Category.has (asciiOnly : Bool) (c : Char) : Category → Bool
  | .digit => if asciiOnly then c.isDigit else Text.isDecimal c
  | .space =>
    if asciiOnly then c == ' ' || (9 ≤ c.toNat && c.toNat ≤ 13) else Text.isBlank c
  | .word => if asciiOnly then Text.isAsciiWord c else Text.isWord c

/-- A character with its case taken away. -/
def Fold.apply (fold : Fold) (c : Char) : Char :=
  match fold with
  | .exact => c
  | .ascii => c.toLower
  | .full => Text.lower c

/-- The numbers of the lower-case letters that count as the same as `c`, which is in lower case. -/
def sameLetters (c : Char) : List Nat :=
  (Text.caseClasses.find? (·.contains c.toNat)).getD [c.toNat]

/-- The number, and those of the characters with it as their lower case. -/
def withUpper (n : Nat) : List Nat :=
  let ascii := if 97 ≤ n && n ≤ 122 then [n - 32] else []
  n :: ascii ++ Text.lowerRuns.filterMap fun (first, last, step, distance) =>
    let m := ((n : Int) - distance).toNat
    if first ≤ m && m ≤ last && (m - first) % step == 0 && (m : Int) + distance == n then some m else none

/-- The numbers of all characters that count as the same as `c`. -/
def Fold.class (fold : Fold) (c : Char) : List Nat :=
  match fold with
  | .exact => [c.toNat]
  | .ascii => [c.toLower.toNat, c.toUpper.toNat]
  | .full => (sameLetters (Text.lower c)).flatMap withUpper

/-- A character that counts as one of those numbered is in the item. -/
def ClassItem.has (asciiOnly : Bool) (c : Char) (alike : List Nat) : ClassItem → Bool
  | .one n => alike.contains n
  | .range first last => alike.any fun n => first ≤ n && n ≤ last
  | .category kind positive => kind.has asciiOnly c == positive

/-- The character passes the test. -/
def CharClass.has (s : CharClass) (c : Char) : Bool :=
  let alike := s.fold.class c
  (s.items.any fun item => item.has s.asciiOnly (s.fold.apply c) alike) != s.negated

/-! ### Width -/

/-- Widths are not told apart beyond this bound. -/
def Width.limit : Nat := 1 <<< 64

/-- The width of one pattern after another. -/
def Width.add (a b : Width) : Width := ⟨a.low + b.low, a.high + b.high⟩

/-- The width of a choice. -/
def Width.join (a b : Width) : Width := ⟨min a.low b.low, max a.high b.high⟩

/-- The width of a loop. -/
def Width.loop (min : Nat) (max : Option Nat) (w : Width) : Width :=
  ⟨w.low * min, match max with
    | some n => w.high * n
    | none => if w.high == 0 then 0 else Width.limit⟩

/-- The width with both ends within the bound. -/
def Width.clamp (w : Width) : Width := ⟨min w.low Width.limit, min w.high Width.limit⟩

/-- The width of a pattern, where `groups` knows the widths of the groups. -/
def Pattern.width (groups : Nat → Width) : Pattern → Width
  | .empty => ⟨0, 0⟩
  | .charClass _ => ⟨1, 1⟩
  | .any _ => ⟨1, 1⟩
  | .anchor _ => ⟨0, 0⟩
  | .cat a b => ((a.width groups).add (b.width groups)).clamp
  | .alt a b => (a.width groups).join (b.width groups)
  | .loop min max _ body => ((body.width groups).loop min max).clamp
  | .capture _ body => body.width groups
  | .backref g _ => groups g
  | .ahead _ _ => ⟨0, 0⟩
  | .behind _ _ _ => ⟨0, 0⟩
  | .atomic body => body.width groups
  | .ifGroup _ a b => (a.width groups).join (b.width groups)

end Conform.Regex
