import Conform.Network.NameTables
import Conform.Text.Digit
import Conform.Text.Split

/-!
# Preparation of host names

Before an internationalized label is encoded, its characters are case-folded and decomposed, put into canonical
order and composed again; then some are prohibited, and text written from right to left must not mix with the
other direction.
-/

namespace Conform.Network.Nameprep

/-! ### Tables -/

/-- Characters `first` to `last` in steps go to the listed ones, each moved by its distance from `first`. -/
structure Mapping where
  first : Nat
  last : Nat
  step : Nat
  target : List Nat

/-- A hexadecimal number. -/
def number (cs : List Char) : Nat := Text.hexOf cs

/-- Numbers between commas. -/
def numbers (cs : List Char) : List Nat := if cs.isEmpty then [] else (Text.fields ',' cs).map number

/-- The entries of a table, each cut at its colon. -/
def entries (table : String) : List (List Char × List Char) :=
  let text := table.toList.map fun c => if c == '\n' then ' ' else c
  (Text.fields ' ' text).filterMap (Text.cut? ':')

/-- The left side of an entry: a character, or a range with or without a step. -/
def sources (cs : List Char) : Nat × Nat × Nat :=
  let (range, step) := match Text.cut? '/' cs with
    | some (range, step) => (range, number step)
    | none => (cs, 1)
  match Text.cut? '-' range with
  | some (first, last) => (number first, number last, step)
  | none => (number range, number range, step)

/-- The table of mappings. -/
def mappingTable : List Mapping :=
  (entries mappings).map fun (left, right) =>
    let (first, last, step) := sources left
    ⟨first, last, step, numbers right⟩

/-- The table of compositions. -/
def compositionTable : List (List Nat × Nat) :=
  (entries compositions).map fun (left, right) => (numbers left, number right)

/-- The table of combining classes. -/
def classTable : List (Nat × Nat × Nat) :=
  (entries combiningClasses).map fun (left, right) =>
    let (first, last, _) := sources left
    (first, last, number right)

/-! ### Hangul -/

/-- The syllable block. -/
def isSyllable (n : Nat) : Bool := 0xAC00 ≤ n && n < 0xAC00 + 11172

/-- The letters of a syllable. -/
def letters (n : Nat) : List Nat :=
  let i := n - 0xAC00
  let final := i % 28
  [0x1100 + i / 588, 0x1161 + i % 588 / 28] ++ (if final == 0 then [] else [0x11A7 + final])

/-- The syllable of an initial and a vowel, or of an open syllable and a final. -/
def syllable? (a b : Nat) : Option Nat :=
  if 0x1100 ≤ a && a < 0x1113 && 0x1161 ≤ b && b < 0x1176 then
    some (0xAC00 + ((a - 0x1100) * 21 + (b - 0x1161)) * 28)
  else if isSyllable a && (a - 0xAC00) % 28 == 0 && 0x11A7 < b && b < 0x11C3 then some (a + (b - 0x11A7))
  else none

/-! ### Mapping and composing -/

/-- What a character is replaced by. -/
def mapped (n : Nat) : List Nat :=
  if isSyllable n then letters n
  else
    match mappingTable.find? fun m => m.first ≤ n && n ≤ m.last && (n - m.first) % m.step == 0 with
    | some m => m.target.map (· + (n - m.first))
    | none => [n]

/-- The combining class of a character. -/
def combiningClass (n : Nat) : Nat :=
  match classTable.find? fun (first, last, _) => first ≤ n && n ≤ last with
  | some (_, _, k) => k
  | none => 0

/-- Put a combining character before those of a higher class at the end, which comes first. -/
def insertCombining (k n : Nat) : List (Nat × Nat) → List (Nat × Nat)
  | (k', n') :: rest => if k < k' then (k', n') :: insertCombining k n rest else (k, n) :: (k', n') :: rest
  | [] => [(k, n)]

/-- Characters with their classes in canonical order, last first. -/
def ordered (ns : List Nat) : List (Nat × Nat) :=
  ns.foldl (fun done n =>
    let k := combiningClass n
    if k == 0 then (0, n) :: done else insertCombining k n done) []

/-- What two characters compose to. -/
def compose? (a b : Nat) : Option Nat :=
  match syllable? a b with
  | some n => some n
  | none => compositionTable.lookup [a, b]

/-- Composing in progress: what is finished, the starter that may still grow, and the characters behind it that
did not combine; lists are last first. -/
structure Composing where
  done : List Nat
  starter : Option Nat
  behind : List (Nat × Nat)

/-- Everything composed so far, last first. -/
def Composing.all (s : Composing) : List Nat := s.behind.map (·.2) ++ s.starter.toList ++ s.done

/-- Add a character: it combines with the starter unless one of its class or higher, or a starter, lies between. -/
def Composing.add (s : Composing) (k n : Nat) : Composing :=
  let blocked := match s.behind with
    | (k', _) :: _ => k ≤ k' || k' == 0
    | [] => false
  let joined := if blocked then none else s.starter.bind (compose? · n)
  match joined with
  | some c => { s with starter := some c }
  | none => if k == 0 then ⟨s.all, some n, []⟩ else { s with behind := (k, n) :: s.behind }

/-- Characters composed. -/
def composed (kns : List (Nat × Nat)) : List Nat :=
  (kns.foldl (fun (s : Composing) (k, n) => s.add k n) ⟨[], none, []⟩).all.reverse

/-- The normal form of a label. -/
def normal (label : List Char) : List Char :=
  ((composed (ordered (label.flatMap fun c => mapped c.toNat)).reverse)).map Char.ofNat

/-! ### Checks -/

/-- Text from right to left stands alone and at both ends. -/
def directionsAgree (label : List Char) : Bool :=
  if label.any rightToLeftRanges.has then
    !label.any leftToRightRanges.has && label.head?.all rightToLeftRanges.has &&
      label.getLast?.all rightToLeftRanges.has
  else true

/-- The prepared form of a label, if it has one. -/
def prepare? (label : List Char) : Option (List Char) :=
  let label := normal label
  if label.any prohibitedRanges.has || !directionsAgree label then none else some label

end Conform.Network.Nameprep
