import Conform.Format.Time

/-!
# Points in time

A column of texts that tell points in time: a date, or a date and a time of day, in universal time if a `Z`
follows.  They are told to the second.
-/

namespace Conform

/-- A point in time, to the second. -/
structure Instant where
  date : List Char
  time : List Char
  /-- The time is universal time. -/
  universal : Bool
  deriving DecidableEq, Repr

namespace Instant

/-- Two digits below a bound. -/
def isBelow (bound : Nat) (a b : Char) : Bool := (Format.twoDigits? a b).any (· < bound)

/-- The time of day at the start of a text, with what follows it. -/
def timeOf? : List Char → Option (List Char × List Char)
  | a :: b :: ':' :: c :: d :: ':' :: e :: f :: rest =>
    if isBelow 24 a b && isBelow 60 c d && isBelow 60 e f then
      some ([a, b, ':', c, d, ':', e, f], Format.dropFraction rest)
    else none
  | a :: b :: ':' :: c :: d :: rest =>
    if isBelow 24 a b && isBelow 60 c d then some ([a, b, ':', c, d, ':', '0', '0'], rest) else none
  | _ => none

/-- The point in time that a text tells. -/
def ofText? (cs : List Char) : Option Instant :=
  let date := cs.take 10
  if !Format.isDate date then none
  else
    match cs.drop 10 with
    | [] => some ⟨date, "00:00:00".toList, false⟩
    | c :: rest =>
      if c == 'T' || c == ' ' then
        match timeOf? rest with
        | some (time, []) => some ⟨date, time, false⟩
        | some (time, ['Z']) => some ⟨date, time, true⟩
        | _ => none
      else none

/-- The text of a point in time. -/
def text (i : Instant) : String :=
  String.ofList (i.date ++ 'T' :: i.time ++ (if i.universal then ['Z'] else []))

end Instant

end Conform
