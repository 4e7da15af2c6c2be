import Conform.Regex.Pattern

/-!
# Matching

`Pattern.run` tries the ways in which a pattern matches from a place, in the order in which they are preferred, and
hands the place where each ends to what is to follow, until that succeeds.  A loop goes on after a round only if
the round has moved forward, so the number of rounds is bounded by the text.

`Pattern.search` asks whether there is a match from any place of the text.
-/

namespace Conform.Regex

/-- A place in a text with the extents of the groups captured on the way there. -/
structure Place where
  position : Nat
  groups : List (Nat × Nat × Nat)
  deriving DecidableEq, Repr

namespace Place

/-- The extent of a group. -/
def group? (p : Place) (group : Nat) : Option (Nat × Nat) :=
  (p.groups.find? (·.1 == group)).map (·.2)

/-- The place with the extent of a group set. -/
def capture (p : Place) (group start : Nat) : Place :=
  { p with groups := (group, start, p.position) :: p.groups.filter (·.1 != group) }

/-- The place `n` characters on. -/
def advance (p : Place) (n : Nat) : Place := { p with position := p.position + n }

end Place

/-- The place before a character that may be part of a word. -/
def wordAt (asciiOnly : Bool) (text : Array Char) (i : Nat) : Bool :=
  match text[i]? with
  | some c => Category.word.has asciiOnly c
  | none => false

/-- The anchor holds at a place of the text.  An empty text has no word boundaries and no places that are none. -/
def Anchor.holds (text : Array Char) (i : Nat) : Anchor → Bool
  | .textStart => i == 0
  | .textEnd => i == text.size
  | .lastLineEnd => i == text.size || (i + 1 == text.size && text[i]? == some '\n')
  | .lineStart => i == 0 || text[i - 1]? == some '\n'
  | .lineEnd => i == text.size || text[i]? == some '\n'
  | .boundary asciiOnly positive =>
    let before := i != 0 && wordAt asciiOnly text (i - 1)
    text.size != 0 && (before != wordAt asciiOnly text i) == positive

/-- The two extents of the text, each `n` long, read alike. -/
def sameText (fold : Fold) (text : Array Char) (i j : Nat) : Nat → Bool
  | 0 => true
  | n + 1 =>
    (match text[i]?, text[j]? with
      | some a, some b => fold.apply a == fold.apply b
      | _, _ => false) && sameText fold text (i + 1) (j + 1) n

/-- What is to follow a match: it gives the place where the whole ends, if it succeeds. -/
abbrev Next := Place → Option Place

/-- One character that passes a test. -/
def oneChar (text : Array Char) (test : Char → Bool) (p : Place) (next : Next) : Option Place :=
  match text[p.position]? with
  | some c => if test c then next (p.advance 1) else none
  | none => none

/-- Exactly `n` rounds. -/
def rounds (body : Place → Next → Option Place) : Nat → Place → Next → Option Place
  | 0, p, next => next p
  | n + 1, p, next => body p fun q => rounds body n q next

/-- Further rounds, at most `max` of them: most first, or fewest first if `lazy`.  After a round without progress
there is no other. -/
def moreRounds (size : Nat) (body : Place → Next → Option Place) (lazy : Bool) (max : Option Nat) (p : Place)
    (next : Next) : Option Place :=
  let further (_ : Unit) : Option Place := body p fun q =>
    if _h : p.position < q.position ∧ q.position ≤ size then
      moreRounds size body lazy (max.map (· - 1)) q next
    else next q
  if max == some 0 then next p
  else
    match if lazy then next p else further () with
    | some q => some q
    | none => if lazy then further () else next p
termination_by size - p.position
decreasing_by omega

/-- Exactly `n` rounds, each matched in its first way. -/
def firstRounds (body : Place → Option Place) : Nat → Place → Option Place
  | 0, p => some p
  | n + 1, p => (body p).bind (firstRounds body n)

/-- Further rounds as far as they go, each matched in its first way. -/
def allRounds (size : Nat) (body : Place → Option Place) (max : Option Nat) (p : Place) : Place :=
  if max == some 0 then p
  else
    match body p with
    | none => p
    | some q =>
      if _h : p.position < q.position ∧ q.position ≤ size then allRounds size body (max.map (· - 1)) q
      else q
termination_by size - p.position
decreasing_by omega

/-- The place where the pattern, matched from `p` and followed by `next`, first ends. -/
def Pattern.run (text : Array Char) : Pattern → Place → Next → Option Place
  | .empty, p, next => next p
  | .charClass set, p, next => oneChar text set.has p next
  | .any lineBreaks, p, next => oneChar text (fun c => lineBreaks || c != '\n') p next
  | .anchor place, p, next => if place.holds text p.position then next p else none
  | .cat a b, p, next => a.run text p fun q => b.run text q next
  | .alt a b, p, next =>
    match a.run text p next with
    | some q => some q
    | none => b.run text p next
  | .loop min max greed body, p, next =>
    match greed with
    | .possessive =>
      (firstRounds (fun q => body.run text q some) min p).bind fun q =>
        next (allRounds text.size (fun q => body.run text q some) (max.map (· - min)) q)
    | greed =>
      rounds (body.run text) min p fun q =>
        moreRounds text.size (body.run text) (greed == .lazy) (max.map (· - min)) q next
  | .capture group body, p, next => body.run text p fun q => next (q.capture group p.position)
  | .backref group fold, p, next =>
    match p.group? group with
    | some (start, stop) =>
      if sameText fold text start p.position (stop - start) then next (p.advance (stop - start)) else none
    | none => none
  | .ahead positive body, p, next =>
    match body.run text p some, positive with
    | some q, true => next { q with position := p.position }
    | none, false => next p
    | _, _ => none
  | .behind positive width body, p, next =>
    let found :=
      if width.low ≤ p.position then body.run text { p with position := p.position - width.low } some else none
    match found, positive with
    | some q, true => next { q with position := p.position }
    | none, false => next p
    | _, _ => none
  | .atomic body, p, next => (body.run text p some).bind next
  | .ifGroup group captured otherwise, p, next =>
    if (p.group? group).isSome then captured.run text p next else otherwise.run text p next

/-- The pattern matches somewhere in the text. -/
def Pattern.search (pattern : Pattern) (text : List Char) : Bool :=
  let text := text.toArray
  (List.range (text.size + 1)).any fun i => (pattern.run text ⟨i, []⟩ some).isSome

end Conform.Regex
