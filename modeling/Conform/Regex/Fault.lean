import Conform.Regex.Pattern
import Conform.Text.Quoted

/-!
# Faults of patterns

Why a text is no regular expression, and the words for it.  A fault names a reason and, as a rule, the place where
it shows; those that can only be told once the whole pattern has been read have no place.
-/

namespace Conform.Regex

/-- What is wrong with a pattern. -/
inductive Reason where
  | danglingBackslash
  | badEscape (escape : String)
  | incompleteEscape (escape : String)
  | octalRange (escape : String)
  | missingBrace
  | missingName (what : String)
  | unterminatedName (terminator what : String)
  | undefinedCharacter (name : String)
  | unterminatedSet
  | badRange (first last : String)
  | nothingToRepeat
  | multipleRepeat
  | repeatOrder
  | unterminatedGroup
  | unterminatedComment
  | unbalanced
  | unexpectedEnd
  | unknownExtension (text : String)
  | badGroupName (name : String)
  | unknownGroupName (name : String)
  | redefinedGroup (name : String) (group earlier : Nat)
  | openGroup
  | lookbehindGroup
  | badGroupNumber
  | badGroupReference (group : Nat)
  | manyBranches
  | lateFlags
  | localeFlag
  | clashingFlags
  | unknownFlag
  | missingFlag
  | flagEnd
  | flagColon
  | typeFlagOff
  | globalFlagOn
  | globalFlagOff
  | flagOnAndOff
  | variableLookbehind
  | farLookbehind
  | templateRepeat (greed : Greed)
  deriving DecidableEq, Repr

/-- The words for a reason. -/
def Reason.text : Reason → String
  | .danglingBackslash => "bad escape (end of pattern)"
  | .badEscape e => "bad escape " ++ e
  | .incompleteEscape e => "incomplete escape " ++ e
  | .octalRange e => "octal escape value " ++ e ++ " outside of range 0-0o377"
  | .missingBrace => "missing \x7b"
  | .missingName what => "missing " ++ what
  | .unterminatedName terminator _ => "missing " ++ terminator ++ ", unterminated name"
  | .undefinedCharacter name => "undefined character name " ++ Text.Quoted.quote name
  | .unterminatedSet => "unterminated character set"
  | .badRange first last => "bad character range " ++ first ++ "-" ++ last
  | .nothingToRepeat => "nothing to repeat"
  | .multipleRepeat => "multiple repeat"
  | .repeatOrder => "min repeat greater than max repeat"
  | .unterminatedGroup => "missing ), unterminated subpattern"
  | .unterminatedComment => "missing ), unterminated comment"
  | .unbalanced => "unbalanced parenthesis"
  | .unexpectedEnd => "unexpected end of pattern"
  | .unknownExtension text => "unknown extension ?" ++ text
  | .badGroupName name => "bad character in group name " ++ Text.Quoted.quote name
  | .unknownGroupName name => "unknown group name " ++ Text.Quoted.quote name
  | .redefinedGroup name group earlier =>
    "redefinition of group name " ++ Text.Quoted.quote name ++ " as group " ++ toString group ++
      "; was group " ++ toString earlier
  | .openGroup => "cannot refer to an open group"
  | .lookbehindGroup => "cannot refer to group defined in the same lookbehind subpattern"
  | .badGroupNumber => "bad group number"
  | .badGroupReference group => "invalid group reference " ++ toString group
  | .manyBranches => "conditional backref with more than two branches"
  | .lateFlags => "global flags not at the start of the expression"
  | .localeFlag => "bad inline flags: cannot use 'L' flag with a str pattern"
  | .clashingFlags => "bad inline flags: flags 'a', 'u' and 'L' are incompatible"
  | .unknownFlag => "unknown flag"
  | .missingFlag => "missing flag"
  | .flagEnd => "missing -, : or )"
  | .flagColon => "missing :"
  | .typeFlagOff => "bad inline flags: cannot turn off flags 'a', 'u' and 'L'"
  | .globalFlagOn => "bad inline flags: cannot turn on global flag"
  | .globalFlagOff => "bad inline flags: cannot turn off global flag"
  | .flagOnAndOff => "bad inline flags: flag turned on and off"
  | .variableLookbehind => "look-behind requires fixed-width pattern"
  | .farLookbehind => "looks too much behind"
  | .templateRepeat greed =>
    "internal: unsupported template operator " ++ match greed with
      | .greedy => "MAX_REPEAT"
      | .lazy => "MIN_REPEAT"
      | .possessive => "POSSESSIVE_REPEAT"

/-- Why a text is no pattern. -/
inductive ReadError where
  /-- A fault, with the number of characters before it if it has a place. -/
  | fault (reason : Reason) (position : Option Nat)
  /-- A number of rounds beyond every limit. -/
  | tooManyRounds
  /-- A number of rounds with so many digits that it is not read. -/
  | tooLong (digits : Nat)
  /-- Flags of the whole pattern that exclude each other. -/
  | clashingModes
  deriving DecidableEq, Repr

/-- A place in a pattern; in one of several lines also by line and column. -/
def placeText (pattern : String) (position : Nat) : String :=
  let cs := pattern.toList
  let before := cs.take position
  " at position " ++ toString position ++
    if cs.contains '\n' then
      " (line " ++ toString (before.count '\n' + 1) ++ ", column " ++
        toString ((before.reverse.takeWhile (· != '\n')).length + 1) ++ ")"
    else ""

/-- The words for an error in a pattern. -/
def ReadError.message (pattern : String) : ReadError → String
  | .fault reason position =>
    reason.text ++ match position with
      | some n => placeText pattern n
      | none => ""
  | .tooManyRounds => "the repetition number is too large"
  | .tooLong digits => Text.tooLongToRead digits
  | .clashingModes => "ASCII and UNICODE flags are incompatible"

end Conform.Regex
