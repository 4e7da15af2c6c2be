import Conform.Text.Digit
import Conform.Text.Split

/-!
# Arguments of a command line

An argument is a word, or an option with its value attached or not, or the mark after which all arguments are
words.  A long option may be cut short as long as it stays the only one that starts so; short ones without values
may share a dash.  What looks like a negative number is a word, and so is what starts with a dash and has a blank
in it, unless it names an option.
-/

namespace Conform

/-- An option without a value. -/
inductive Switch where
  | help
  | verbose
  | descriptionReferences
  | checkExamples
  | checkDefaults
  deriving DecidableEq, Repr

/-- An option with a value. -/
inductive Setting where
  | output
  | csv
  | preload
  | config
  deriving DecidableEq, Repr

/-- An option. -/
inductive Flag where
  | switch (s : Switch)
  | setting (s : Setting)
  deriving DecidableEq, Repr

namespace Flag

/-- The options by name. -/
def named : List (String × Flag) :=
  [("-h", .switch .help), ("--help", .switch .help), ("--output", .setting .output), ("--csv", .setting .csv),
    ("--preload", .setting .preload), ("--config", .setting .config),
    ("--allow-description-ref", .switch .descriptionReferences), ("--validate-examples", .switch .checkExamples),
    ("--validate-default", .switch .checkDefaults), ("-v", .switch .verbose), ("--verbose", .switch .verbose)]

/-- The option of a name. -/
def ofName? (name : String) : Option Flag := named.lookup name

/-- The options that a text is the name of, or the start of the name of. -/
def startingWith (text : String) : List Flag := (named.filter (·.1.startsWith text)).map (·.2)

end Flag

/-- The option of a letter. -/
def Switch.ofLetter? : Char → Option Switch
  | 'h' => some .help
  | 'v' => some .verbose
  | _ => none

/-- An argument. -/
inductive Argument where
  | word (text : String)
  /-- The mark after which all arguments are words. -/
  | mark
  /-- An option, with the value that is attached to it. -/
  | flag (f : Flag) (value : Option String)
  /-- Letters that share a dash, the first of which is an option. -/
  | letters (cs : List Char)
  /-- The looks of an option, but none of these. -/
  | unknown
  deriving DecidableEq, Repr

namespace Argument

/-- The text looks like a negative number. -/
def isNegativeNumber (cs : List Char) : Bool :=
  match Text.dropFinalBreak cs with
  | '-' :: body =>
    match body.dropWhile Text.isDecimal with
    | [] => !body.isEmpty
    | '.' :: places => !places.isEmpty && places.all Text.isDecimal
    | _ => false
  | _ => false

/-- What a text that names no option is. -/
def ofOther (cs : List Char) : Argument :=
  if isNegativeNumber cs || cs.contains ' ' then .word (String.ofList cs) else .unknown

/-- A name and the value that follows an equals sign. -/
def cutValue (cs : List Char) : String × Option String :=
  match Text.cut? '=' cs with
  | some (name, value) => (String.ofList name, some (String.ofList value))
  | none => (String.ofList cs, none)

/-- What a text with two dashes in front is; there is no answer if it is the start of several names. -/
def ofLong? (cs : List Char) : Option Argument :=
  let (name, value) := cutValue cs
  match Flag.ofName? name, Flag.startingWith name with
  | some f, _ => some (.flag f value)
  | none, [f] => some (.flag f value)
  | none, [] => some (ofOther cs)
  | none, _ => none

/-- What a text with one dash in front is. -/
def ofShort (c : Char) (rest : List Char) : Argument :=
  match Switch.ofLetter? c, rest with
  | none, _ => ofOther ('-' :: c :: rest)
  | some s, [] => .flag (.switch s) none
  | some _, rest => .letters (c :: rest)

/-- What a text is; there is no answer if it is the start of several names. -/
def ofText? (text : String) : Option Argument :=
  match text.toList with
  | ['-', '-'] => some .mark
  | '-' :: '-' :: rest => ofLong? ('-' :: '-' :: rest)
  | '-' :: c :: rest => some (ofShort c rest)
  | _ => some (.word text)

/-- The arguments that texts are; there is no answer if one is the start of several names. -/
def ofTexts? : List String → Option (List Argument)
  | [] => some []
  | text :: rest =>
    match ofText? text with
    | some .mark => some (.mark :: rest.map .word)
    | some a => (ofTexts? rest).map (a :: ·)
    | none => none

end Argument

end Conform
