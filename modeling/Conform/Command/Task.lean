import Conform.Command.Argument
import Conform.Compile.Schema

/-!
# Tasks

What a command line asks for.  The first words are the schema and its instances, all in one row: words that come
later, after an option, are too many.
-/

namespace Conform

/-- What a command line asks for. -/
structure Task where
  /-- The schema: a file, a URI or a text. -/
  schema : String
  /-- The instances: files or texts. -/
  instances : List String
  form : Schema.Form := .basic
  /-- The file of a table whose rows are checked. -/
  csv : Option String := none
  /-- Files and directories of schemas that are loaded first. -/
  preload : List String := []
  /-- The file of options. -/
  config : Option String := none
  options : Options := {}
  deriving Repr

/-- Why a command line asks for nothing. -/
inductive Refusal where
  /-- It asks for help. -/
  | help
  | misuse
  deriving DecidableEq, Repr

namespace Task

/-- Where the row of words is. -/
inductive Row where
  | ahead
  | here
  | past
  deriving DecidableEq, Repr

/-- A task whose command line has been read in part. -/
structure Draft where
  row : Row := .ahead
  /-- The words of the row, last first. -/
  words : List String := []
  /-- There is an argument too many. -/
  surplus : Bool := false
  task : Task := { schema := "", instances := [] }

namespace Draft

/-- Takes a word. -/
def takeWord (d : Draft) (word : String) : Draft :=
  match d.row with
  | .past => { d with surplus := true }
  | _ => { d with row := .here, words := word :: d.words }

/-- Takes the mark.  It is not a word where it stands beside the schema. -/
def takeMark (d : Draft) : Draft :=
  match d.row with
  | .ahead => d
  | .here => if d.words.length == 1 then d else { d with words := "--" :: d.words }
  | .past => { d with surplus := true }

/-- Ends the row of words, if it has begun. -/
def endRow (d : Draft) : Draft := if d.row == .here then { d with row := .past } else d

/-- Changes the options. -/
def setOptions (d : Draft) (f : Options → Options) : Draft :=
  { d with task := { d.task with options := f d.task.options } }

/-- Turns on an option. -/
def turnOn (d : Draft) : Switch → Except Refusal Draft
  | .help => .error .help
  | .verbose => .ok d
  | .descriptionReferences => .ok (d.setOptions fun o => { o with descriptionReferences := true })
  | .checkExamples => .ok (d.setOptions fun o => { o with checkExamples := true })
  | .checkDefaults => .ok (d.setOptions fun o => { o with checkDefaults := true })

/-- Sets an option to a value. -/
def set (d : Draft) (s : Setting) (value : String) : Except Refusal Draft :=
  match s with
  | .output =>
    match Schema.Form.ofName? value with
    | some form => .ok { d with task := { d.task with form } }
    | none => .error .misuse
  | .csv => .ok { d with task := { d.task with csv := some value } }
  | .preload => .ok { d with task := { d.task with preload := d.task.preload ++ [value] } }
  | .config => .ok { d with task := { d.task with config := some value } }

/-- Turns on the options of letters.  What follows the last of them is too much; it must not look like a value or
like another option. -/
def turnOnAll (d : Draft) (cs : List Char) : Except Refusal Draft :=
  let rest := cs.dropWhile fun c => (Switch.ofLetter? c).isSome
  if rest.head? == some '=' || rest.head? == some '-' then .error .misuse
  else
    let d := if rest.isEmpty then d else { d with surplus := true }
    (cs.takeWhile fun c => (Switch.ofLetter? c).isSome).filterMap Switch.ofLetter? |>.foldlM turnOn d

/-- Takes arguments in order. -/
def takeAll (d : Draft) : List Argument → Except Refusal Draft
  | [] => .ok d
  | .word text :: rest => takeAll (d.takeWord text) rest
  | .mark :: rest => takeAll d.takeMark rest
  | .unknown :: rest => takeAll { d.endRow with surplus := true } rest
  | .letters cs :: rest => (d.endRow.turnOnAll cs).bind (takeAll · rest)
  | .flag (.switch s) none :: rest => (d.endRow.turnOn s).bind (takeAll · rest)
  | .flag (.switch _) (some _) :: _ => .error .misuse
  | .flag (.setting s) (some value) :: rest => (d.endRow.set s value).bind (takeAll · rest)
  | .flag (.setting s) none :: .word value :: rest => (d.endRow.set s value).bind (takeAll · rest)
  | .flag (.setting _) none :: _ => .error .misuse

/-- The task, if nothing is missing and nothing too much.  A mark between the instances is not one of them. -/
def finish (d : Draft) : Except Refusal Task :=
  match d.words.reverse with
  | schema :: instances =>
    if d.surplus then .error .misuse else .ok { d.task with schema, instances := instances.erase "--" }
  | [] => .error .misuse

end Draft

/-- The task that a command line asks for. -/
def ofTexts (texts : List String) : Except Refusal Task :=
  match Argument.ofTexts? texts with
  | some arguments => (Draft.takeAll {} arguments).bind Draft.finish
  | none => .error .misuse

end Task

end Conform
