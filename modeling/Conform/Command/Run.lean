import Conform.Command.Task
import Conform.Table.Basic

/-!
# Running a command line

A command line compiles a schema and evaluates instances and the rows of a table.  What comes of it is a value
(`Ending`): help, a refusal, or what is written to the two outputs with the exit code, which is 0 if all is valid,
1 if something is not, and 2 if the schema or an instance cannot be had.

An argument that starts with an at sign stands for the lines of a file.
-/

namespace Conform

/-- What comes of a command line. -/
inductive Ending where
  | help
  | misuse
  | done (code : Nat) (out err : String)
  deriving DecidableEq, Repr

namespace Command

/-! ### Arguments from files -/

/-- The lines of the file that a text leads to. -/
def argumentLines (w : World) (text : String) : Loading (List String) := do
  return (Text.lines (Text.Utf8.decodeLossy (← Loader.openFile w text))).map String.ofList

/-- The arguments with the lines of files in the place of those that name them.  Files can name files as deep as
the first argument says. -/
def expand (w : World) : Nat → List String → Loading (List String)
  | 0, _ => throw .endless
  | depth + 1, texts => do
    let parts ← texts.mapM fun text =>
      match text.toList with
      | '@' :: name => do expand w depth (← argumentLines w (String.ofList name))
      | _ => return [text]
    return parts.flatten

/-- A bound on the depth of arguments from files that have an end. -/
def depthLimit (w : World) : Nat := w.files.files.length + 2

/-! ### Instances -/

/-- What a computation comes to, as a value. -/
def attempt {α : Type} (x : Compiling α) : Compiling (Except Failure α) :=
  tryCatch (return .ok (← x)) fun e => return .error e

/-- The instance that a text names: the content of a file if there is one, and otherwise the value of the text. -/
def readInstance (w : World) (text : String) : Compiling Value := do
  let p := Path.ofText text
  if ← Compiling.ofLoading (Loader.isFile w p) then
    let bytes ← Compiling.ofLoading (Loader.readFile w p)
    Compiling.ofExcept (Resource.decode w.yaml ⟨.bytes bytes, none⟩ (Path.uriOf (p.resolve w.files.here)))
  else Compiling.ofExcept (decodeText text)

/-- What has been written, and whether all has been valid. -/
structure Tally where
  out : String := ""
  err : String := ""
  valid : Bool := true

/-- Writes a value on lines of its own. -/
def Tally.write (t : Tally) (v : Value) : Tally := { t with out := t.out ++ Json.write .indented v ++ "\n" }

/-- Takes in that something is valid or not. -/
def Tally.note (t : Tally) (valid : Bool) : Tally := { t with valid := t.valid && valid }

/-- The report on an instance as it is written. -/
def shown : Schema.Report → Value
  | .flag valid => .ofPairs [("valid", .bool valid)]
  | report => report.toValue

/-- Evaluates instances in order, up to the first that cannot be read, with the reason why it cannot. -/
def evaluateAll (w : World) (node : Node) (form : Schema.Form) :
    List String → Tally → Compiling (Tally × Option Failure)
  | [], t => return (t, none)
  | text :: rest, t => do
    match ← attempt (readInstance w text) with
    | .error e => if e.origin == .content then return (t, some e) else throw e
    | .ok v =>
      let report ← Compiling.ofExcept (Schema.evaluate node form v .root .root)
      evaluateAll w node form rest ((t.note report.valid).write (shown report))

/-! ### Tables -/

/-- The characters of the text of a table.  An incomplete character at the end is told apart from what precedes
it. -/
def tableText (bytes : List UInt8) : Except Failure (List Char) :=
  (Text.Utf8.decode bytes).mapError fun e =>
    .utf8 (if e.fault == .truncated then { e with start := 0 } else e)

/-- What is found in a row. -/
def rowReport (row : Nat) (entries : List Entry) : Value :=
  .ofPairs [("row", .int row), ("valid", .bool entries.isEmpty), ("errors", .arr (entries.map Entry.toValue))]

/-- Evaluates the rows of the table in a file. -/
def evaluateTable (w : World) (node : Node) (file : String) (t : Tally) : Compiling Tally := do
  let bytes ← Compiling.ofLoading (Loader.openFile w file)
  let cs ← Compiling.ofExcept (tableText bytes)
  let table ← Compiling.ofExcept ((Table.ofCsv cs).mapError .table)
  let findings ← Compiling.ofExcept (table.findings node)
  let rows := findings.zipIdx.map fun (entries, i) => rowReport i entries
  return (t.note (findings.all List.isEmpty)).write (.arr rows)

/-! ### The whole -/

/-- The options of a task: those of its file and those of its command line. -/
def optionsOf (w : World) (task : Task) : Compiling Options := do
  match task.config with
  | none | some "" => return task.options
  | some file => return (← Compiling.ofLoading (Options.load w (.ofText file))).union task.options

/-- Compiles the schema of a task. -/
def compile (w : World) (task : Task) : Compiling Schema := do
  let options ← optionsOf w task
  for path in task.preload do
    let _ ← Compiling.ofLoading (Loader.preLoad w (.ofText path))
  Schema.compileSource { world := w, options } (.text task.schema)

/-- The line that warns of a finding of the self-checks. -/
def warning (e : Entry) : String :=
  "WARNING schema_tree.cli: " ++ e.location.schemaFragment ++ " " ++ e.keyword.schemaFragment ++ ": " ++
    e.message.text ++ "\n"

/-- Does a task. -/
def perform (w : World) (task : Task) : Compiling Ending := do
  match ← attempt (compile w task) with
  | .error e =>
    if e.origin == .content || e.origin == .storage || e.isUnencodable then
      return .done 2 "" ("Schema error: " ++ e.message ++ "\n")
    else throw e
  | .ok schema =>
    let session ← get
    let warnings := String.join ((session.examples ++ session.defaults).map warning)
    match ← evaluateAll w schema.root task.form task.instances { err := warnings } with
    | (t, some e) => return .done 2 t.out (t.err ++ "Instance error: " ++ e.message ++ "\n")
    | (t, none) =>
      let t ← match task.csv with
        | none | some "" => pure t
        | some file => evaluateTable w schema.root file t
      return .done (if t.valid then 0 else 1) t.out t.err

/-- Runs a command line. -/
def run (w : World) (texts : List String) : Compiling Ending := do
  match ← attempt (Compiling.ofLoading (expand w (depthLimit w) texts)) with
  | .error e => if e.origin == .storage then return .misuse else throw e
  | .ok texts =>
    match Task.ofTexts texts with
    | .ok task => perform w task
    | .error .help => return .help
    | .error .misuse => return .misuse

end Command

end Conform
