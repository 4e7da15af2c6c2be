import Conform.Command.Run

/-!
# The command

The outer layer: it hands the command line and the files to `Command.run`, and writes what comes of it.  A run
tells what it has asked of the files (`Loader.consulted`).  What it asks for the first time is fetched from the
disk, and the command line is run again, until nothing is missing.
-/

namespace Conform

namespace Command

/-- The place that names lead to from the root, as the disk has it. -/
def diskPath (names : List String) : String := "/" ++ "/".intercalate names

/-- The names in a directory of the disk, if there is one. -/
def namesBelow? (names : List String) : IO (Option (List String)) := do
  let here ← IO.currentDir
  match ← (here / diskPath names).readDir.toBaseIO with
  | .ok entries => return some (entries.toList.map (·.fileName))
  | .error _ => return none

/-- The store with what lies at a place on the disk. -/
def fetch (names : List String) (f : Files) : IO Files := do
  if (f.lookup? names).isSome then return f
  match ← (IO.FS.readBinFile (diskPath names)).toBaseIO with
  | .ok bytes => return { f with files := f.files ++ [(names, bytes.toList)] }
  | .error _ =>
    match ← namesBelow? names with
    | some _ => return { f with directories := f.directories ++ [names] }
    | none => return f

/-- The store with all that lies at and below a place on the disk. -/
partial def fetchBelow (names : List String) (f : Files) : IO Files := do
  let f ← fetch names f
  match ← namesBelow? names with
  | some inner => inner.foldlM (fun f name => fetchBelow (names ++ [name]) f) f
  | none => return f

/-- The store with what answers a question, and with what lies on the way there. -/
def answer (c : Consultation) (f : Files) : IO Files := do
  match c with
  | .path p =>
    let names := p.resolve f.here
    (List.range names.length).foldlM (fun f i => fetch (names.take (i + 1)) f) f
  | .tree p => fetchBelow (p.resolve f.here) f

/-- Runs a command line on the files of the disk; `asked` has been answered. -/
partial def runOnDisk (texts : List String) (asked : List Consultation) (f : Files) :
    IO (Except Failure Ending) := do
  let (ending, session) := (run { files := f } texts).run.run {}
  match session.loader.consulted.eraseDups.filter fun c => !asked.contains c with
  | [] => return ending
  | new => runOnDisk texts (asked ++ new) (← new.foldlM (fun f c => answer c f) f)

/-- How the command is used. -/
def usage : String :=
  "usage: conform [--output flag|basic|detailed] [--csv FILE] [--preload PATH] [--config FILE]\n" ++
  "               [--allow-description-ref] [--validate-examples] [--validate-default]\n" ++
  "               [-v] [-h] schema [INSTANCE ...]\n"

end Command

end Conform

open Conform in
/-- Validates instances and the rows of a table against a schema. -/
def main (texts : List String) : IO UInt32 := do
  let here := Path.resolve [] (.ofText (← IO.currentDir).toString)
  match ← Command.runOnDisk texts [] { here, files := [] } with
  | .ok .help => do
    IO.print Command.usage
    return 0
  | .ok .misuse => do
    IO.eprint Command.usage
    return 2
  | .ok (.done code out err) => do
    IO.print out
    IO.eprint err
    return code.toUInt32
  | .error e => do
    IO.eprintln e.message
    return 1
