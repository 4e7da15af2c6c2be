import Conform.Storage.Path
import Conform.Text.Quoted

/-!
# Files

A store of files as a value: the contents of the files, and the directories, by the names that lead to them from
the root.  `Files.locate` finds what lies at a path, going through directories only.
-/

namespace Conform

/-- A store of files. -/
structure Files where
  /-- The directory that relative paths start at. -/
  here : List String
  files : List (List String × List UInt8)
  /-- The directories, without those that lie above a file, above another directory or above `here`. -/
  directories : List (List String) := []

/-- Why there is no file at a path. -/
inductive FileFault where
  | missing
  | notDirectory
  | isDirectory
  /-- A name that is longer than a name may be. -/
  | longName
  /-- A name with a null character in it. -/
  | nullName
  deriving DecidableEq, Repr

namespace FileFault

/-- The words for a fault at a path. -/
def message (path : String) : FileFault → String
  | missing => "[Errno 2] No such file or directory: " ++ Text.Quoted.quote path
  | notDirectory => "[Errno 20] Not a directory: " ++ Text.Quoted.quote path
  | isDirectory => "[Errno 21] Is a directory: " ++ Text.Quoted.quote path
  | longName => "[Errno 36] File name too long: " ++ Text.Quoted.quote path
  | nullName => "embedded null byte"

end FileFault

/-- What lies at a place. -/
inductive Stored where
  | file (bytes : List UInt8)
  | directory
  deriving DecidableEq, Repr

namespace Files

/-- The names start with the others. -/
def within (outer inner : List String) : Bool := outer.isPrefixOf inner

/-- What lies where the names lead to. -/
def lookup? (f : Files) (names : List String) : Option Stored :=
  match f.files.lookup names with
  | some bytes => some (.file bytes)
  | none =>
    if within names f.here || f.directories.any (within names) || f.files.any (within names ·.1) then
      some .directory
    else none

/-- The number of bytes that a name or a whole path may have. -/
def nameLimit : Nat := 255

/-- The number of bytes that a whole path may have, with its end. -/
def pathLimit : Nat := 4095

/-- The place that names lead to from a place; each name is looked up in a directory. -/
def walk (f : Files) (place : List String) : List String → Except FileFault (List String)
  | [] => .ok place
  | name :: rest =>
    match f.lookup? place with
    | none => .error .missing
    | some (.file _) => .error .notDirectory
    | some .directory =>
      if name == ".." then walk f place.dropLast rest
      else if nameLimit < name.utf8ByteSize then .error .longName
      else walk f (place ++ [name]) rest

/-- What lies at a path. -/
def locate (f : Files) (p : Path) : Except FileFault Stored :=
  if p.parts.any (·.toList.contains '\x00') then .error .nullName
  else if pathLimit < p.text.utf8ByteSize then .error .longName
  else
    match walk f (if p.isAbsolute then [] else f.here) p.parts with
    | .error fault => .error fault
    | .ok place =>
      match f.lookup? place with
      | some found => .ok found
      | none => .error .missing

/-- The bytes of the file at a path. -/
def read (f : Files) (p : Path) : Except FileFault (List UInt8) :=
  match f.locate p with
  | .ok (.file bytes) => .ok bytes
  | .ok .directory => .error .isDirectory
  | .error fault => .error fault

/-- The bytes of the file that a text leads to as it stands: no text leads nowhere, and one that ends in a slash
leads to a directory. -/
def readText (f : Files) (text : String) : Except FileFault (List UInt8) :=
  if text.isEmpty then .error .missing
  else
    match f.read (.ofText text) with
    | .ok bytes => if text.endsWith "/" || text.endsWith "/." then .error .notDirectory else .ok bytes
    | .error fault => .error fault

/-- There is a file at a path.  A name that is too long leaves that open. -/
def isFile (f : Files) (p : Path) : Except FileFault Bool :=
  match f.locate p with
  | .ok (.file _) => .ok true
  | .error .longName => .error .longName
  | _ => .ok false

/-- There is a directory at a path. -/
def isDirectory (f : Files) (p : Path) : Except FileFault Bool :=
  match f.locate p with
  | .ok .directory => .ok true
  | .error .longName => .error .longName
  | _ => .ok false

/-- One list of names comes before another: name by name, in the order of code points. -/
def comesBefore : List String → List String → Bool
  | [], _ => true
  | _ :: _, [] => false
  | a :: as, b :: bs => if a == b then comesBefore as bs else a < b

/-- The names that lead from a directory to the files below it, in order. -/
def below (f : Files) (p : Path) : List (List String) :=
  let place := p.resolve f.here
  let names := (f.files.filter fun entry => within place entry.1).map fun entry => entry.1.drop place.length
  names.mergeSort comesBefore

end Files

end Conform
