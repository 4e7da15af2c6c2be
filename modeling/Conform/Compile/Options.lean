import Conform.Source.Loader

/-!
# Options

What a compilation does beside compiling.  Options are read from the members of an object, which may be the
content of a file.
-/

namespace Conform

/-- What a compilation does beside compiling. -/
structure Options where
  /-- A description may refer to a text elsewhere. -/
  descriptionReferences : Bool := false
  /-- The examples of a schema are checked against it. -/
  checkExamples : Bool := false
  /-- The default of a schema is checked against it. -/
  checkDefaults : Bool := false
  deriving DecidableEq, Repr

namespace Options

/-- The names of the options. -/
def names : List String := ["allow_description_ref", "validate_examples", "validate_default"]

/-- The names of members that are no options, in order. -/
def unknown (members : List (String × Value)) : List String :=
  ((members.map (·.1)).filter fun name => !names.contains name).mergeSort (· ≤ ·)

/-- The first member that is neither on nor off. -/
def notBoolean? (members : List (String × Value)) : Option String :=
  (members.find? fun m => !(m.2 matches .bool _)).map (·.1)

/-- The option of this name is on. -/
def isOn (members : List (String × Value)) (name : String) : Bool :=
  match members.lookup name with
  | some (.bool b) => b
  | _ => false

/-- The options that the members of an object set. -/
def ofMembers (members : List (String × Value)) : Except Failure Options :=
  if !(unknown members).isEmpty then .error (.unknownOptions (unknown members))
  else
    match notBoolean? members with
    | some name => .error (.optionNotBoolean name)
    | none =>
      .ok ⟨isOn members "allow_description_ref", isOn members "validate_examples", isOn members "validate_default"⟩

/-- The members of an object whose keys are texts. -/
def textMembers (members : List (Scalar × Value)) : List (String × Value) :=
  members.filterMap fun
    | (.str name, value) => some (name, value)
    | _ => none

/-- The options in the text of a file. -/
def ofText (path : String) (cs : List Char) : Except Failure Options :=
  match Json.read .double (Text.unifyBreaks cs) with
  | .error e => .error (.json path e)
  | .ok (.obj members) => ofMembers (textMembers members)
  | .ok _ => .error (.optionsNotObject path)

/-- The options in the file at a path. -/
def load (w : World) (p : Path) : Loading Options := do
  Loader.consult (.path p)
  match w.files.read p with
  | .error .missing => throw (.missingOptions p.text)
  | .error fault => throw (.file p.text fault)
  | .ok bytes =>
    match ((Text.Utf8.decode bytes).mapError Failure.utf8).bind (ofText p.text) with
    | .ok options => return options
    | .error e => throw e

/-- The options that are on in one or the other. -/
def union (a b : Options) : Options where
  descriptionReferences := a.descriptionReferences || b.descriptionReferences
  checkExamples := a.checkExamples || b.checkExamples
  checkDefaults := a.checkDefaults || b.checkDefaults

end Options

end Conform
