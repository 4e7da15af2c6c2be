import Conform.Network.Nameprep
import Conform.Network.Punycode

/-!
# Host names

A host name is a row of labels between dots: letters, digits and inner hyphens, at most 63 to a label and 253 in
all, possibly with a dot at the end.  An internationalized one is a host name once its labels have been prepared
and encoded (`asciiName?`).
-/

namespace Conform.Network

/-- A letter or digit of a label. -/
def isLabelEnd (c : Char) : Bool := c.isAlphanum

/-- A character of a label. -/
def isLabelChar (c : Char) : Bool := c.isAlphanum || c == '-'

/-- A label: at most 63 characters, of which neither the first nor the last is a hyphen. -/
def isLabel (cs : List Char) : Bool :=
  cs.length ≤ 63 && cs.all isLabelChar && cs.head?.any isLabelEnd && cs.getLast?.any isLabelEnd

/-- The text of a host name.  A line break may end a label. -/
def isHostname (cs : List Char) : Bool :=
  let name := if cs.getLast? == some '.' then cs.dropLast else cs
  !cs.isEmpty && cs.length ≤ 253 && (Text.fields '.' name).all fun label => isLabel (Text.dropFinalBreak label)

/-! ### Internationalized names -/

/-- The dots that separate labels. -/
def isDot (c : Char) : Bool := [0x2E, 0x3002, 0xFF0E, 0xFF61].contains c.toNat

/-- The text is ASCII. -/
def isAscii (cs : List Char) : Bool := cs.all (·.toNat < 128)

/-- A label of a length that can be stored. -/
def sized? (label : List Char) : Option (List Char) :=
  if label.isEmpty || 64 ≤ label.length then none else some label

/-- What marks an encoded label. -/
def encodedMark : List Char := "xn--".toList

/-- The ASCII form of a label. -/
def asciiLabel? (label : List Char) : Option (List Char) :=
  if isAscii label then sized? label
  else
    (Nameprep.prepare? label).bind fun label =>
      if isAscii label then sized? label
      else if encodedMark.isPrefixOf label then none
      else sized? (encodedMark ++ Punycode.encode label)

/-- The ASCII form of a name that is ASCII already: only the last label may be empty. -/
def sizedName? (cs : List Char) : Option (List Char) :=
  let labels := Text.fields '.' cs
  let fits := labels.dropLast.all (fun label => (sized? label).isSome) &&
    labels.getLast?.all fun label => label.length < 64
  if fits then some cs else none

/-- The ASCII form of a name. -/
def asciiName? (cs : List Char) : Option (List Char) :=
  if cs.isEmpty then some []
  else if isAscii cs then sizedName? cs
  else
    let labels := Text.fields '.' (cs.map fun c => if isDot c then '.' else c)
    let ends := labels.getLast? == some []
    let labels := if ends then labels.dropLast else labels
    (labels.mapM asciiLabel?).map fun labels => Text.join '.' labels ++ (if ends then ['.'] else [])

/-- The text of an internationalized host name. -/
def isInternationalHostname (cs : List Char) : Bool :=
  match asciiName? cs with
  | some name => isHostname name
  | none => false

end Conform.Network
