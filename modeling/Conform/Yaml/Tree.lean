import Conform.Yaml.Tag
import Conform.Yaml.Token

/-!
# Trees

A YAML document as a tree of tagged nodes.  `Tree.ofTokens` reads it by the grammar, one function to each kind of
collection, and puts in the place of an alias the node that carries its anchor.
-/

namespace Conform.Yaml

/-- A node of a document. -/
inductive Tree where
  | scalar (tag : Tag) (text : String)
  | sequence (tag : Tag) (items : List Tree)
  | mapping (tag : Tag) (pairs : List (Tree × Tree))
  deriving Repr

/-- The tag of a node. -/
def Tree.tag : Tree → Tag
  | .scalar tag _ => tag
  | .sequence tag _ => tag
  | .mapping tag _ => tag

/-- The node of a place where none is written. -/
def Tree.empty : Tree := .scalar .null ""

/-- The state of reading. -/
structure Reading where
  /-- The tokens that are left. -/
  tokens : List Token
  /-- What the handles of tags stand for. -/
  handles : List (String × String) := [("!", "!"), ("!!", Tag.namespaceName)]
  /-- The nodes with anchors; one that is still being read has none yet. -/
  anchors : List (String × Option Tree) := []

/-- Reading nodes. -/
abbrev Grammar := StateT Reading (Except Fault)

namespace Grammar

/-- The next token. -/
def peek : Grammar (Option Token) := return (← get).tokens.head?

/-- Passes over a token. -/
def pass : Grammar Unit := modify fun s => { s with tokens := s.tokens.drop 1 }

/-- The next token is one of those. -/
def nextIs (among : List Token) : Grammar Bool := return (← peek).any among.contains

/-- Passes over the token if it is next. -/
def accept (t : Token) : Grammar Bool := do
  if ← nextIs [t] then
    pass
    return true
  else return false

/-- Passes over the token, which must be next. -/
def expect (t : Token) : Grammar Unit := do
  if !(← accept t) then throw .unexpected

/-- Reads an anchor, if there is one. -/
def anchor? : Grammar (Option String) := do
  match ← peek with
  | some (.anchor name) => pass; return some name
  | _ => return none

/-- Reads a tag, if there is one, and gives its full name. -/
def tag? : Grammar (Option String) := do
  match ← peek with
  | some (.tag ⟨none, suffix⟩) => pass; return some suffix
  | some (.tag ⟨some handle, suffix⟩) =>
    pass
    match (← get).handles.lookup handle with
    | some start => return some (start ++ suffix)
    | none => throw .undefinedHandle
  | _ => return none

/-- Reads an anchor and a tag, in either order. -/
def properties : Grammar (Option String × Option String) := do
  match ← anchor? with
  | some name => return (some name, ← tag?)
  | none =>
    match ← tag? with
    | some tag => return (← anchor?, some tag)
    | none => return (none, none)

/-- The node that an alias stands for. -/
def ofAlias (name : String) : Grammar Tree := do
  match (← get).anchors.lookup name with
  | some (some tree) => return tree
  | some none => throw .recursiveAlias
  | none => throw .undefinedAlias

/-- Reads a node under an anchor, if it has one. -/
def anchored (anchor : Option String) (node : Grammar Tree) : Grammar Tree := do
  match anchor with
  | none => node
  | some name =>
    if ((← get).anchors.lookup name).isSome then throw .duplicateAnchor
    modify fun s => { s with anchors := (name, none) :: s.anchors }
    let tree ← node
    modify fun s => { s with anchors := (name, some tree) :: s.anchors }
    return tree

/-- The tag of a collection. -/
def collectionTag (written : Option String) (default : Tag) : Tag :=
  match written with
  | none => default
  | some "!" => default
  | some name => .ofName name

/-- The tag of a scalar. -/
def scalarTag (written : Option String) (plain : Bool) (text : String) : Tag :=
  match written with
  | none => if plain then .ofPlain text else .str
  | some "!" => .ofPlain text
  | some name => .ofName name

mutual

/-- Reads a node.  A block collection is allowed on request, and so is a sequence that is not indented. -/
def node (blocks indentless : Bool) : Nat → Grammar Tree
  | 0 => throw .unexpected
  | fuel + 1 => do
    match ← peek with
    | some (.alias name) =>
      pass
      ofAlias name
    | _ =>
      let (anchor, tag) ← properties
      anchored anchor (content blocks indentless (anchor.isSome || tag.isSome) tag fuel)

/-- Reads what follows the properties of a node. -/
def content (blocks indentless named : Bool) (tag : Option String) : Nat → Grammar Tree
  | 0 => throw .unexpected
  | fuel + 1 => do
    let next ← peek
    if indentless && next == some .entry then
      return .sequence (collectionTag tag .seq) (← indentlessItems fuel [])
    match next with
    | some (.scalar plain text) =>
      pass
      return .scalar (scalarTag tag plain text) text
    | some .flowSequence =>
      pass
      return .sequence (collectionTag tag .seq) (← flowItems true fuel [])
    | some .flowMapping =>
      pass
      return .mapping (collectionTag tag .map) (← flowPairs true fuel [])
    | next =>
      if blocks && next == some .blockSequence then
        pass
        return .sequence (collectionTag tag .seq) (← blockItems fuel [])
      else if blocks && next == some .blockMapping then
        pass
        return .mapping (collectionTag tag .map) (← blockPairs fuel [])
      else if named then return .scalar (scalarTag tag true "") ""
      else throw .unexpected

/-- Reads a node unless one of the tokens is next. -/
def nodeUnless (ends : List Token) (blocks indentless : Bool) : Nat → Grammar Tree
  | 0 => throw .unexpected
  | fuel + 1 => do
    if ← nextIs ends then return Tree.empty
    else node blocks indentless fuel

/-- Reads the items of a block sequence. -/
def blockItems : Nat → List Tree → Grammar (List Tree)
  | 0, _ => throw .unexpected
  | fuel + 1, done => do
    if ← accept .entry then
      let item ← nodeUnless [.entry, .blockEnd] true false fuel
      blockItems fuel (item :: done)
    else
      expect .blockEnd
      return done.reverse

/-- Reads the items of a sequence that is not indented. -/
def indentlessItems : Nat → List Tree → Grammar (List Tree)
  | 0, _ => throw .unexpected
  | fuel + 1, done => do
    if ← accept .entry then
      let item ← nodeUnless [.entry, .key, .value, .blockEnd] true false fuel
      indentlessItems fuel (item :: done)
    else return done.reverse

/-- Reads the pairs of a block mapping. -/
def blockPairs : Nat → List (Tree × Tree) → Grammar (List (Tree × Tree))
  | 0, _ => throw .unexpected
  | fuel + 1, done => do
    if ← accept .key then
      let key ← nodeUnless [.key, .value, .blockEnd] true true fuel
      let value ←
        if ← accept .value then nodeUnless [.key, .value, .blockEnd] true true fuel
        else pure Tree.empty
      blockPairs fuel ((key, value) :: done)
    else
      expect .blockEnd
      return done.reverse

/-- Reads the items of a flow sequence.  A key among them makes a mapping of a single pair. -/
def flowItems (first : Bool) : Nat → List Tree → Grammar (List Tree)
  | 0, _ => throw .unexpected
  | fuel + 1, done => do
    if ← accept .flowSequenceEnd then return done.reverse
    if !first then expect .flowEntry
    if ← accept .key then
      let key ← nodeUnless [.value, .flowEntry, .flowSequenceEnd] false false fuel
      let value ←
        if ← accept .value then nodeUnless [.flowEntry, .flowSequenceEnd] false false fuel
        else pure Tree.empty
      flowItems false fuel (.mapping .map [(key, value)] :: done)
    else if ← accept .flowSequenceEnd then return done.reverse
    else
      let item ← node false false fuel
      flowItems false fuel (item :: done)

/-- Reads the pairs of a flow mapping. -/
def flowPairs (first : Bool) : Nat → List (Tree × Tree) → Grammar (List (Tree × Tree))
  | 0, _ => throw .unexpected
  | fuel + 1, done => do
    if ← accept .flowMappingEnd then return done.reverse
    if !first then expect .flowEntry
    if ← accept .key then
      let key ← nodeUnless [.value, .flowEntry, .flowMappingEnd] false false fuel
      let value ←
        if ← accept .value then nodeUnless [.flowEntry, .flowMappingEnd] false false fuel
        else pure Tree.empty
      flowPairs false fuel ((key, value) :: done)
    else if ← accept .flowMappingEnd then return done.reverse
    else
      let key ← node false false fuel
      flowPairs false fuel ((key, Tree.empty) :: done)

end

/-! ### Documents -/

/-- Reads the directives before a document: whether there was one of the version, and the handles. -/
def directives : Nat → Bool → List (String × String) → Grammar (List (String × String))
  | 0, _, _ => throw .unexpected
  | fuel + 1, versioned, handles => do
    match ← peek with
    | some (.versionDirective major) =>
      pass
      if versioned then throw .duplicateDirective
      if major != 1 then throw .version
      directives fuel true handles
    | some (.tagDirective handle start) =>
      pass
      if (handles.lookup handle).isSome then throw .duplicateDirective
      directives fuel versioned ((handle, start) :: handles)
    | some .otherDirective =>
      pass
      directives fuel versioned handles
    | _ => return handles

/-- The token is one of those between documents. -/
def isBetween : Token → Bool
  | .versionDirective _ | .tagDirective _ _ | .otherDirective | .documentStart | .documentEnd => true
  | _ => false

/-- Passes over the marks that end documents. -/
def passEnds : Grammar Unit := modify fun s => { s with tokens := s.tokens.dropWhile (· == .documentEnd) }

/-- Reads the only document, if there is one. -/
def document (fuel : Nat) : Grammar (Option Tree) := do
  match ← peek with
  | none => return none
  | some t =>
    let tree ←
      if isBetween t && t != .documentEnd then do
        let handles ← directives fuel false []
        modify fun s => { s with handles := handles ++ s.handles }
        expect .documentStart
        if (← peek).all isBetween then pure Tree.empty
        else node true false fuel
      else node true false fuel
    passEnds
    if (← peek).isSome then throw .severalDocuments
    return some tree

end Grammar

/-- The only document of a text, if there is one. -/
def Tree.ofTokens (tokens : List Token) : Except Fault (Option Tree) :=
  ((Grammar.document (4 * tokens.length + 8)).run { tokens }).map (·.1)

end Conform.Yaml
