import Conform.Json.Value
import Conform.Text.CodePoint
import Conform.Text.Percent
import Conform.Text.Split

/-!
# JSON pointers

A pointer is a sequence of reference tokens.  It has a plain text (`Pointer.text`), where `~` and `/` inside a token
are written `~0` and `~1`, and two forms as a URI fragment, which differ only in whether `$` is left readable.
`Pointer.parse` and `Pointer.ofFragment` read them back; `Pointer.eval` walks a document.
-/

namespace Conform

/-- A location within a document. -/
structure Pointer where
  tokens : List String := []
  deriving DecidableEq, Repr, Inhabited

/-- Why a pointer has no value, or a text is no pointer. -/
inductive PointerFault where
  /-- A text that does not start with a slash. -/
  | malformed (text : CodeText)
  /-- There is nothing at the pointer. -/
  | notFound (pointer : Pointer)
  /-- A token that cannot be the index of an item. -/
  | badIndex (token : String)
  /-- A token of digit signs that is not read as an integer: not all are decimal digits, or there are too many. -/
  | badNumeral (token : String)
  /-- The root lies in nothing. -/
  | noParent
  deriving DecidableEq, Repr

namespace Pointer

/-- The whole document. -/
def root : Pointer := ⟨[]⟩

/-- The location of a part. -/
def child (p : Pointer) (token : String) : Pointer := ⟨p.tokens ++ [token]⟩

/-- The location of an item. -/
def item (p : Pointer) (index : Nat) : Pointer := p.child (toString index)

/-- A location below this one. -/
def append (p q : Pointer) : Pointer := ⟨p.tokens ++ q.tokens⟩

/-- The pointer is that of the whole document. -/
def isRoot (p : Pointer) : Bool := p.tokens.isEmpty

/-- The last token. -/
def last? (p : Pointer) : Option String := p.tokens.getLast?

/-- The location that this one is a part of. -/
def parent (p : Pointer) : Except PointerFault Pointer :=
  if p.isRoot then .error .noParent else .ok ⟨p.tokens.dropLast⟩

/-- The location of the neighbour under another token; beside the root that is a part of it. -/
def sibling (p : Pointer) (token : String) : Pointer := ⟨p.tokens.dropLast ++ [token]⟩

/-! ### Text -/

/-- The written form of a character of a token. -/
def escapeChar (c : Char) : List Char :=
  if c == '~' then ['~', '0'] else if c == '/' then ['~', '1'] else [c]

/-- The written form of a token. -/
def escape (cs : List Char) : List Char := cs.flatMap escapeChar

/-- The token of a written form; a `~` that starts no escape stands for itself. -/
def unescape : List Char → List Char
  | '~' :: '1' :: rest => '/' :: unescape rest
  | '~' :: '0' :: rest => '~' :: unescape rest
  | c :: rest => c :: unescape rest
  | [] => []

/-- The text of a pointer. -/
def text (p : Pointer) : String :=
  String.ofList (p.tokens.flatMap fun t => '/' :: escape t.toList)

/-- The pointer that a text denotes. -/
def parse (text : String) : Except PointerFault Pointer :=
  match text.toList with
  | [] => .ok root
  | '/' :: rest => .ok ⟨(Text.fields '/' rest).map fun t => String.ofList (unescape t)⟩
  | _ => .error (.malformed text)

/-! ### URI fragments -/

/-- A pointer as a URI fragment, with the characters that `keep` names left readable. -/
def fragmentKeeping (keep : Char → Bool) (p : Pointer) : String :=
  String.ofList ('#' :: p.tokens.flatMap fun t => '/' :: Text.Percent.encode keep (escape t.toList))

/-- The pointer as a URI fragment. -/
def fragment (p : Pointer) : String := p.fragmentKeeping fun _ => false

/-- The pointer as a URI fragment with `$` left readable. -/
def schemaFragment (p : Pointer) : String := p.fragmentKeeping (· == '$')

/-- The pointer that a URI fragment denotes, with or without its `#`. -/
def ofFragment (fragment : String) : Except PointerFault Pointer :=
  let body := match fragment.toList with
    | '#' :: rest => rest
    | cs => cs
  parse (String.ofList (Text.Percent.decode body))

/-! ### Evaluation -/

/-- The index that a token names: digit signs without a leading zero. -/
def index? (token : String) : Except PointerFault Nat :=
  let cs := token.toList
  if cs.isEmpty || !cs.all Text.isDigitSign || (1 < cs.length && cs.head? == some '0') then
    .error (.badIndex token)
  else if cs.all Text.isDecimal then .ok (Text.decimalOf cs)
  else .error (.badNumeral token)

/-- The part of a value that one token names; `here` is the location up to and with the token. -/
def step (here : Pointer) (token : String) (v : Value) : Except PointerFault Value :=
  match v with
  | .obj ms =>
    match lookupKey (.str token) ms with
    | some w => .ok w
    | none => .error (.notFound here)
  | .arr vs =>
    match index? token with
    | .error fault => .error fault
    | .ok i =>
      match vs[i]? with
      | some w => .ok w
      -- an index is read before it is looked up; one that is too long to be read lies beyond every array
      | none => .error (if Text.digitLimit < token.length then .badNumeral token else .notFound here)
  | _ => .error (.notFound here)

/-- The value that the tokens lead to from `v`, which lies at `here`. -/
def walk (here : Pointer) : List String → Value → Except PointerFault Value
  | [], v => .ok v
  | t :: ts, v =>
    match step (here.child t) t v with
    | .error fault => .error fault
    | .ok w => walk (here.child t) ts w

/-- The value at a pointer. -/
def eval (p : Pointer) (document : Value) : Except PointerFault Value := walk root p.tokens document

/-- There is a value at the pointer.  A token of digit signs without a value leaves that open. -/
def exists? (p : Pointer) (document : Value) : Except PointerFault Bool :=
  match p.eval document with
  | .ok _ => .ok true
  | .error (.badNumeral t) => .error (.badNumeral t)
  | .error _ => .ok false

end Pointer

/-- What is said of digit signs that are not read as an integer: the decimal digits that come first are counted first. -/
def numeralFault (token : String) : String :=
  let digits := (token.toList.takeWhile Text.isDecimal).length
  if Text.digitLimit < digits then Text.tooLongToRead digits
  else "invalid literal for int() with base 10: " ++ String.ofList ((Text.Quoted.encode token.toList).take 200)

/-- The words for a fault. -/
def PointerFault.message : PointerFault → String
  | .malformed text => "Invalid JSON pointer: " ++ text.quoted
  | .notFound p => "Pointer not found: " ++ p.text
  | .badIndex t => "Invalid array index in pointer: " ++ t
  | .badNumeral t => numeralFault t
  | .noParent => "Root pointer has no parent"

end Conform
