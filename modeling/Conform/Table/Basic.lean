import Conform.Failure
import Conform.Schema.Findings
import Conform.Table.Column
import Conform.Table.Instant

/-!
# Tables

A table has named columns and an index, which has a value for each row.  `Table.records` are the rows as objects;
`Table.findings` evaluates a node on each of them.

A table that is read from a text has the row numbers for its index, unless its rows have more fields than there are
names: then the columns in front, those without a name, are the index.
-/

namespace Conform

/-- A table. -/
structure Table where
  /-- The value that stands for each row. -/
  index : List Value
  columns : List (String × List Value)
  deriving Repr

namespace Table

/-! ### Names -/

/-- A name with a number. -/
def numbered (name : String) (k : Nat) : String := name ++ "." ++ toString k

/-- The first number, from `k` on, with which the name is none of those there are; among the first `limit`
numbers. -/
def freeNumber (names : List String) (name : String) (k : Nat) : Nat → Nat
  | 0 => k
  | limit + 1 => if names.contains (numbered name k) then freeNumber names name (k + 1) limit else k

/-- Names told apart, and how often each has been used. -/
structure Naming where
  names : List String
  uses : List (String × Nat) := []

/-- Tells the name at a place apart from those before it: one in use gets a number. -/
def Naming.settle (n : Naming) (i : Nat) : Naming :=
  let name := n.names[i]?.getD ""
  let used := (n.uses.lookup name).getD 0
  if used == 0 then { n with uses := (name, 1) :: n.uses }
  else
    let k := freeNumber n.names name used n.names.length
    ⟨n.names.set i (numbered name k), (numbered name k, 1) :: (name, k + 1) :: n.uses⟩

/-- The names of columns that have the given fields for a header.  A column without a name is named by its place;
names that are given are told apart first. -/
def columnNames (header : List Csv.Field) : List String :=
  let places := List.range header.length
  let isGiven (i : Nat) : Bool := (header[i]?.getD []) != []
  let names := (header.zip places).map fun (f, i) =>
    if f.isEmpty then "Unnamed: " ++ toString i else String.ofList f
  ((places.filter isGiven ++ places.filter fun i => !isGiven i).foldl Naming.settle ⟨names, []⟩).names

/-! ### Making tables -/

/-- The row numbers. -/
def numbers (rows : Nat) : List Value := (List.range rows).map fun (i : Nat) => Value.int i

/-- The columns of fields that stand in rows. -/
def fieldColumns (width : Nat) (rows : List (List Csv.Field)) : List (List Value) :=
  (List.range width).map fun i => Column.ofFields (rows.map fun row => row[i]?.getD [])

/-- The index that columns make: a value of the only one, or the values of all. -/
def indexOf (rows : Nat) (columns : List (List Value)) : List Value :=
  match columns with
  | [] => numbers rows
  | [column] => column
  | columns => (List.range rows).map fun i => .arr (columns.map fun column => column[i]?.getD .null)

/-- The table in a text of comma-separated values. -/
def ofCsv (cs : List Char) : Except TableFault Table := do
  let (header, rows) ← Csv.read cs
  let width := (rows.head?.map List.length).getD header.length
  let columns := fieldColumns width rows
  let leading := width - header.length
  return ⟨indexOf rows.length (columns.take leading), (columnNames header).zip (columns.drop leading)⟩

/-- The table with the given columns, and the given index or the row numbers. -/
def ofColumns (columns : List (String × List Value)) (index : Option (List Value)) : Except TableFault Table :=
  let rows := (columns.head?.map (·.2.length)).getD 0
  let table (index : List Value) : Table := ⟨index, columns.map fun c => (c.1, Column.ofValues c.2)⟩
  match index with
  | none => if columns.any (·.2.length != rows) then .error .unevenColumns else .ok (table (numbers rows))
  | some index =>
    match columns.find? (·.2.length != index.length) with
    | some column => .error (.unevenIndex column.2.length index.length)
    | none => .ok (table (Column.ofValues index))

/-- The point in time that a value tells, as a text. -/
def instant : Value → Except TableFault Value
  | .str s =>
    match Instant.ofText? s.toList with
    | some i => .ok (.str i.text)
    | none => .error (.notInstant s)
  | _ => .ok .null

/-- The table with points in time in the columns of the given names. -/
def withInstants (t : Table) (names : List String) : Except TableFault Table := do
  let columns ← t.columns.mapM fun (name, values) =>
    if names.contains name then return (name, ← values.mapM instant) else return (name, values)
  return { t with columns }

/-! ### Rows -/

mutual

/-- A value as a record tells it: doubles as numerals, and none where there is no finite number. -/
def told : Value → Value
  | .num (.dbl x) =>
    match x.toPlaces? with
    | some d => .num (.dec d)
    | none => .null
  | .scalar s => .scalar s
  | .arr vs => .arr (toldItems vs)
  | .obj ms => .obj (toldMembers ms)
  | .set es => .set es

/-- Items as a record tells them. -/
def toldItems : List Value → List Value
  | [] => []
  | v :: vs => told v :: toldItems vs

/-- Members as a record tells them. -/
def toldMembers : List (Scalar × Value) → List (Scalar × Value)
  | [] => []
  | (k, v) :: ms => (k, told v) :: toldMembers ms

end

/-- A row as an object. -/
def record (t : Table) (i : Nat) : Value :=
  .ofPairs (t.columns.map fun (name, values) => (name, told (values[i]?.getD .null)))

/-- The rows as objects. -/
def records (t : Table) : List Value := (List.range t.index.length).map t.record

/-- What a node finds wrong with each row. -/
def findings (node : Node) (t : Table) : Except Failure (List (List Entry)) :=
  t.records.mapM fun r => ((node.findings r .root .root).map (·.entries)).mapError .ofEval

end Table

end Conform
