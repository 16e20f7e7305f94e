import Flowgraph.Toml.Scalar

namespace Flowgraph.Toml

/-- How a table came to be, which decides what may extend it. -/
inductive Origin where
  /-- On the way to a header. -/
  | implied
  /-- By a header of its own. -/
  | headed
  /-- On the way to a key with points. -/
  | dotted
deriving DecidableEq, Repr

/-- A member of a table, with the place that it is known by: where its value starts, or its header,
or else its key. -/
structure Member (α : Type) where
  name : String
  place : List Char
  item : α

/-- What a key stands for. -/
inductive Item where
  | text (s : String)
  | integer (n : Int)
  | double (d : Decimal.Double)
  | flag (b : Bool)
  | moment
  | array (items : List Item)
  | inlineTable (members : List (Member Item))
  | table (origin : Origin) (members : List (Member Item))
  /-- Tables under a repeated header, last first. -/
  | tables (items : List (List (Member Item)))

instance : Inhabited Item := ⟨.moment⟩

def Item.kindName : Item → String
  | .text _ => "string"
  | .integer _ => "integer"
  | .double _ => "float"
  | .flag _ => "boolean"
  | .moment => "datetime"
  | .array _ => "array"
  | .inlineTable _ => "inline table"
  | .table .. => "table"
  | .tables _ => "array of tables"

abbrev Table := List (Member Item)

namespace Table

def get? (name : String) (t : Table) : Option (Member Item) := t.find? (·.name = name)

def replace (name : String) (i : Item) (t : Table) : Table :=
  t.map fun m => if m.name = name then { m with item := i } else m

/-- What is said of a key that is defined again, in the table at a path if that is told. -/
def again (name : String) : Option (List String) → String
  | none => "duplicate key " ++ name
  | some [] => "duplicate key " ++ name ++ " in document root"
  | some path => "duplicate key " ++ name ++ " in table " ++ String.intercalate "." path

/-- What is said of a path through a value. -/
def through (path : List String) (i : Item) : String :=
  "dotted key " ++ String.intercalate "." path ++ " attempted to extend non-table type (" ++
    i.kindName ++ ")"

/-- Defines a value at a key with points, of which some parts are behind. The table that takes the
value must have been made by such keys, unless the key starts from it. -/
def define (header : Option (List String)) (place : List Char) (i : Item) :
    List String → Origin → List Key → Table → Except String Table
  | _, _, [], t => .ok t
  | done, origin, [k], t =>
    if !done.isEmpty ∧ origin ≠ .dotted then .error (again k.text none)
    else if (t.get? k.text).isSome then .error (again k.text header)
    else .ok (t ++ [⟨k.text, place, i⟩])
  | done, _, k :: ks, t =>
    let done := done ++ [k.text]
    match (t.get? k.text).map (·.item) with
    | none => do
      let inner ← define header place i done .dotted ks []
      pure (t ++ [⟨k.text, k.place, .table .dotted inner⟩])
    | some (.table .headed _) => .error (again k.text none)
    | some (.table origin inner) => do
      pure (t.replace k.text (.table origin (← define header place i done origin ks inner)))
    | some (.tables (last :: earlier)) => do
      let last ← define header place i done .headed ks last
      pure (t.replace k.text (.tables (last :: earlier)))
    | some (.inlineTable ms) =>
      .error (if header.isNone then again k.text none else through done (.inlineTable ms))
    | some other => .error (through done other)

/-- Changes the table at the end of a path of headers, of which some parts are behind. -/
def under (f : Table → Except String Table) :
    List String → List Key → Table → Except String Table
  | _, [], t => f t
  | done, k :: ks, t =>
    let done := done ++ [k.text]
    match (t.get? k.text).map (·.item) with
    | none => do
      let inner ← under f done ks []
      pure (t ++ [⟨k.text, k.place, .table .implied inner⟩])
    | some (.table origin inner) => do
      pure (t.replace k.text (.table origin (← under f done ks inner)))
    | some (.tables (last :: earlier)) => do
      let last ← under f done ks last
      pure (t.replace k.text (.tables (last :: earlier)))
    | some other => .error (through done other)

/-- Opens a table by its header. A table on the way to another one moves to the end. -/
def openHeaded (place : List Char) (path : List String) (k : Key) (t : Table) :
    Except String Table :=
  match (t.get? k.text).map (·.item) with
  | none => .ok (t ++ [⟨k.text, place, .table .headed []⟩])
  | some (.table .implied inner) =>
    .ok (t.filter (·.name ≠ k.text) ++ [⟨k.text, place, .table .headed inner⟩])
  | some _ => .error (again k.text (some path))

def openNext (place : List Char) (path : List String) (k : Key) (t : Table) :
    Except String Table :=
  match (t.get? k.text).map (·.item) with
  | none => .ok (t ++ [⟨k.text, place, .tables [[]]⟩])
  | some (.tables ts) => .ok (t.replace k.text (.tables ([] :: ts)))
  | some _ => .error (again k.text (some path))

end Table

end Flowgraph.Toml
