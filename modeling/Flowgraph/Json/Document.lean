import Flowgraph.Json.Value

namespace Flowgraph.Json

/-- A key as written, and whether it is written without escapes. -/
structure Key where
  text : String
  plain : Bool
deriving DecidableEq, Repr, Inhabited

/-- The syntax tree of a JSON text. -/
inductive Document where
  /-- A part that can be skipped and not read: a lone surrogate, a number beyond the doubles,
  nesting beyond the limit. -/
  | unreadable
  | null
  | bool (b : Bool)
  | number (n : Number)
  | string (s : String)
  | array (items : List Document)
  | object (members : List (Key × Document))
deriving Inhabited, Repr

namespace Document

mutual

def value? : Document → Option Value
  | .unreadable => none
  | .null => some .null
  | .bool b => some (.bool b)
  | .number n => some (.number n)
  | .string s => some (.string s)
  | .array items => (values? items).map .array
  | .object members => (members? members).map fun ms => .object (Members.ofList ms)

def values? : List Document → Option (List Value)
  | [] => some []
  | d :: rest => do
    let v ← value? d
    let vs ← values? rest
    some (v :: vs)

/-- The members of an object, repeated keys included. -/
def members? : List (Key × Document) → Option Members
  | [] => some []
  | (k, d) :: rest => do
    let v ← value? d
    let ms ← members? rest
    some ((k.text, v) :: ms)

end

end Document

namespace Value

mutual

def toDocument : Value → Document
  | .null => .null
  | .bool b => .bool b
  | .number n => .number n
  | .string s => .string s
  | .array items => .array (toDocuments items)
  | .object members => .object (toMembers members)

def toDocuments : List Value → List Document
  | [] => []
  | v :: rest => toDocument v :: toDocuments rest

/-- The members of an object, spelled out. -/
def toMembers : List (String × Value) → List (Key × Document)
  | [] => []
  | (k, v) :: rest => (⟨k, true⟩, toDocument v) :: toMembers rest

end

end Value

end Flowgraph.Json
