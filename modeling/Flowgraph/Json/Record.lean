import Flowgraph.Json.Document

namespace Flowgraph.Json

abbrev Fields := List (Key × Document)

namespace Document

def fields? : Document → Option Fields
  | .object ms => some ms
  | _ => none

def bool? : Document → Option Bool
  | .bool b => some b
  | _ => none

def string? : Document → Option String
  | .string s => some s
  | _ => none

def items? : Document → Option (List Document)
  | .array ds => some ds
  | _ => none

def intWithin? (least most : Int) : Document → Option Int
  | .number (.int n) => if least ≤ n ∧ n ≤ most then some n else none
  | _ => none

def word? (d : Document) : Option Int :=
  d.intWithin? (-0x8000000000000000) 0x7fffffffffffffff

def nat? (bits : Nat) (d : Document) : Option Nat :=
  (d.intWithin? 0 (Nat.pow 2 bits - 1)).map Int.toNat

/-- An array whose items are all of one kind. -/
def listOf? {α : Type} (item : Document → Option α) (d : Document) : Option (List α) := do
  (← d.items?).mapM item

def object? (d : Document) : Option Members := do
  (← d.fields?) |> members? |>.map Members.ofList

def nullable {α : Type} (read : Document → Option α) : Document → Option (Option α)
  | .null => some none
  | d => (read d).map some

end Document

namespace Fields

/-- The member with a name, which may be absent but not repeated. -/
def member (fs : Fields) (name : String) : Option (Option Document) :=
  match fs.filter (·.1.text = name) with
  | [] => some none
  | [(_, d)] => some (some d)
  | _ => none

def required {α : Type} (fs : Fields) (name : String) (read : Document → Option α) : Option α := do
  read (← (← fs.member name))

/-- A field that stands for a default when absent. -/
def defaulted {α : Type} (fs : Fields) (name : String) (default : α)
    (read : Document → Option α) : Option α := do
  match ← fs.member name with
  | some d => read d
  | none => some default

def optional {α : Type} (fs : Fields) (name : String) (read : Document → Option α) :
    Option (Option α) :=
  fs.defaulted name none (Document.nullable read)

/-- The members that are not declared, read as values. -/
def others (fs : Fields) (declared : List String) : Option Members :=
  (Document.members? (fs.filter fun f => !declared.contains f.1.text)).map Members.ofList

end Fields

/-- The fields of a record that skips what it does not declare. It may also be written as an array
of its first fields in order. -/
def Document.record? (declared : List String) : Document → Option Fields
  | .object ms => some ms
  | .array ds =>
    if ds.length ≤ declared.length then
      some (declared.zipWith (fun name d => (⟨name, true⟩, d)) ds)
    else none
  | _ => none

end Flowgraph.Json
