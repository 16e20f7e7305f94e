import Flowgraph.Json.Number

namespace Flowgraph.Json

/-- A JSON value. -/
inductive Value where
  | null
  | bool (b : Bool)
  | number (n : Number)
  | string (s : String)
  | array (items : List Value)
  | object (members : List (String × Value))
deriving Inhabited, Repr

abbrev Members := List (String × Value)

namespace Members

def get? (k : String) : Members → Option Value
  | [] => none
  | (k', v) :: rest => if k' = k then some v else get? k rest

def has (k : String) (ms : Members) : Bool := (get? k ms).isSome

/-- Writes a member: a known key keeps its place, a new one goes last. -/
def put (k : String) (v : Value) : Members → Members
  | [] => [(k, v)]
  | (k', v') :: rest => if k' = k then (k', v) :: rest else (k', v') :: put k v rest

def putAll (ms added : Members) : Members := added.foldl (fun ms m => put m.1 m.2 ms) ms

/-- The members of an object whose text lists `ms`: a repeated key keeps its first place and takes
its last value. -/
def ofList (ms : Members) : Members := putAll [] ms

/-- Removes a member; the last member moves into its place. -/
def erase (k : String) : Members → Members
  | [] => []
  | (k', v) :: rest =>
    if k' = k then
      match rest.getLast? with
      | none => []
      | some last => last :: rest.dropLast
    else (k', v) :: erase k rest

end Members

namespace Value

def ofInt (n : Int) : Value := .number (.int n)

def get? (k : String) : Value → Option Value
  | .object ms => Members.get? k ms
  | _ => none

def string? : Value → Option String
  | .string s => some s
  | _ => none

end Value

end Flowgraph.Json
