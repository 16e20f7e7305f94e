import Flowgraph.SortedMap
import Flowgraph.Json.Value

namespace Flowgraph

open Json

/-- Names a node within its graph: a signed word of 64 bits. -/
abbrev NodeId := Int

/-- Names a link within its graph: a signed word of 64 bits. -/
abbrev LinkId := Int

def maxId : Int := 0x7fffffffffffffff

def minId : Int := -0x8000000000000000

/-- The identifier after the last one given out. There is none after the largest word: the program
stops instead. -/
def nextId? (last : Int) : Option Int := if last < maxId then some (last + 1) else none

/-- A connection from an output slot to an input slot. -/
structure Link where
  id : LinkId
  origin : NodeId
  originSlot : Nat
  target : NodeId
  targetSlot : Nat
  /-- The type of the output slot when the link was made. -/
  type : Value
deriving Inhabited, Repr

abbrev LinkTable := SortedMap LinkId Link

end Flowgraph
