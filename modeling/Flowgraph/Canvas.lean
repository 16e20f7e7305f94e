import Flowgraph.Graph.Link

namespace Flowgraph

/-- Sets of node ids, ascending. -/
abbrev IdSet := SortedMap NodeId Unit

namespace IdSet

def add (s : IdSet) (id : NodeId) : IdSet := s.insert id ()

/-- The ids, ascending. -/
def ids (s : IdSet) : List NodeId := s.keys

end IdSet

/-- A canvas without a display. -/
structure Canvas where
  selected : IdSet := .empty
  centered : Option NodeId := none
  redraws : Nat := 0
  notices : List String := []
deriving Inhabited

namespace Canvas

def center (c : Canvas) (id : NodeId) : Canvas := { c with centered := some id }

def select (c : Canvas) (id : NodeId) : Canvas := { c with selected := c.selected.add id }

def clearSelection (c : Canvas) : Canvas := { c with selected := .empty }

def redraw (c : Canvas) : Canvas := { c with redraws := c.redraws + 1 }

def inform (c : Canvas) (notice : String) : Canvas := { c with notices := c.notices ++ [notice] }

end Canvas

end Flowgraph
