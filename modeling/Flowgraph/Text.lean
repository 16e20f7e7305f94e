namespace Flowgraph

def isMarkup (c : Char) : Bool :=
  c = '&' || c = '<' || c = '>' || c = '"' || c = '\'' || c = '\x60' || c = '='

/-- A name without the characters that are unsafe in markup. -/
def sanitize (name : String) : String := String.ofList (name.toList.filter (!isMarkup ·))

def mentions (word : List Char) : List Char → Bool
  | [] => word.isEmpty
  | c :: rest => word.isPrefixOf (c :: rest) || mentions word rest

def trimSlashes (s : String) : String :=
  String.ofList (s.toList.reverse.dropWhile (· = '/')).reverse

end Flowgraph
