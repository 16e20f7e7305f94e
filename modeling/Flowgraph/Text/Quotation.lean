import Flowgraph.Text.Unseen

namespace Flowgraph

namespace Quotation

def escape (c : Char) : List Char :=
  if c = '"' then ['\\', '"']
  else if c = '\\' then ['\\', '\\']
  else if c = '\n' then ['\\', 'n']
  else if c = '\r' then ['\\', 'r']
  else if c = '\t' then ['\\', 't']
  else if c = '\x00' then ['\\', '0']
  else if isSeen c then [c]
  else '\\' :: 'u' :: '\x7b' :: (Nat.toDigits 16 c.toNat ++ ['\x7d'])

end Quotation

def inQuotes (s : String) : String :=
  String.ofList ('"' :: (s.toList.flatMap Quotation.escape ++ ['"']))

end Flowgraph
