namespace Flowgraph.Yaml

/-- A place in a text: its line and column, counted from zero, and the bytes before it. -/
structure Mark where
  line : Nat := 0
  column : Nat := 0
  bytes : Nat := 0
deriving DecidableEq, Repr, Inhabited

/-- Whether a place is told apart from the start of a text. -/
def Mark.isPastStart (m : Mark) : Bool := m.line ≠ 0 || m.column ≠ 0

def Mark.describe (m : Mark) : String := s!"line {m.line + 1} column {m.column + 1}"

/-- What is wrong with a text, where, and what was being read from where. A character that may not
occur is placed by the bytes before it. -/
structure Fault where
  problem : String
  mark : Mark := {}
  offset : Nat := 0
  context : Option (String × Mark) := none
deriving Repr, Inhabited

/-- The wording of a fault. The start of a text is not mentioned, and neither is the place of the
context where it is that of the problem. -/
def Fault.message (f : Fault) : String :=
  let place :=
    if f.mark.isPastStart then " at " ++ f.mark.describe
    else if f.offset ≠ 0 then s!" at position {f.offset}" else ""
  let context := match f.context with
    | none => ""
    | some (what, mark) =>
      let apart := mark.line ≠ f.mark.line ∨ mark.column ≠ f.mark.column
      ", " ++ what ++ if mark.isPastStart ∧ apart then " at " ++ mark.describe else ""
  f.problem ++ place ++ context

/-- Whether a character is a blank inside a line. -/
def isBlank (c : Char) : Bool := c = ' ' || c = '\t'

def isBreak (c : Char) : Bool :=
  c = '\n' || c = '\r' || c = '\u0085' || c = '\u2028' || c = '\u2029'

def isGap (c : Char) : Bool := isBlank c || isBreak c

def endsWord (next : Option Char) : Bool := next.all isGap

def isNameChar (c : Char) : Bool := c.isAlphanum || c = '_' || c = '-'

/-- Whether a character may occur in a text at all. -/
def isAllowed (c : Char) : Bool :=
  let n := c.toNat
  n = 0x09 || n = 0x0a || n = 0x0d || (0x20 ≤ n && n ≤ 0x7e) || n = 0x85 ||
    (0xa0 ≤ n && n ≤ 0xd7ff) || (0xe000 ≤ n && n ≤ 0xfffd) || 0x10000 ≤ n

/-- A place in a text with the text from there on. -/
structure Cursor where
  rest : List Char
  mark : Mark := {}
deriving Inhabited

namespace Cursor

def next (c : Cursor) : Option Char := c.rest.head?

def second (c : Cursor) : Option Char := c.rest[1]?

def isAt (p : Char → Bool) (c : Cursor) : Bool := c.next.any p

/-- Goes on by so many characters of the same line. -/
def advance : Nat → Cursor → Cursor
  | n + 1, ⟨x :: rest, m⟩ =>
    advance n ⟨rest, { m with column := m.column + 1, bytes := m.bytes + x.utf8Size }⟩
  | _, c => c

/-- The characters of the same line up to the first without a property, and the place of that. -/
def span (p : Char → Bool) (c : Cursor) : List Char × Cursor :=
  let s := c.rest.takeWhile p
  (s, c.advance s.length)

/-- Goes on to the first character without a property. -/
def skip (p : Char → Bool) (c : Cursor) : Cursor := (c.span p).2

/-- The text that the line end here stands for, and the start of the next line. The separators of
lines and paragraphs stand for themselves and all else for a line feed. -/
def lineEnd? (c : Cursor) : Option (List Char × Cursor) :=
  let below (bytes : Nat) : Mark := ⟨c.mark.line + 1, 0, c.mark.bytes + bytes⟩
  match c.rest with
  | '\r' :: '\n' :: rest => some (['\n'], ⟨rest, below 2⟩)
  | x :: rest =>
    if x = '\u2028' ∨ x = '\u2029' then some ([x], ⟨rest, below x.utf8Size⟩)
    else if isBreak x then some (['\n'], ⟨rest, below x.utf8Size⟩)
    else none
  | [] => none

/-- Goes to the next line from the end of this one. -/
def nextLine (c : Cursor) : Cursor := (c.lineEnd?.map (·.2)).getD c

/-- Passes over a mark of the byte order where it starts a line. It takes up a column. -/
def skipOrderMark (c : Cursor) : Cursor :=
  if c.mark.column = 0 ∧ c.next = some '\ufeff' then c.advance 1 else c

/-- Goes on to the end of the line where a comment starts here. -/
def skipComment (c : Cursor) : Cursor := if c.next = some '#' then c.skip (!isBreak ·) else c

/-- Whether the start or the end of a document is marked here. -/
def isAtMarker (mark : Char) (c : Cursor) : Bool :=
  c.mark.column = 0 && c.rest.take 3 = [mark, mark, mark] && endsWord c.rest[3]?

def isAtBoundary (c : Cursor) : Bool := c.isAtMarker '-' || c.isAtMarker '.'

end Cursor

/-- The first character of a text that may not occur, by the bytes before it. -/
def forbidden? (bytes : Nat) : List Char → Option Nat
  | [] => none
  | c :: rest => if isAllowed c then forbidden? (bytes + c.utf8Size) rest else some bytes

def Cursor.ofText (s : String) : Except Fault Cursor :=
  match forbidden? 0 s.toList with
  | some offset => .error { problem := "control characters are not allowed", offset }
  | none => .ok { rest := s.toList }

end Flowgraph.Yaml
