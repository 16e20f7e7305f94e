import Flowgraph.Json.Reader
import Flowgraph.Yaml.Text

namespace Flowgraph.Yaml

/-- How a scalar is written. -/
inductive Style where
  | plain
  | single
  | double
  | literal
  | folded
deriving DecidableEq, Repr, Inhabited

/-- What stands between two words of a scalar: blanks, or line ends, around which blanks do not
count. -/
structure Gap where
  blanks : List Char := []
  /-- The first line end. It is absent behind an escaped one. -/
  first : List Char := []
  more : List Char := []
  broken : Bool := false

namespace Gap

def text (g : Gap) : List Char :=
  if !g.broken then g.blanks
  else if g.first = ['\n'] then if g.more.isEmpty then [' '] else g.more
  else g.first ++ g.more

def addBreak (g : Gap) (e : List Char) : Gap :=
  if g.broken then { g with more := g.more ++ e } else { first := e, broken := true }

def addBlank (g : Gap) (c : Char) : Gap :=
  if g.broken then g else { g with blanks := g.blanks ++ [c] }

/-- Reads a gap to its end. On later lines no tab may stand before a column. -/
def read (least : Nat) (context : String × Mark) : Nat → Gap → Cursor → Except Fault (Gap × Cursor)
  | 0, g, c => .ok (g, c)
  | fuel + 1, g, c =>
    match c.lineEnd?, c.next with
    | some (e, below), _ => read least context fuel (g.addBreak e) below
    | none, some x =>
      if !isBlank x then .ok (g, c)
      else if g.broken ∧ x = '\t' ∧ c.mark.column < least then
        .error ⟨"found a tab character that violates indentation", c.mark, 0, some context⟩
      else read least context fuel (g.addBlank x) (c.advance 1)
    | none, none => .ok (g, c)

end Gap

/-- Whether a character belongs to the collections in brackets. -/
def isFlowMark (c : Char) : Bool := ",[]\x7b\x7d".toList.contains c

/-- Whether a colon stands where no plain scalar in brackets may have one. -/
def isMisplacedColon : List Char → Bool
  | ':' :: c :: _ => ",?[]\x7b\x7d".toList.contains c
  | _ => false

/-- The length of the word of a plain scalar that starts here. -/
def plainLength (inFlow : Bool) : List Char → Nat
  | [] => 0
  | c :: rest =>
    if isGap c || (c = ':' && endsWord rest.head?) ||
        (inFlow && (isFlowMark c || isMisplacedColon (c :: rest))) then 0
    else plainLength inFlow rest + 1

/-- Reads on in a plain scalar: its text, whether it ends behind a line end, and the place behind
it. Outside brackets further lines are indented by at least so much. The words and gaps so far are
last first, and the fuel exceeds the characters that are left. -/
def plain (inFlow : Bool) (least : Nat) (start : Mark) :
    Nat → List (List Char) → Gap → Cursor → Except Fault (List Char × Bool × Cursor)
  | 0, parts, gap, c => .ok (parts.reverse.flatten, gap.broken, c)
  | fuel + 1, parts, gap, c =>
    let context := ("while scanning a plain scalar", start)
    if c.isAtBoundary ∨ c.next = some '#' then .ok (parts.reverse.flatten, gap.broken, c)
    else do
      let word := c.rest.take (plainLength inFlow c.rest)
      let c := c.advance word.length
      if inFlow ∧ isMisplacedColon c.rest then
        throw ⟨"found unexpected ':'", c.mark, 0, some context⟩
      let (parts, gap) := if word.isEmpty then (parts, gap) else (word :: gap.text :: parts, {})
      if !c.isAt isGap then return (parts.reverse.flatten, gap.broken, c)
      let (gap, c) ← gap.read least context (fuel + 1) c
      if !inFlow ∧ c.mark.column < least then return (parts.reverse.flatten, gap.broken, c)
      plain inFlow least start fuel parts gap c

def escapeOf? : Char → Option Char
  | '0' => some '\x00'
  | 'a' => some '\x07'
  | 'b' => some '\x08'
  | 't' => some '\t'
  | '\t' => some '\t'
  | 'n' => some '\n'
  | 'v' => some '\x0b'
  | 'f' => some '\x0c'
  | 'r' => some '\r'
  | 'e' => some '\x1b'
  | ' ' => some ' '
  | '"' => some '"'
  | '/' => some '/'
  | '\\' => some '\\'
  | 'N' => some '\u0085'
  | '_' => some '\u00a0'
  | 'L' => some '\u2028'
  | 'P' => some '\u2029'
  | _ => none

/-- How many hexadecimal digits follow a letter behind a backslash. -/
def hexWidth : Char → Nat
  | 'x' => 2
  | 'u' => 4
  | 'U' => 8
  | _ => 0

def escape (start : Mark) (c : Cursor) : Except Fault (Char × Cursor) :=
  let fault (problem : String) (mark : Mark) : Fault :=
    ⟨problem, mark, 0, some ("while parsing a quoted scalar", start)⟩
  match c.second.bind escapeOf?, c.second.elim 0 hexWidth with
  | some x, _ => .ok (x, c.advance 2)
  | none, 0 => .error (fault "found unknown escape character" c.mark)
  | none, width =>
    let c := c.advance 2
    match (c.rest.take width).mapM Json.Reader.hexValue? with
    | none => .error (fault "did not find expected hexdecimal number" c.mark)
    | some ds =>
      let n := ds.foldl (fun n d => n * 16 + d) 0
      if ds.length < width then
        .error (fault "did not find expected hexdecimal number" c.mark)
      else if n.isValidChar then .ok (Char.ofNat n, c.advance width)
      else .error (fault "found invalid Unicode character escape code" c.mark)

/-- Reads on in a quoted scalar up to a gap or its closing quote; the word so far is last character
first. An escaped line end leaves a gap of its own. -/
def quotedWord (quote : Char) (start : Mark) :
    Nat → List Char → Cursor → Except Fault (List Char × Gap × Cursor)
  | 0, word, c => .ok (word.reverse, {}, c)
  | fuel + 1, word, c =>
    match c.next with
    | none => .ok (word.reverse, {}, c)
    | some x =>
      if isGap x then .ok (word.reverse, {}, c)
      else if x = quote then
        if quote = '\'' ∧ c.second = some '\'' then
          quotedWord quote start fuel ('\'' :: word) (c.advance 2)
        else .ok (word.reverse, {}, c)
      else if x = '\\' ∧ quote = '"' then
        match (c.advance 1).lineEnd? with
        | some (_, below) => .ok (word.reverse, { broken := true }, below)
        | none => do
          let (x, c) ← escape start c
          quotedWord quote start fuel (x :: word) c
      else quotedWord quote start fuel (x :: word) (c.advance 1)

/-- Reads on in a quoted scalar up to the place behind its closing quote. The words and gaps so far
are last first, and the fuel exceeds the characters that are left. -/
def quoted (quote : Char) (start : Mark) :
    Nat → List (List Char) → Cursor → Except Fault (List Char × Cursor)
  | 0, parts, c => .ok (parts.reverse.flatten, c)
  | fuel + 1, parts, c => do
    let context := ("while scanning a quoted scalar", start)
    if c.isAtBoundary then
      throw ⟨"found unexpected document indicator", c.mark, 0, some context⟩
    if c.rest.isEmpty then throw ⟨"found unexpected end of stream", c.mark, 0, some context⟩
    let (word, gap, c) ← quotedWord quote start (fuel + 1) [] c
    if c.next = some quote then return ((word :: parts).reverse.flatten, c.advance 1)
    let (gap, c) ← gap.read 0 context (fuel + 1) c
    quoted quote start fuel (gap.text :: word :: parts) c

/-- What becomes of the line ends behind a block. -/
inductive Chomping where
  | strip
  | clip
  | keep
deriving DecidableEq

def Chomping.ofMark? : Option Char → Option Chomping
  | some '-' => some .strip
  | some '+' => some .keep
  | _ => none

/-- Passes over the blank lines before a line of a block: the deepest column reached, the line
ends, and the place behind them. While the indentation of the block is zero it is not yet known. -/
def blockGap (indent : Nat) (context : String × Mark) :
    Nat → Nat → List Char → Cursor → Except Fault (Nat × List Char × Cursor)
  | 0, deepest, ends, c => .ok (deepest, ends, c)
  | fuel + 1, deepest, ends, c =>
    let spaces := (c.rest.takeWhile (· = ' ')).length
    let c := c.advance (if indent = 0 then spaces else min spaces (indent - c.mark.column))
    let deepest := max deepest c.mark.column
    if (indent = 0 ∨ c.mark.column < indent) ∧ c.next = some '\t' then
      .error ⟨"found a tab character where an indentation space is expected", c.mark, 0,
        some context⟩
    else match c.lineEnd? with
      | some (e, below) => blockGap indent context fuel deepest (ends ++ e) below
      | none => .ok (deepest, ends, c)

/-- A block as read so far: its lines and what joins them, last first, the line end behind them,
and those of blank lines after. -/
structure BlockText where
  parts : List (List Char) := []
  lineEnd : List Char := []
  ends : List Char
  /-- Whether the last line starts with a blank. -/
  inset : Bool := false

/-- What joins the text so far to a next line. A folded block drops the line end between two lines
without blanks in front. -/
def BlockText.joint (b : BlockText) (folded inset : Bool) : List Char :=
  if folded ∧ b.lineEnd = ['\n'] ∧ !b.inset ∧ !inset then
    if b.ends.isEmpty then [' '] else b.ends
  else b.lineEnd ++ b.ends

/-- Reads the lines of a block. The fuel exceeds the characters that are left. -/
def blockLines (folded : Bool) (indent : Nat) (context : String × Mark) :
    Nat → BlockText → Cursor → Except Fault (BlockText × Cursor)
  | 0, b, c => .ok (b, c)
  | fuel + 1, b, c =>
    if c.mark.column = indent ∧ !c.rest.isEmpty then do
      let inset := c.isAt isBlank
      let (line, c) := c.span (!isBreak ·)
      let (lineEnd, c) := c.lineEnd?.getD ([], c)
      let (_, ends, c) ← blockGap indent context (fuel + 1) 0 [] c
      blockLines folded indent context fuel ⟨line :: b.joint folded inset :: b.parts, lineEnd, ends,
        inset⟩ c
    else .ok (b, c)

/-- The digit for the indentation of a block, if one stands here. -/
def blockDigit (context : String × Mark) (c : Cursor) : Except Fault (Nat × Cursor) :=
  match c.next with
  | some x =>
    if x = '0' then .error ⟨"found an indentation indicator equal to 0", c.mark, 0, some context⟩
    else if x.isDigit then .ok (x.toNat - '0'.toNat, c.advance 1)
    else .ok (0, c)
  | none => .ok (0, c)

/-- Reads the marks behind the one that starts a block, in either order. -/
def blockMarks (context : String × Mark) (c : Cursor) :
    Except Fault (Chomping × Nat × Cursor) := do
  match Chomping.ofMark? c.next with
  | some chomping =>
    let (digit, c) ← blockDigit context (c.advance 1)
    pure (chomping, digit, c)
  | none =>
    let (digit, c) ← blockDigit context c
    match if digit = 0 then none else Chomping.ofMark? c.next with
    | some chomping => pure (chomping, digit, c.advance 1)
    | none => pure (.clip, digit, c)

/-- Reads a block of lines from its mark on. The collection around it is indented by `outer`, which
is below zero where there is none. The fuel exceeds the characters that are left. -/
def block (folded : Bool) (outer : Int) (fuel : Nat) (c : Cursor) :
    Except Fault (List Char × Cursor) := do
  let context := ("while scanning a block scalar", c.mark)
  let (chomping, digit, c) ← blockMarks context (c.advance 1)
  let c := (c.skip isBlank).skipComment
  if !c.rest.isEmpty ∧ !c.isAt isBreak then
    throw ⟨"did not find expected comment or line break", c.mark, 0, some context⟩
  let c := c.nextLine
  let given := if digit = 0 then 0 else outer.toNat + digit
  let (deepest, ends, c) ← blockGap given context fuel 0 [] c
  let indent := if given = 0 then max deepest (max (outer + 1).toNat 1) else given
  let (b, c) ← blockLines folded indent context fuel { ends } c
  let tail := match chomping with
    | .strip => []
    | .clip => b.lineEnd
    | .keep => b.lineEnd ++ b.ends
  pure (b.parts.reverse.flatten ++ tail, c)

end Flowgraph.Yaml
