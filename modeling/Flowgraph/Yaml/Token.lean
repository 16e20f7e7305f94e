import Flowgraph.Yaml.Scalar
import Flowgraph.Yaml.Tag

namespace Flowgraph.Yaml

/-- What a token is. -/
inductive TokenKind where
  | streamStart
  | streamEnd
  | directive (d : Directive)
  | documentStart
  | documentEnd
  | blockSequenceStart
  | blockMappingStart
  | blockEnd
  | flowSequenceStart
  | flowSequenceEnd
  | flowMappingStart
  | flowMappingEnd
  | blockEntry
  | flowEntry
  | key
  | value
  | alias (name : String)
  | anchor (name : String)
  | tag (handle suffix : String)
  | scalar (style : Style) (text : String)
deriving DecidableEq, Repr, Inhabited

/-- A token with its place. -/
structure Token where
  kind : TokenKind
  start : Mark
  stop : Mark
deriving Inhabited, Repr

/-- A place where a key without a mark may have started. -/
structure SimpleKey where
  /-- Whether nothing but a key can stand there. -/
  required : Bool
  /-- The number of the token that comes first in the key. -/
  number : Nat
  mark : Mark

/-- How far a text is split into tokens. -/
structure Lexer where
  cursor : Cursor
  /-- More than the characters of the whole text. No run over it takes more steps. -/
  limit : Nat
  /-- The column of the innermost collection without brackets, or -1. -/
  indent : Int := -1
  /-- The columns of the collections around it, innermost first. -/
  outer : List Int := []
  /-- Where a key may have started, outside brackets and in each pair of them, innermost first. -/
  keys : List (Option SimpleKey) := [none]
  keyAllowed : Bool := true
  /-- Tokens that are held back. -/
  queue : List Token := []
  /-- How many tokens were given out. -/
  taken : Nat := 0

namespace Lexer

def inFlow (l : Lexer) : Bool := 1 < l.keys.length

def mark (l : Lexer) : Mark := l.cursor.mark

def push (kind : TokenKind) (start stop : Mark) (l : Lexer) : Lexer :=
  { l with queue := l.queue ++ [⟨kind, start, stop⟩] }

/-- Puts a token of no extent before the one with a number. -/
def insert (number : Nat) (kind : TokenKind) (mark : Mark) (l : Lexer) : Lexer :=
  let n := number - l.taken
  { l with queue := l.queue.take n ++ ⟨kind, mark, mark⟩ :: l.queue.drop n }

def faultHere {α : Type} (l : Lexer) (problem : String)
    (context : Option (String × Mark) := none) : Except Fault α :=
  .error ⟨problem, l.mark, 0, context⟩

def noColon {α : Type} (l : Lexer) (k : SimpleKey) : Except Fault α :=
  l.faultHere "could not find expected ':'" (some ("while scanning a simple key", k.mark))

/-- Gives up the key that may have started in the innermost brackets. -/
def dropKey (l : Lexer) : Except Fault Lexer :=
  match l.keys with
  | some k :: rest => if k.required then l.noColon k else .ok { l with keys := none :: rest }
  | _ => .ok l

/-- Gives up all keys that are too long or started on an earlier line. -/
def dropStaleKeys (l : Lexer) : Except Fault Lexer := do
  let keys ← l.keys.reverse.mapM fun k => match k with
    | some k =>
      if k.mark.line < l.mark.line ∨ k.mark.bytes + 1024 < l.mark.bytes then
        if k.required then l.noColon k else pure none
      else pure (some k)
    | none => pure none
  pure { l with keys := keys.reverse }

/-- Remembers that a key may start at the cursor. -/
def saveKey (l : Lexer) : Except Fault Lexer :=
  if !l.keyAllowed then .ok l
  else do
    let l ← l.dropKey
    let required := !l.inFlow && l.indent = l.mark.column
    pure { l with keys := some ⟨required, l.taken + l.queue.length, l.mark⟩ :: l.keys.drop 1 }

/-- Starts a collection without brackets at a column, unless one is open there. Its token comes
before the one with a number, or last. -/
def roll (column : Nat) (before : Option Nat) (kind : TokenKind) (mark : Mark) (l : Lexer) :
    Lexer :=
  if l.inFlow ∨ column ≤ l.indent then l
  else
    let l := { l with outer := l.indent :: l.outer, indent := column }
    match before with
    | some number => l.insert number kind mark
    | none => l.push kind mark mark

/-- How many collections end at a column, and the indentations that are left. -/
def ended (column : Int) : Int → List Int → Nat × Int × List Int
  | indent, [] => (0, indent, [])
  | indent, o :: outer =>
    if column < indent then
      let (n, rest) := ended column o outer
      (n + 1, rest)
    else (0, indent, o :: outer)

/-- Ends the collections without brackets that are indented by more than a column. -/
def unroll (column : Int) (l : Lexer) : Lexer :=
  if l.inFlow then l
  else
    let (n, indent, outer) := ended column l.indent l.outer
    { l with
      indent, outer, queue := l.queue ++ List.replicate n ⟨.blockEnd, l.mark, l.mark⟩ }

/-- Goes on to the next token: over blanks, comments, line ends and marks of the byte order in front
of lines. Tabs count as blanks where no key may start. -/
def skipGap : Nat → Lexer → Lexer
  | 0, l => l
  | fuel + 1, l =>
    let tabs := l.inFlow || !l.keyAllowed
    let c := (l.cursor.skipOrderMark.skip fun x => x = ' ' || (tabs && x = '\t')).skipComment
    match c.lineEnd? with
    | some (_, below) =>
      skipGap fuel { l with cursor := below, keyAllowed := l.keyAllowed || !l.inFlow }
    | none => { l with cursor := c }

/-- Adds a token for so many characters at the cursor. -/
def takeChars (l : Lexer) (kind : TokenKind) (length : Nat) : Lexer :=
  let c := l.cursor.advance length
  { (l.push kind l.mark c.mark) with cursor := c }

def fetchEnd (l : Lexer) : Except Fault Lexer := do
  let m := l.mark
  let m := if m.column = 0 then m else { m with column := 0, line := m.line + 1 }
  let l := { l with cursor := { l.cursor with mark := m } }
  let l ← (l.unroll (-1)).dropKey
  pure ({ l with keyAllowed := false }.push .streamEnd m m)

def fetchDirective (l : Lexer) : Except Fault Lexer := do
  let l ← (l.unroll (-1)).dropKey
  let (d, c) ← directive l.cursor
  pure { (l.push (.directive d) l.mark c.mark) with cursor := c, keyAllowed := false }

/-- Takes the mark of a start or an end of a document. -/
def fetchBoundary (kind : TokenKind) (l : Lexer) : Except Fault Lexer := do
  let l ← (l.unroll (-1)).dropKey
  pure ({ l with keyAllowed := false }.takeChars kind 3)

def fetchOpening (kind : TokenKind) (l : Lexer) : Except Fault Lexer := do
  let l ← l.saveKey
  pure ({ l with keys := none :: l.keys, keyAllowed := true }.takeChars kind 1)

def fetchClosing (kind : TokenKind) (l : Lexer) : Except Fault Lexer := do
  let l ← l.dropKey
  let keys := if l.inFlow then l.keys.drop 1 else l.keys
  pure ({ l with keys, keyAllowed := false }.takeChars kind 1)

def fetchComma (l : Lexer) : Except Fault Lexer := do
  let l ← l.dropKey
  pure ({ l with keyAllowed := true }.takeChars .flowEntry 1)

def fetchDash (l : Lexer) : Except Fault Lexer := do
  if !l.inFlow ∧ !l.keyAllowed then
    l.faultHere "block sequence entries are not allowed in this context"
  else
    let l ← (l.roll l.mark.column none .blockSequenceStart l.mark).dropKey
    pure ({ l with keyAllowed := true }.takeChars .blockEntry 1)

def fetchKey (l : Lexer) : Except Fault Lexer := do
  if !l.inFlow ∧ !l.keyAllowed then
    l.faultHere "mapping keys are not allowed in this context"
  else
    let l ← (l.roll l.mark.column none .blockMappingStart l.mark).dropKey
    pure ({ l with keyAllowed := !l.inFlow }.takeChars .key 1)

/-- Takes a colon for a value, which may settle that a key without a mark comes before it. -/
def fetchValue (l : Lexer) : Except Fault Lexer :=
  match l.keys with
  | some k :: rest =>
    let l := (l.insert k.number .key k.mark).roll k.mark.column (some k.number)
      .blockMappingStart k.mark
    .ok ({ l with keys := none :: rest, keyAllowed := false }.takeChars .value 1)
  | _ =>
    if !l.inFlow ∧ !l.keyAllowed then
      l.faultHere "mapping values are not allowed in this context"
    else
      let l := l.roll l.mark.column none .blockMappingStart l.mark
      .ok ({ l with keyAllowed := !l.inFlow }.takeChars .value 1)

/-- Takes an anchor, an alias or a tag. -/
def fetchName (read : Lexer → Except Fault (TokenKind × Cursor)) (l : Lexer) :
    Except Fault Lexer := do
  let l ← l.saveKey
  let (kind, c) ← read l
  pure { (l.push kind l.mark c.mark) with cursor := c, keyAllowed := false }

def fetchBlock (style : Style) (l : Lexer) : Except Fault Lexer := do
  let l ← l.dropKey
  let (text, c) ← block (style = .folded) l.indent l.limit l.cursor
  pure { (l.push (.scalar style (String.ofList text)) l.mark c.mark) with
    cursor := c, keyAllowed := true }

def fetchQuoted (quote : Char) (style : Style) (l : Lexer) : Except Fault Lexer :=
  l.fetchName fun l => do
    let (text, c) ← quoted quote l.mark l.limit [] (l.cursor.advance 1)
    pure (.scalar style (String.ofList text), c)

/-- Takes a scalar without quotes. A key may start behind it if it ends behind a line end. -/
def fetchPlain (l : Lexer) : Except Fault Lexer := do
  let l ← l.saveKey
  let (text, broken, c) ←
    plain l.inFlow (l.indent + 1).toNat l.mark l.limit [] {} l.cursor
  pure { (l.push (.scalar .plain (String.ofList text)) l.mark c.mark) with
    cursor := c, keyAllowed := broken }

/-- Whether a scalar without quotes may start with a character that comes before another one. -/
def startsPlain (inFlow : Bool) (x : Char) (next : Option Char) : Bool :=
  !(isGap x || "-?:,[]\x7b\x7d#&*!|>'\"%@\x60".toList.contains x) ||
    (x = '-' && !next.any isBlank) || (!inFlow && (x = '?' || x = ':') && !endsWord next)

/-- Takes the next token, with those that its place brings about. -/
def fetch (l : Lexer) : Except Fault Lexer := do
  let l ← (l.skipGap l.limit).dropStaleKeys
  let l := l.unroll l.mark.column
  let lone := endsWord l.cursor.second
  match l.cursor.next with
  | none => l.fetchEnd
  | some x =>
    if l.mark.column = 0 ∧ x = '%' then l.fetchDirective
    else if l.cursor.isAtMarker '-' then l.fetchBoundary .documentStart
    else if l.cursor.isAtMarker '.' then l.fetchBoundary .documentEnd
    else if x = '[' then l.fetchOpening .flowSequenceStart
    else if x = '\x7b' then l.fetchOpening .flowMappingStart
    else if x = ']' then l.fetchClosing .flowSequenceEnd
    else if x = '\x7d' then l.fetchClosing .flowMappingEnd
    else if x = ',' then l.fetchComma
    else if x = '-' ∧ lone then l.fetchDash
    else if x = '?' ∧ (l.inFlow ∨ lone) then l.fetchKey
    else if x = ':' ∧ (l.inFlow ∨ lone) then l.fetchValue
    else if x = '*' then
      l.fetchName fun l => do
        let (name, c) ← anchorName "while scanning an alias" l.cursor
        pure (.alias name, c)
    else if x = '&' then
      l.fetchName fun l => do
        let (name, c) ← anchorName "while scanning an anchor" l.cursor
        pure (.anchor name, c)
    else if x = '!' then
      l.fetchName fun l => do
        let (handle, suffix, c) ← tag l.inFlow l.cursor
        pure (.tag handle suffix, c)
    else if x = '|' ∧ !l.inFlow then l.fetchBlock .literal
    else if x = '>' ∧ !l.inFlow then l.fetchBlock .folded
    else if x = '\'' then l.fetchQuoted '\'' .single
    else if x = '"' then l.fetchQuoted '"' .double
    else if startsPlain l.inFlow x l.cursor.second then l.fetchPlain
    else
      l.faultHere "found character that cannot start any token"
        (some ("while scanning for the next token", l.mark))

/-- Takes tokens until the first of those held back cannot become a key any more. -/
def fill : Nat → Lexer → Except Fault Lexer
  | 0, l => .ok l
  | fuel + 1, l => do
    if l.queue.isEmpty then fill fuel (← l.fetch)
    else
      let l ← l.dropStaleKeys
      if l.keys.any (·.any (·.number = l.taken)) then fill fuel (← l.fetch) else pure l

/-- Gives the tokens out up to the end of the text or the first fault. -/
def tokens : Nat → Lexer → List Token × Option Fault
  | 0, _ => ([], none)
  | n + 1, l =>
    match l.fill l.limit with
    | .error f => ([], some f)
    | .ok l =>
      match l.queue with
      | [] => ([], none)
      | t :: rest =>
        if t.kind = .streamEnd then ([t], none)
        else
          let (ts, f) := tokens n { l with queue := rest, taken := l.taken + 1 }
          (t :: ts, f)

end Lexer

/-- The tokens of a text, and the fault behind them if there is one. A character gives rise to at
most five tokens, its own and those that start or end around it. -/
def Token.ofText (s : String) : List Token × Option Fault :=
  match Cursor.ofText s with
  | .error f => ([], some f)
  | .ok c =>
    let n := c.rest.length
    let start : Token := ⟨.streamStart, c.mark, c.mark⟩
    Lexer.tokens (5 * n + 10) { cursor := c, limit := n + 2, queue := [start] }

end Flowgraph.Yaml
