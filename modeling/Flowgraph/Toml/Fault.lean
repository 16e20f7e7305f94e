namespace Flowgraph.Toml

/-- Where reading stopped, by the text from there on, and what is said of it beside the place. A
final fault is not followed by another attempt at the same place. -/
structure Fault where
  left : List Char
  final : Bool := false
  cause : String := ""
deriving Repr, Inhabited

/-- Something else may stand here. -/
def decline {α : Type} (left : List Char) : Except Fault α := .error { left }

/-- Nothing that may stand here was found. -/
def refuse {α : Type} (left : List Char) : Except Fault α := .error { left, final := true }

/-- Allows no other attempt in place of one that fails. -/
def commit {α : Type} (r : Except Fault α) : Except Fault α :=
  r.mapError ({ · with final := true })

/-- Makes another attempt, unless the first one succeeds or fails for good. -/
def orTry {α : Type} (r : Except Fault α) (other : Unit → Except Fault α) : Except Fault α :=
  match r with
  | .error f => if f.final then r else other ()
  | .ok _ => r

/-- A result if there is one, unless reading it fails for good. -/
def optional {α : Type} (r : Except Fault (α × List Char)) (left : List Char) :
    Except Fault (Option α × List Char) :=
  match r with
  | .ok (x, rest) => .ok (some x, rest)
  | .error f => if f.final then .error f else .ok (none, left)

/-- Puts the blame for a failure on an earlier place. -/
def blame {α : Type} (left : List Char) (r : Except Fault α) : Except Fault α :=
  r.mapError ({ · with left })

/-- The line of a place, counted from zero, and its column, where the place is known by the text
before it. The end of a text belongs to its last line. The column counts characters, but bytes in
front of a character of several. -/
def position (before left : List Char) : Nat × Nat :=
  let shown := if left.isEmpty then before.dropLast else before
  let line := (shown.filter (· = '\n')).length
  let onLine := (shown.reverse.takeWhile (· ≠ '\n'))
  match left with
  | [] => (line, onLine.length + if before.isEmpty then 0 else 1)
  | c :: _ =>
    (line, if c.toNat < 0x80 then onLine.length
      else onLine.foldl (fun n x => n + x.utf8Size) 0)

def lineAt (text : List Char) : Nat → List Char
  | 0 => text.takeWhile (· ≠ '\n')
  | n + 1 => lineAt ((text.dropWhile (· ≠ '\n')).drop 1) n

/-- Something said of a place in a text, with the line that holds it. -/
def shownAt (text left : List Char) (what : String) : String :=
  let (line, column) := position (text.take (text.length - left.length)) left
  s!"TOML parse error at line {line + 1}, column {column + 1}\n" ++ s!"{line + 1} | " ++
    String.ofList (lineAt text line) ++ "\n" ++ what

end Flowgraph.Toml
