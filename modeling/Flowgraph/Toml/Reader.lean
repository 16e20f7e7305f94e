import Flowgraph.Toml.Table

namespace Flowgraph.Toml

/-- Passes over blanks, comments and line ends between the items of an array. What should be a line
end but is none is looked at before it is declined. -/
def skipGaps : Nat → List Char → Except Fault (List Char)
  | 0, cs => .ok cs
  | fuel + 1, cs =>
    match skipBlanks cs with
    | '#' :: rest =>
      let rest := rest.dropWhile isText
      match newline? rest with
      | some rest => skipGaps fuel rest
      | none => decline (rest.drop 1)
    | '\n' :: rest => skipGaps fuel rest
    | '\r' :: '\n' :: rest => skipGaps fuel rest
    | '\r' :: rest => decline rest
    | rest => .ok rest

def scalar (cs : List Char) : Except Fault (Item × List Char) :=
  let as {α : Type} (f : α → Item) (r : Except Fault (α × List Char)) :
      Except Fault (Item × List Char) := r.map fun (x, rest) => (f x, rest)
  match cs with
  | '"' :: _ | '\'' :: _ => as .text (string cs)
  | 't' :: _ => as .flag (word "true".toList true cs)
  | 'f' :: _ => as .flag (word "false".toList false cs)
  | 'i' :: _ | 'n' :: _ | '.' :: _ => as .double (boundless cs)
  | c :: _ =>
    if c = '+' ∨ c = '-' ∨ c.isDigit then
      orTry ((moment cs).map (.moment, ·)) fun () =>
        orTry (as .double (double cs)) fun () => as .integer (integer cs)
    else decline cs
  | [] => decline cs

/-- A key, a value, and the place where the value starts. -/
structure Pair where
  key : List Key
  place : List Char
  item : Item

mutual

/-- Reads a value inside so many others. The fuel bounds the recursion. -/
def value : Nat → Nat → List Char → Except Fault (Item × List Char)
  | 0, _, cs => decline cs
  | fuel + 1, depth, cs =>
    match cs with
    | '[' :: rest =>
      if depthLimit ≤ depth + 1 then
        .error { left := cs, cause := "recursion limit exceeded" }
      else do
        let (items, rest) ← commit (items fuel (depth + 1) rest)
        pure (.array items, rest)
    | '\x7b' :: rest =>
      if depthLimit ≤ depth + 1 then
        .error { left := cs, cause := "recursion limit exceeded" }
      else do
        let (members, rest) ← commit (members fuel (depth + 1) rest)
        pure (.inlineTable members, rest)
    | _ => scalar cs

/-- Reads the items of an array behind its opening bracket. -/
def items : Nat → Nat → List Char → Except Fault (List Item × List Char)
  | 0, _, cs => decline cs
  | fuel + 1, depth, cs =>
    match cs with
    | ']' :: rest => .ok ([], rest)
    | _ => do
      let (items, rest) ← someItems fuel depth cs cs
      let rest := match rest with
        | ',' :: after => if items.isEmpty then rest else after
        | _ => rest
      let rest ← expect ']' (← skipGaps (rest.length + 1) rest)
      pure (items, rest)

/-- Reads items divided by commas, up to one that cannot be read. Of that nothing is read, nor of
the comma before it, which `back` is the place of. -/
def someItems : Nat → Nat → List Char → List Char → Except Fault (List Item × List Char)
  | 0, _, back, _ => .ok ([], back)
  | fuel + 1, depth, back, cs => do
    match ← optional (item fuel depth cs) back with
    | (none, _) => pure ([], back)
    | (some x, rest) =>
      match rest with
      | ',' :: after =>
        let (xs, rest) ← someItems fuel depth rest after
        pure (x :: xs, rest)
      | _ => pure ([x], rest)

/-- Reads an item of an array with the gaps around it. -/
def item : Nat → Nat → List Char → Except Fault (Item × List Char)
  | 0, _, cs => decline cs
  | fuel + 1, depth, cs => do
    let (x, rest) ← value fuel depth (← skipGaps (cs.length + 1) cs)
    pure (x, ← skipGaps (rest.length + 1) rest)

/-- Reads the members of a table in braces behind the opening one. -/
def members : Nat → Nat → List Char → Except Fault (Table × List Char)
  | 0, _, cs => decline cs
  | fuel + 1, depth, cs => do
    let (pairs, rest) ← pairs fuel depth cs cs
    let define (t : Table) (p : Pair) : Except String Table :=
      t.define none p.place p.item [] .headed p.key
    let table ← (pairs.foldlM define []).mapError fun cause => { left := cs, cause }
    pure (table, ← expect '\x7d' (skipBlanks rest))

/-- Reads pairs divided by commas, up to one that cannot be read. Of that nothing is read, nor of
the comma before it, which `back` is the place of. -/
def pairs : Nat → Nat → List Char → List Char → Except Fault (List Pair × List Char)
  | 0, _, back, _ => .ok ([], back)
  | fuel + 1, depth, back, cs => do
    match ← optional (pair fuel depth cs) back with
    | (none, _) => pure ([], back)
    | (some p, rest) =>
      match rest with
      | ',' :: after =>
        let (ps, rest) ← pairs fuel depth rest after
        pure (p :: ps, rest)
      | _ => pure ([p], rest)

/-- Reads a key and its value, up to the blanks behind it. -/
def pair : Nat → Nat → List Char → Except Fault (Pair × List Char)
  | 0, _, cs => decline cs
  | fuel + 1, depth, cs => do
    let (k, rest) ← key cs
    commit do
      let place := skipBlanks (← expect '=' rest)
      let (x, rest) ← value fuel depth place
      pure (⟨k, place, x⟩, skipBlanks rest)

end

/-- A text as far as it was read: the table and the path of the header that is open. -/
structure Progress where
  root : Table := []
  header : List Key := []

/-- Opens a table by the header that starts here. -/
def header (p : Progress) (cs : List Char) : Except Fault (Progress × List Char) := do
  let next := cs.take 2 = ['[', '[']
  let (path, rest) ← key (cs.drop (if next then 2 else 1))
  let rest ← expect ']' rest
  let rest ← if next then blame (']' :: rest) (expect ']' rest) else pure rest
  let rest ← lineEnd rest
  let before := path.dropLast
  let names := before.map (·.text)
  let openTable (t : Table) : Except String Table :=
    match path.getLast? with
    | some k => if next then t.openNext cs names k else t.openHeaded cs names k
    | none => .ok t
  let root ← (p.root.under openTable [] before).mapError fun cause => { left := cs, cause }
  pure ({ root, header := path }, rest)

def definition (p : Progress) (cs : List Char) : Except Fault (Progress × List Char) := do
  let (pair, rest) ← pair (4 * cs.length + 8) 0 cs
  let rest ← lineEnd rest
  let names := p.header.map (·.text)
  let define (t : Table) : Except String Table :=
    t.define (some names) pair.place pair.item [] .headed pair.key
  let root ← (p.root.under define [] p.header).mapError fun cause => { left := cs, cause }
  pure ({ p with root }, rest)

/-- Reads a line: a header, a key with its value, or neither. -/
def line (p : Progress) (cs : List Char) : Except Fault (Progress × List Char) :=
  let cs := skipBlanks cs
  match cs with
  | '[' :: rest => if rest.isEmpty then refuse cs else header p cs
  | '#' :: _ | '\n' :: _ | '\r' :: _ | [] => (lineEnd cs).map (p, ·)
  | _ => definition p cs

def lines : Nat → Progress → List Char → Except Fault Table
  | _, p, [] => .ok p.root
  | 0, p, _ => .ok p.root
  | fuel + 1, p, cs => do
    let (p, rest) ← line p cs
    lines fuel p rest

def Table.ofText (text : List Char) : Except Fault Table :=
  let cs := match text with
    | '\ufeff' :: rest => rest
    | cs => cs
  lines (cs.length + 1) {} cs

end Flowgraph.Toml
