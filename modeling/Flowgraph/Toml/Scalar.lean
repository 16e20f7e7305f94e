import Flowgraph.Decimal.Nearest
import Flowgraph.Json.Reader
import Flowgraph.Toml.Fault

namespace Flowgraph.Toml

open Json

def newline? : List Char → Option (List Char)
  | '\n' :: rest => some rest
  | '\r' :: '\n' :: rest => some rest
  | _ => none

/-- Whether a character is a blank inside a line. -/
def isBlank (c : Char) : Bool := c = ' ' || c = '\t'

def skipBlanks (cs : List Char) : List Char := cs.dropWhile isBlank

def skipWhite : List Char → List Char
  | '\r' :: '\n' :: rest => skipWhite rest
  | c :: rest => if isBlank c ∨ c = '\n' then skipWhite rest else c :: rest
  | [] => []

/-- Whether a character may stand in a comment or a string: all but the controls, the tab apart. -/
def isText (c : Char) : Bool := c = '\t' || (0x20 ≤ c.toNat && c.toNat ≠ 0x7f)

/-- Drops a comment up to the end of its line. -/
def skipComment : List Char → List Char
  | '#' :: rest => rest.dropWhile isText
  | cs => cs

/-- The text behind the end of a line on which only a comment may still stand. -/
def lineEnd (cs : List Char) : Except Fault (List Char) :=
  match skipComment (skipBlanks cs) with
  | [] => .ok []
  | rest => (newline? rest).elim (refuse rest) .ok

/-- The text behind a character that must come next. -/
def expect (c : Char) (cs : List Char) : Except Fault (List Char) :=
  match cs with
  | d :: rest => if d = c then .ok rest else decline cs
  | [] => decline cs

/-- Whether a character may stand in a key without quotes. -/
def isBare (c : Char) : Bool := c.isAlphanum || c = '_' || c = '-'

/-- The character with a number of so many hexadecimal digits. -/
def hex (width : Nat) (cs : List Char) : Except Fault (Char × List Char) :=
  match (cs.take width).mapM Reader.hexValue? with
  | some ds =>
    let n := ds.foldl (fun n d => n * 16 + d) 0
    if ds.length = width ∧ n.isValidChar then .ok (Char.ofNat n, cs.drop width) else refuse cs
  | none => refuse cs

/-- The character that an escape stands for, behind the backslash. -/
def escape (cs : List Char) : Except Fault (Char × List Char) :=
  match cs with
  | [] => decline cs
  | 'b' :: rest => .ok ('\x08', rest)
  | 't' :: rest => .ok ('\t', rest)
  | 'n' :: rest => .ok ('\n', rest)
  | 'f' :: rest => .ok ('\x0c', rest)
  | 'r' :: rest => .ok ('\r', rest)
  | '"' :: rest => .ok ('"', rest)
  | '\\' :: rest => .ok ('\\', rest)
  | 'u' :: rest => hex 4 rest
  | 'U' :: rest => hex 8 rest
  | c :: rest => refuse (if c.toNat < 0x80 then rest else cs)

/-- Puts characters before what was read. -/
def before (s : List Char) (r : Except Fault (List Char × List Char)) :
    Except Fault (List Char × List Char) :=
  r.map fun (t, rest) => (s ++ t, rest)

/-- A string with escapes on one line, behind its opening quote. -/
def basic : Nat → List Char → Except Fault (List Char × List Char)
  | 0, cs => refuse cs
  | fuel + 1, cs =>
    match cs with
    | [] => refuse cs
    | '"' :: rest => .ok ([], rest)
    | '\\' :: rest => do
      let (c, rest) ← orTry (escape rest) fun () => refuse cs
      before [c] (basic fuel rest)
    | c :: rest => if isText c then before [c] (basic fuel rest) else refuse cs

/-- A string without escapes on one line, behind its opening quote. -/
def verbatim : List Char → Except Fault (List Char × List Char)
  | [] => refuse []
  | c :: rest =>
    if c = '\'' then .ok ([], rest)
    else if isText c then before [c] (verbatim rest)
    else refuse (c :: rest)

/-- One character inside a string over several lines that is no quote. A backslash at the end of a
line drops the line end and all blanks after it. -/
def inner (quote : Char) (cs : List Char) : Except Fault (List Char × List Char) :=
  match newline? cs, cs with
  | some rest, _ => .ok (['\n'], rest)
  | none, [] => decline cs
  | none, c :: rest =>
    if c = quote then decline cs
    else if c = '\\' ∧ quote = '"' then
      match newline? (skipBlanks rest) with
      | some rest => .ok ([], skipWhite rest)
      | none => (escape rest).map fun (c, rest) => ([c], rest)
    else if isText c then .ok ([c], rest)
    else decline cs

/-- A string over several lines, behind its opening quotes. Three of its quotes end it; before them
one or two more belong to it, as they do before other characters. In a string with escapes one or
two quotes count as read also before a character that may not stand in it. -/
def multiline (quote : Char) : Nat → List Char → Except Fault (List Char × List Char)
  | 0, cs => refuse cs
  | fuel + 1, cs =>
    match inner quote cs with
    | .ok (s, rest) => before s (multiline quote fuel rest)
    | .error f =>
      if f.final then .error f
      else
        let n := (cs.takeWhile (· = quote)).length
        if 3 ≤ n then
          let extra := min (n - 3) 2
          .ok (List.replicate extra quote, cs.drop (extra + 3))
        else if n = 0 then refuse cs
        else
          let rest := cs.drop n
          match inner quote rest with
          | .ok _ => before (List.replicate n quote) (multiline quote fuel rest)
          | .error f =>
            if f.final then .error f
            else refuse (if quote = '"' ∧ !rest.isEmpty then rest else cs)

def skipFirstNewline (cs : List Char) : List Char := (newline? cs).getD cs

/-- A string of any form, from its opening quotes on. -/
def string (cs : List Char) : Except Fault (String × List Char) :=
  let found : Except Fault (List Char × List Char) := match cs with
    | '"' :: '"' :: '"' :: rest => multiline '"' (rest.length + 1) (skipFirstNewline rest)
    | '\'' :: '\'' :: '\'' :: rest => multiline '\'' (rest.length + 1) (skipFirstNewline rest)
    | '"' :: rest => basic (rest.length + 1) rest
    | '\'' :: rest => verbatim rest
    | _ => decline cs
  found.map fun (s, rest) => (String.ofList s, rest)

/-- One part of a key, with its place, by the text from there on. -/
structure Key where
  text : String
  place : List Char
deriving Inhabited

def keyPart (cs : List Char) : Except Fault (Key × List Char) :=
  let found : Except Fault (List Char × List Char) := match cs with
    | '"' :: rest => basic (rest.length + 1) rest
    | '\'' :: rest => verbatim rest
    | _ =>
      let s := cs.takeWhile isBare
      if s.isEmpty then decline cs else .ok (s, cs.drop s.length)
  found.map fun (s, rest) => (⟨String.ofList s, cs⟩, rest)

/-- The parts of a key behind the first. A point that no part follows does not belong to it. -/
def keyParts : Nat → List Char → Except Fault (List Key × List Char)
  | 0, cs => .ok ([], cs)
  | fuel + 1, cs =>
    match cs with
    | '.' :: rest => do
      match ← optional (keyPart (skipBlanks rest)) cs with
      | (some part, rest) =>
        let (parts, rest) ← keyParts fuel (skipBlanks rest)
        pure (part :: parts, rest)
      | (none, _) => pure ([], cs)
    | _ => .ok ([], cs)

/-- How deep tables and arrays may nest, less one. -/
def depthLimit : Nat := 80

/-- A key, whose parts are divided by points. -/
def key (cs : List Char) : Except Fault (List Key × List Char) := do
  let (part, rest) ← keyPart (skipBlanks cs)
  let (parts, rest) ← keyParts (rest.length + 1) (skipBlanks rest)
  if depthLimit ≤ parts.length + 1 then
    throw { left := cs, cause := "recursion limit exceeded" }
  pure (part :: parts, rest)

/-- Digits behind a first one; they may be grouped by single underscores. -/
def moreDigits (isDigit : Char → Bool) : List Char → Except Fault (List Char × List Char)
  | '_' :: c :: rest =>
    if isDigit c then before [c] (moreDigits isDigit rest) else refuse (c :: rest)
  | ['_'] => refuse []
  | c :: rest =>
    if isDigit c then before [c] (moreDigits isDigit rest) else .ok ([], c :: rest)
  | [] => .ok ([], [])

/-- Digits that may be grouped by single underscores. There is at least one. -/
def digits (isDigit : Char → Bool) (cs : List Char) : Except Fault (List Char × List Char) :=
  match cs with
  | c :: rest => if isDigit c then before [c] (moreDigits isDigit rest) else decline cs
  | [] => decline cs

def valueIn (base : Nat) (ds : List Char) : Nat :=
  ds.foldl (fun n d => n * base + (Reader.hexValue? d).getD 0) 0

/-- An optional sign: whether it is a minus. -/
def sign : List Char → Bool × List Char
  | '+' :: rest => (false, rest)
  | '-' :: rest => (true, rest)
  | cs => (false, cs)

/-- Decimal digits. Behind a zero there are no more. -/
def whole (cs : List Char) : Except Fault (List Char × List Char) :=
  match cs with
  | '0' :: rest => .ok (['0'], rest)
  | _ => digits Char.isDigit cs

/-- An integer as a signed word of 64 bits. -/
def inWord (cs : List Char) (n : Int) (rest : List Char) : Except Fault (Int × List Char) :=
  if -0x8000000000000000 ≤ n ∧ n ≤ 0x7fffffffffffffff then .ok (n, rest) else refuse cs

def marked (base : Nat) (cs : List Char) : Except Fault (Int × List Char) := do
  let isDigit (c : Char) : Bool := (Reader.hexValue? c).any (· < base)
  let (ds, rest) ← commit (digits isDigit (cs.drop 2))
  inWord cs (valueIn base ds) rest

def integer (cs : List Char) : Except Fault (Int × List Char) :=
  match cs with
  | '0' :: 'x' :: _ => marked 16 cs
  | '0' :: 'o' :: _ => marked 8 cs
  | '0' :: 'b' :: _ => marked 2 cs
  | _ => do
    let (negative, body) := sign cs
    let (ds, rest) ← whole body
    let n : Int := valueIn 10 ds
    inWord cs (if negative then -n else n) rest

/-- The rest of a word that is known by its first letter. -/
def word {α : Type} (w : List Char) (x : α) (cs : List Char) : Except Fault (α × List Char) :=
  if w.isPrefixOf cs then .ok (x, cs.drop w.length)
  else if w.head? = cs.head? then refuse cs
  else decline cs

def power (cs : List Char) : Except Fault (Int × List Char) :=
  match cs with
  | c :: rest =>
    if c ≠ 'e' ∧ c ≠ 'E' then decline cs
    else do
      let (negative, rest) := sign rest
      let (ds, rest) ← commit (digits Char.isDigit rest)
      let n : Int := valueIn 10 ds
      pure (if negative then -n else n, rest)
  | [] => decline cs

/-- A number with a fraction or an exponent. It is not too large, unless it is below zero. -/
def decimal (cs : List Char) : Except Fault (Decimal.Double × List Char) := do
  let (negative, body) := sign cs
  let (ds, rest) ← whole body
  let (places, power, rest) ← match rest with
    | '.' :: rest => do
      let (places, rest) ← commit (digits Char.isDigit rest)
      let (power, rest) ← optional (power rest) rest
      pure (places, power.getD 0, rest)
    | rest => do
      let (power, rest) ← power rest
      pure ([], power, rest)
  let d := Decimal.Double.nearest negative (valueIn 10 (ds ++ places)) (power - places.length)
  if d = .infinite false then refuse cs else pure (d, rest)

def boundless (cs : List Char) : Except Fault (Decimal.Double × List Char) :=
  let (negative, body) := sign cs
  orTry (word "inf".toList (.infinite negative) body) fun () => word "nan".toList .undefined body

def double (cs : List Char) : Except Fault (Decimal.Double × List Char) :=
  orTry (decimal cs) fun () => boundless cs

/-- A number of exactly so many digits within bounds. -/
def field (width least most : Nat) (cs : List Char) : Except Fault (Nat × List Char) :=
  let ds := cs.take width
  if ds.length = width ∧ ds.all Char.isDigit then
    let n := valueIn 10 ds
    if least ≤ n ∧ n ≤ most then .ok (n, cs.drop width) else decline cs
  else decline cs

def daysIn (year month : Nat) : Nat :=
  if month = 2 then if (year % 4 = 0 ∧ year % 100 ≠ 0) ∨ year % 400 = 0 then 29 else 28
  else if month = 4 ∨ month = 6 ∨ month = 9 ∨ month = 11 then 30
  else 31

/-- The text behind a date. -/
def date (cs : List Char) : Except Fault (List Char) := do
  let (year, cs) ← field 4 0 9999 cs
  let cs ← expect '-' cs
  let (month, cs) ← commit (field 2 1 12 cs)
  let cs ← commit (expect '-' cs)
  let (_, cs) ← commit (field 2 1 (daysIn year month) cs)
  pure cs

/-- The text behind the fraction of a second, if one stands there. -/
def secondFraction (cs : List Char) : List Char :=
  match cs with
  | '.' :: rest => if rest.head?.any Char.isDigit then rest.dropWhile Char.isDigit else cs
  | cs => cs

/-- The text behind a time of day. -/
def time (cs : List Char) : Except Fault (List Char) := do
  let (_, cs) ← field 2 0 23 cs
  let cs ← expect ':' cs
  commit do
    let (_, cs) ← field 2 0 59 cs
    let (_, cs) ← field 2 0 60 (← expect ':' cs)
    pure (secondFraction cs)

/-- The text behind a difference from universal time, if one stands there. -/
def offset (cs : List Char) : Except Fault (List Char) :=
  match cs with
  | 'Z' :: rest | 'z' :: rest => .ok rest
  | '+' :: rest | '-' :: rest =>
    commit do
      let (_, cs) ← field 2 0 23 rest
      let (_, cs) ← field 2 0 59 (← expect ':' cs)
      pure cs
  | cs => .ok cs

/-- The text behind a time and its offset that follow a date. -/
def timeOfDate (cs : List Char) : Except Fault (List Char) :=
  match cs with
  | c :: rest => if c = 'T' ∨ c = 't' ∨ c = ' ' then time rest >>= offset else decline cs
  | [] => decline cs

/-- The text behind a date, a time or both. -/
def moment (cs : List Char) : Except Fault (List Char) :=
  let dated : Except Fault (List Char) := do
    let rest ← date cs
    orTry (timeOfDate rest) fun () => .ok rest
  orTry dated fun () => time cs

end Flowgraph.Toml
