import Flowgraph.Json.Document

namespace Flowgraph.Json

/-- What is wrong with a text. -/
inductive Cause where
  | endInValue | endInArray | endInObject | endInString
  | noColon | noCommaInArray | noCommaInObject | noValue | noKey | badWord
  | badNumber | numberTooLarge | badEscape | controlCharacter | loneSurrogate | openSurrogate
  | trailingComma | trailingText | tooDeep
deriving DecidableEq, Repr

def Cause.message : Cause → String
  | .endInValue => "EOF while parsing a value"
  | .endInArray => "EOF while parsing a list"
  | .endInObject => "EOF while parsing an object"
  | .endInString => "EOF while parsing a string"
  | .noColon => "expected `:`"
  | .noCommaInArray => "expected `,` or `]`"
  | .noCommaInObject => "expected `,` or `\x7d`"
  | .noValue => "expected value"
  | .noKey => "key must be a string"
  | .badWord => "expected ident"
  | .badNumber => "invalid number"
  | .numberTooLarge => "number out of range"
  | .badEscape => "invalid escape"
  | .controlCharacter => "control character (\\u0000-\\u001F) found while parsing a string"
  | .loneSurrogate => "lone leading surrogate in hex escape"
  | .openSurrogate => "unexpected end of hex escape"
  | .trailingComma => "trailing comma"
  | .trailingText => "trailing characters"
  | .tooDeep => "recursion limit exceeded"

/-- A cause, the text left where reading stopped, and how many bytes of it were looked at. -/
structure Fault where
  cause : Cause
  left : List Char
  ahead : Nat
deriving Repr

def byteCount (cs : List Char) : Nat := cs.foldl (fun n c => n + c.utf8Size) 0

/-- The line, counted from one, and the byte column after some bytes of a text. -/
def positionAfter (bytes : Nat) : List Char → Nat × Nat → Nat × Nat
  | [], at_ => at_
  | c :: rest, (line, column) =>
    if bytes = 0 then (line, column)
    else if bytes < c.utf8Size then (line, column + bytes)
    else positionAfter (bytes - c.utf8Size) rest
      (if c = '\n' then (line + 1, 0) else (line, column + c.utf8Size))

def Fault.position (text : List Char) (f : Fault) : Nat × Nat :=
  positionAfter (byteCount text - byteCount f.left + f.ahead) text (1, 0)

/-- The wording of a fault found in a text. -/
def Fault.message (text : List Char) (f : Fault) : String :=
  let (line, column) := f.position text
  s!"{f.cause.message} at line {line} column {column}"

namespace Reader

/-- What a reader does with parts that could be skipped but not read. -/
inductive Tolerance where
  | none
  | markUnreadable
deriving DecidableEq

/-- Fails, or marks the part as unreadable and goes on. -/
def flaw (t : Tolerance) (f : Fault) (rest : List Char) : Except Fault (Document × List Char) :=
  match t with
  | .none => .error f
  | .markUnreadable => .ok (.unreadable, rest)

def here (cause : Cause) (cs : List Char) : Fault := ⟨cause, cs, 1⟩

def behind (cause : Cause) (cs : List Char) : Fault := ⟨cause, cs, 0⟩

/-- Drops blanks: spaces, tabs and line ends. -/
def skipBlanks (cs : List Char) : List Char :=
  cs.dropWhile fun c => c = ' ' || c = '\n' || c = '\t' || c = '\r'

def hexValue? (c : Char) : Option Nat :=
  if '0' ≤ c ∧ c ≤ '9' then some (c.toNat - '0'.toNat)
  else if 'a' ≤ c ∧ c ≤ 'f' then some (c.toNat - 'a'.toNat + 10)
  else if 'A' ≤ c ∧ c ≤ 'F' then some (c.toNat - 'A'.toNat + 10)
  else none

def fourHex (cs : List Char) : Except Fault Unit :=
  if byteCount (cs.take 4) < 4 then .error (behind .endInString [])
  else if (cs.take 4).all fun c => (hexValue? c).isSome then .ok ()
  else .error ⟨.badEscape, cs, 4⟩

/-- Where a reader is inside a string. -/
inductive Place where
  /-- Between characters. -/
  | text
  /-- Behind a backslash. -/
  | escape
  /-- With some hexadecimal digits to go, the number so far, and the high surrogate before it. -/
  | digits (left : Nat) (n : Nat) (high : Option Nat)
  /-- Behind a high surrogate, which a second escape must follow. -/
  | paired (high : Nat)
  /-- Behind a high surrogate and a backslash. -/
  | pairedEscape (high : Nat)

/-- A string as read: its characters, last first, and what was noticed on the way. -/
structure Piece where
  chars : List Char := []
  escaped : Bool := false
  flawed : Bool := false

def Piece.push (p : Piece) (c : Char) : Piece := { p with chars := c :: p.chars }

def escapeOf? : Char → Option Char
  | '"' => some '"'
  | '\\' => some '\\'
  | '/' => some '/'
  | 'b' => some '\x08'
  | 'f' => some '\x0c'
  | 'n' => some '\n'
  | 'r' => some '\r'
  | 't' => some '\t'
  | _ => none

/-- Reads a string behind its opening quote, with the text behind its closing quote. A control
character counts as looked at only where the string is read for its value. -/
def string (t : Tolerance) (place : Place) (p : Piece) :
    List Char → Except Fault (Piece × List Char)
  | [] => .error (behind .endInString [])
  | c :: rest =>
    let plain (p : Piece) : Except Fault (Piece × List Char) :=
      if c = '"' then .ok (p, rest)
      else if c = '\\' then string t .escape { p with escaped := true } rest
      else if c.toNat < 0x20 then
        .error ⟨.controlCharacter, c :: rest, if t = .none then 1 else 0⟩
      else string t .text (p.push c) rest
    let escape (high : Option Nat) (p : Piece) : Except Fault (Piece × List Char) :=
      if c = 'u' then do
        fourHex rest
        string t (.digits 4 0 high) p rest
      else match escapeOf? c with
        | some e => string t .text (p.push e) rest
        | none => .error (here .badEscape (c :: rest))
    match place with
    | .text => plain p
    | .escape => escape none p
    | .digits left n high =>
      let n := n * 16 + (hexValue? c).getD 0
      if left ≠ 1 then string t (.digits (left - 1) n high) p rest
      else match high with
        | some high =>
          if 0xDC00 ≤ n ∧ n ≤ 0xDFFF then
            string t .text (p.push (Char.ofNat (0x10000 + (high - 0xD800) * 0x400 + (n - 0xDC00))))
              rest
          else if t = .none then .error (behind .loneSurrogate rest)
          else string t .text { p with flawed := true } rest
        | none =>
          if 0xDC00 ≤ n ∧ n ≤ 0xDFFF then
            if t = .none then .error (behind .loneSurrogate rest)
            else string t .text { p with flawed := true } rest
          else if 0xD800 ≤ n ∧ n ≤ 0xDBFF then string t (.paired n) p rest
          else string t .text (p.push (Char.ofNat n)) rest
    | .paired high =>
      if c = '\\' then string t (.pairedEscape high) p rest
      else if t = .none then .error (here .openSurrogate (c :: rest))
      else plain { p with flawed := true }
    | .pairedEscape high =>
      if c = 'u' then escape (some high) p
      else if t = .none then .error (here .openSurrogate (c :: rest))
      else escape none { p with flawed := true }

/-- The string of a piece, unless surrogates stand alone in it. -/
def Piece.text? (p : Piece) : Option String :=
  if p.flawed then none else some (String.ofList p.chars.reverse)

def isDigit (c : Char) : Bool := '0' ≤ c && c ≤ '9'

def digitValues (cs : List Char) : List Nat := cs.map fun c => c.toNat - '0'.toNat

def fraction (cs : List Char) : Except Fault (List Nat × List Char) :=
  match cs.takeWhile isDigit, cs.dropWhile isDigit with
  | [], [] => .error (here .endInValue [])
  | [], rest => .error (here .badNumber rest)
  | ds, rest => .ok (digitValues ds, rest)

/-- Reads the sign and the digits that must follow an exponent mark. -/
def exponent (cs : List Char) : Except Fault ((Bool × List Nat) × List Char) :=
  let (negative, cs) := match cs with
    | '+' :: rest => (false, rest)
    | '-' :: rest => (true, rest)
    | cs => (false, cs)
  match cs with
  | [] => .error (behind .endInValue [])
  | c :: _ =>
    if isDigit c then .ok ((negative, digitValues (cs.takeWhile isDigit)), cs.dropWhile isDigit)
    else .error (here .badNumber cs)

/-- Reads a number behind its sign: no superfluous leading zero, digits behind a point and an
exponent mark. -/
def literal (negative : Bool) (cs : List Char) : Except Fault (Literal × List Char) := do
  let (whole, rest) ← match cs with
    | [] => .error (behind .endInValue [])
    | '0' :: rest =>
      if (rest.takeWhile isDigit).isEmpty then .ok ([0], rest) else .error (here .badNumber rest)
    | c :: _ =>
      if isDigit c then .ok (digitValues (cs.takeWhile isDigit), cs.dropWhile isDigit)
      else .error (here .badNumber cs)
  let (places, rest) ← match rest with
    | '.' :: rest => do
      let (ds, rest) ← fraction rest
      pure (some ds, rest)
    | rest => pure (none, rest)
  let (power, rest) ← match rest with
    | 'e' :: rest | 'E' :: rest => do
      let (e, rest) ← exponent rest
      pure (some e, rest)
    | rest => pure (none, rest)
  pure (⟨negative, whole, places, power⟩, rest)

/-- The digits of an exponent that follow the one which takes it beyond a signed word of 32 bits,
where `n` stands in front. -/
def excess (n : Nat) : List Nat → List Nat
  | [] => []
  | d :: rest => if 0x7fffffff < n * 10 + d then rest else excess (n * 10 + d) rest

/-- The fault of a literal that is too large for a double, which was read from `cs` up to `rest`. An
exponent is not read beyond where it is too large by itself. -/
def tooLarge (l : Literal) (cs rest : List Char) : Fault :=
  let unread := match l.exponent with
    | some (false, ds) => (excess 0 ds).length
    | _ => 0
  behind .numberTooLarge (cs.drop (cs.length - rest.length - unread))

def number (t : Tolerance) (negative : Bool) (cs : List Char) :
    Except Fault (Document × List Char) := do
  let (l, rest) ← literal negative cs
  match l.value? with
  | some n => pure (.number n, rest)
  | none => flaw t (tooLarge l cs rest) rest

def word (d : Document) : List Char → List Char → Except Fault (Document × List Char)
  | [], cs => .ok (d, cs)
  | _ :: _, [] => .error (behind .endInValue [])
  | w :: ws, c :: cs => if w = c then word d ws cs else .error (here .badWord (c :: cs))

def depthLimit : Nat := 127

/-- Whether all keys of an object can be read. -/
def readableKeys (ms : List (Option Key × Document)) : Option (List (Key × Document)) :=
  ms.mapM fun (k, d) => k.map (·, d)

mutual

/-- Reads a value, with room for so many levels of nesting. The fuel bounds the recursion. -/
def value (t : Tolerance) : Nat → Nat → List Char → Except Fault (Document × List Char)
  | 0, _, cs => .error (here .noValue cs)
  | fuel + 1, room, cs =>
    match skipBlanks cs with
    | [] => .error (here .endInValue [])
    | 'n' :: rest => word .null ['u', 'l', 'l'] rest
    | 't' :: rest => word (.bool true) ['r', 'u', 'e'] rest
    | 'f' :: rest => word (.bool false) ['a', 'l', 's', 'e'] rest
    | '-' :: rest => number t true rest
    | '"' :: rest => do
      let (p, rest) ← string t .text {} rest
      match p.text? with
      | some s => pure (.string s, rest)
      | none => pure (.unreadable, rest)
    | '[' :: rest =>
      if room = 0 ∧ t = .none then .error (here .tooDeep ('[' :: rest))
      else do
        let (ds, rest) ← items t fuel (room - 1) true rest
        pure (if room = 0 then .unreadable else .array ds, rest)
    | '\x7b' :: rest =>
      if room = 0 ∧ t = .none then .error (here .tooDeep ('\x7b' :: rest))
      else do
        let (ms, rest) ← members t fuel (room - 1) true rest
        match readableKeys ms with
        | some ms => pure (if room = 0 then .unreadable else .object ms, rest)
        | none => pure (.unreadable, rest)
    | c :: rest =>
      if isDigit c then number t false (c :: rest) else .error (here .noValue (c :: rest))

/-- Reads the items of an array up to its closing bracket. -/
def items (t : Tolerance) : Nat → Nat → Bool → List Char →
    Except Fault (List Document × List Char)
  | 0, _, _, cs => .error (here .noValue cs)
  | fuel + 1, room, first, cs =>
    match skipBlanks cs with
    | [] => .error (here .endInArray [])
    | ']' :: rest => .ok ([], rest)
    | ',' :: rest =>
      if first then .error (here .noValue (',' :: rest))
      else match skipBlanks rest with
        | [] => .error (here .endInValue [])
        | ']' :: rest => .error (here .trailingComma (']' :: rest))
        | rest => item t fuel room rest
    | c :: rest =>
      if first then item t fuel room (c :: rest) else .error (here .noCommaInArray (c :: rest))

def item (t : Tolerance) : Nat → Nat → List Char → Except Fault (List Document × List Char)
  | 0, _, cs => .error (here .noValue cs)
  | fuel + 1, room, cs => do
    let (d, rest) ← value t fuel room cs
    let (ds, rest) ← items t fuel room false rest
    pure (d :: ds, rest)

/-- Reads the members of an object up to its closing brace. -/
def members (t : Tolerance) : Nat → Nat → Bool → List Char →
    Except Fault (List (Option Key × Document) × List Char)
  | 0, _, _, cs => .error (here .noValue cs)
  | fuel + 1, room, first, cs =>
    match skipBlanks cs with
    | [] => .error (here .endInObject [])
    | '\x7d' :: rest => .ok ([], rest)
    | ',' :: rest =>
      if first then .error (here .noKey (',' :: rest))
      else match skipBlanks rest with
        | [] => .error (here .endInValue [])
        | '"' :: rest => member t fuel room rest
        | '\x7d' :: rest => .error (here .trailingComma ('\x7d' :: rest))
        | rest => .error (here .noKey rest)
    | '"' :: rest =>
      if first then member t fuel room rest else .error (here .noCommaInObject ('"' :: rest))
    | rest => .error (here (if first then .noKey else .noCommaInObject) rest)

/-- Reads a member behind the opening quote of its key, and those after it. -/
def member (t : Tolerance) : Nat → Nat → List Char →
    Except Fault (List (Option Key × Document) × List Char)
  | 0, _, cs => .error (here .noValue cs)
  | fuel + 1, room, cs => do
    let (p, rest) ← string t .text {} cs
    let key : Option Key := p.text?.map (⟨·, !p.escaped⟩)
    match skipBlanks rest with
    | [] => .error (here .endInObject [])
    | ':' :: rest => do
      let (d, rest) ← value t fuel room rest
      let (ms, rest) ← members t fuel room false rest
      pure ((key, d) :: ms, rest)
    | rest => .error (here .noColon rest)

end

/-- Reads a whole text. Every step down or on consumes a character or is one of three between two
that do, which bounds the fuel. -/
def text (t : Tolerance) (cs : List Char) : Except Fault Document := do
  let (d, rest) ← value t (3 * cs.length + 3) depthLimit cs
  match skipBlanks rest with
  | [] => pure d
  | rest => .error (here .trailingText rest)

end Reader

def Document.ofText? (s : String) : Option Document :=
  (Reader.text .markUnreadable s.toList).toOption

/-- The value of a JSON text, or what is wrong with the text. -/
def Value.read (s : String) : Except Fault Value := do
  let d ← Reader.text .none s.toList
  match d.value? with
  | some v => pure v
  | none => .error (Reader.here .noValue s.toList)

def Value.ofText? (s : String) : Option Value := (Value.read s).toOption

end Flowgraph.Json
