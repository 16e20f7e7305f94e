import Flowgraph.Settings.Codec

namespace Flowgraph.Settings

open Json

namespace Complaint

/-- Something said of the place behind what was read. -/
def behind (whole left : List Char) (what : String) : String :=
  let (line, column) := positionAfter (byteCount whole - byteCount left) whole (1, 0)
  s!"{what} at line {line} column {column}"

def ofFault {α : Type} (whole : List Char) (r : Except Fault α) : Except String α :=
  r.mapError (Fault.message whole)

def foundNumber : Number → Found
  | .int n => .integer n
  | .float bits => .double (String.ofList (floatText bits))

/-- Reads a scalar as something found, or only looks at the bracket of anything else. -/
def found : List Char → Except Fault (Found × List Char)
  | 'n' :: rest => do
    let (_, rest) ← Reader.word .null ['u', 'l', 'l'] rest
    pure (.nothing, rest)
  | 't' :: rest => do
    let (_, rest) ← Reader.word .null ['r', 'u', 'e'] rest
    pure (.flag true, rest)
  | 'f' :: rest => do
    let (_, rest) ← Reader.word .null ['a', 'l', 's', 'e'] rest
    pure (.flag false, rest)
  | '"' :: rest => do
    let (p, rest) ← Reader.string .none .text {} rest
    pure (.text (p.text?.getD ""), rest)
  | '[' :: rest => pure (.list, '[' :: rest)
  | '\x7b' :: rest => pure (.record, '\x7b' :: rest)
  | cs => do
    let (negative, digits) := match cs with
      | '-' :: rest => (true, rest)
      | cs => (false, cs)
    if cs.isEmpty then throw (Reader.here .endInValue [])
    if !negative ∧ !cs.head?.any Reader.isDigit then throw (Reader.here .noValue cs)
    let (l, rest) ← Reader.literal negative digits
    match l.value? with
    | some n => pure (foundNumber n, rest)
    | none => throw (Reader.tooLarge l digits rest)

/-- The text behind a setting that fits, or what is wrong with the setting. -/
def setting (whole : List Char) (k : Kind) (cs : List Char) : Except String (List Char) := do
  let (f, rest) ← ofFault whole (found (Reader.skipBlanks cs))
  if f = .nothing then pure rest
  else match k.accept f with
    | .ok _ => pure rest
    | .error what => throw (behind whole rest what)

def colon : List Char → Except Fault (List Char)
  | [] => .error (Reader.here .endInObject [])
  | ':' :: rest => .ok rest
  | rest => .error (Reader.here .noColon rest)

/-- The text behind the object that ends here, if it does. -/
def closed (cs : List Char) : List Char :=
  match Reader.skipBlanks cs with
  | '\x7d' :: rest => rest
  | rest => rest

/-- The next key behind its opening quote, or the text behind the closing brace. -/
def nextKey (first : Bool) (cs : List Char) : Except Fault (List Char ⊕ List Char) :=
  match Reader.skipBlanks cs with
  | [] => .error (Reader.here .endInObject [])
  | '\x7d' :: rest => .ok (.inr rest)
  | '"' :: rest =>
    if first then .ok (.inl rest) else .error (Reader.here .noCommaInObject ('"' :: rest))
  | ',' :: rest =>
    if first then .error (Reader.here .noKey (',' :: rest))
    else match Reader.skipBlanks rest with
      | [] => .error (Reader.here .endInValue [])
      | '"' :: rest => .ok (.inl rest)
      | '\x7d' :: rest => .error (Reader.here .trailingComma ('\x7d' :: rest))
      | rest => .error (Reader.here .noKey rest)
  | rest => .error (Reader.here (if first then .noKey else .noCommaInObject) rest)

/-- Goes through the members of an object up to the text behind it. -/
def members (whole : List Char) : Nat → Bool → List String → List Char → Except String (List Char)
  | 0, _, _, cs => .ok cs
  | fuel + 1, first, seen, cs => do
    match ← ofFault whole (nextKey first cs) with
    | .inr rest => pure rest
    | .inl rest =>
      let (p, rest) ← ofFault whole (Reader.string .none .text {} rest)
      let key := p.text?.getD ""
      if seen.contains key then throw (behind whole (closed rest) (repeated key))
      let rest' ← match kind? key with
        | some k => setting whole k (← ofFault whole (colon (Reader.skipBlanks rest)))
        | none => ofFault whole (do
          let rest ← colon (Reader.skipBlanks rest)
          let (_, rest) ← Reader.value .markUnreadable (3 * rest.length + 3) Reader.depthLimit rest
          pure rest)
      members whole fuel false (if (kind? key).isSome then key :: seen else seen) rest'

/-- Goes through the items of an array, one for each setting, up to the text behind it. -/
def items (whole : List Char) : Nat → List Kind → List Char → Except String (List Char)
  | i, k :: ks, cs =>
    match Reader.skipBlanks cs with
    | [] => ofFault whole (.error (Reader.here .endInArray []))
    | ']' :: rest => .error (behind whole rest (wrongLength i))
    | ',' :: rest =>
      if i = 0 then do items whole (i + 1) ks (← setting whole k (',' :: rest))
      else match Reader.skipBlanks rest with
        | [] => ofFault whole (.error (Reader.here .endInValue []))
        | ']' :: rest => ofFault whole (.error (Reader.here .trailingComma (']' :: rest)))
        | rest => do items whole (i + 1) ks (← setting whole k rest)
    | rest =>
      if i = 0 then do items whole (i + 1) ks (← setting whole k rest)
      else ofFault whole (.error (Reader.here .noCommaInArray rest))
  | _, [], cs =>
    match Reader.skipBlanks cs with
    | [] => ofFault whole (.error (Reader.here .endInArray []))
    | ']' :: rest => .ok rest
    | ',' :: rest =>
      match Reader.skipBlanks rest with
      | ']' :: rest => ofFault whole (.error (Reader.here .trailingComma (']' :: rest)))
      | rest => ofFault whole (.error (Reader.here .trailingText rest))
    | rest => ofFault whole (.error (Reader.here .trailingText rest))

def walk (whole : List Char) : Except String Unit := do
  let rest ← match Reader.skipBlanks whole with
    | '\x7b' :: rest => members whole whole.length true [] rest
    | '[' :: rest => items whole 0 (declared.map (·.2)) rest
    | cs => do
      let (f, rest) ← ofFault whole (found cs)
      throw (behind whole rest (misfit f wholeName))
  match Reader.skipBlanks rest with
  | [] => pure ()
  | rest => ofFault whole (.error (Reader.here .trailingText rest))

/-- What is wrong with a text that is not a layer of settings. -/
def ofText (text : String) : String :=
  match walk text.toList with
  | .error what => what
  | .ok () => "invalid settings"

end Complaint

def Layer.ofJson (text : String) : Except String Layer :=
  match (Document.ofText? text).bind Layer.decode? with
  | some l => .ok l
  | none => .error (Complaint.ofText text)

end Flowgraph.Settings
