import Flowgraph.Json.Reader
import Flowgraph.Yaml.Text

namespace Flowgraph.Yaml

/-- What is read when a tag is read, as it is called in faults. -/
inductive TagPlace where
  | node
  | directive
deriving DecidableEq

namespace TagPlace

/-- What is being read, in faults of the tag's text. -/
def scanning : TagPlace → String
  | node => "while scanning a tag"
  | directive => "while scanning a directive"

/-- What is being read, in faults of an address in the tag. -/
def parsing : TagPlace → String
  | node => "while parsing a tag"
  | directive => "while parsing a %TAG directive"

end TagPlace

/-- Whether an escaped octet starts a character, and of how many octets. -/
def octetsFrom (octet : Nat) : Nat :=
  if octet < 0x80 then 1
  else if 0xc0 ≤ octet ∧ octet < 0xe0 then 2
  else if 0xe0 ≤ octet ∧ octet < 0xf0 then 3
  else if 0xf0 ≤ octet ∧ octet < 0xf8 then 4
  else 0

def addressFault {α : Type} (place : TagPlace) (start : Mark) (problem : String) (c : Cursor) :
    Except Fault α :=
  .error ⟨problem, c.mark, 0, some (place.parsing, start)⟩

def octet (place : TagPlace) (start : Mark) (c : Cursor) : Except Fault (Nat × Cursor) :=
  match c.rest with
  | '%' :: x :: y :: _ =>
    match Json.Reader.hexValue? x, Json.Reader.hexValue? y with
    | some a, some b => .ok (a * 16 + b, c.advance 3)
    | _, _ => addressFault place start "did not find URI escaped octet" c
  | _ => addressFault place start "did not find URI escaped octet" c

/-- Reads so many octets inside a character. An octet is kept as the character with its number. -/
def innerOctets (place : TagPlace) (start : Mark) :
    Nat → Cursor → Except Fault (List Char × Cursor)
  | 0, c => .ok ([], c)
  | left + 1, c => do
    let (n, after) ← octet place start c
    if n < 0x80 ∨ 0xc0 ≤ n then
      addressFault place start "found an incorrect trailing UTF-8 octet" c
    else
      let (more, after) ← innerOctets place start left after
      pure (Char.ofNat n :: more, after)

def octets (place : TagPlace) (start : Mark) (c : Cursor) :
    Except Fault (List Char × Cursor) := do
  let (n, after) ← octet place start c
  if octetsFrom n = 0 then addressFault place start "found an incorrect leading UTF-8 octet" c
  else
    let (more, after) ← innerOctets place start (octetsFrom n - 1) after
    pure (Char.ofNat n :: more, after)

/-- Whether a character may stand in an address as it is. Brackets and commas may where nothing
else could be meant. -/
def isAddressChar (brackets : Bool) (c : Char) : Bool :=
  isNameChar c || ";/?:@&=+$.!~*'()%".toList.contains c || (brackets && ",[]".toList.contains c)

def address (place : TagPlace) (brackets : Bool) (start : Mark) :
    Nat → Cursor → Except Fault (List Char × Cursor)
  | 0, c => .ok ([], c)
  | fuel + 1, c =>
    match c.next with
    | none => .ok ([], c)
    | some x =>
      if !isAddressChar brackets x then .ok ([], c)
      else do
        let (s, c) ← if x = '%' then octets place start c else pure ([x], c.advance 1)
        let (more, c) ← address place brackets start fuel c
        pure (s ++ more, c)

/-- A text up to the first null character, which ends it. -/
def upToNull (cs : List Char) : String := String.ofList (cs.takeWhile (· ≠ '\x00'))

/-- Reads an address, which is not empty unless something stands in front of it already. -/
def tagAddress (place : TagPlace) (brackets : Bool) (start : Mark) (front : List Char)
    (c : Cursor) : Except Fault (String × Cursor) := do
  let (s, c) ← address place brackets start (c.rest.length + 1) c
  if front.isEmpty ∧ s.isEmpty then
    addressFault place start "did not find expected tag URI" c
  else pure (upToNull (front.drop 1 ++ s), c)

/-- Reads the short name of a group of tags, between exclamation marks. On a node the second mark
may be missing. -/
def tagHandle (place : TagPlace) (start : Mark) (c : Cursor) :
    Except Fault (List Char × Cursor) := do
  if c.next ≠ some '!' then
    throw ⟨"did not find expected '!'", c.mark, 0, some (place.scanning, start)⟩
  let (name, c) := (c.advance 1).span isNameChar
  if c.next = some '!' then return ('!' :: name ++ ['!'], c.advance 1)
  if place = .directive ∧ !name.isEmpty then
    throw ⟨"did not find expected '!'", c.mark, 0, some (place.parsing, start)⟩
  return ('!' :: name, c)

/-- Whether a name stands between two exclamation marks, or nothing does. -/
def isHandle (s : List Char) : Bool :=
  s.head? = some '!' && 1 < s.length && s.getLast? = some '!'

/-- Reads a tag as its handle, which is empty where the tag is written out, and the rest of it. -/
def tag (inFlow : Bool) (c : Cursor) : Except Fault (String × String × Cursor) := do
  let start := c.mark
  let (handle, suffix, c) ←
    if c.second = some '<' then do
      let (suffix, c) ← tagAddress .node true start [] (c.advance 2)
      if c.next ≠ some '>' then
        throw ⟨"did not find the expected '>'", c.mark, 0, some (TagPlace.node.scanning, start)⟩
      pure ("", suffix, c.advance 1)
    else do
      let (handle, c) ← tagHandle .node start c
      if isHandle handle then
        let (suffix, c) ← tagAddress .node false start [] c
        pure (String.ofList handle, suffix, c)
      else
        let (suffix, c) ← tagAddress .node false start handle c
        pure (if suffix = "" then ("", "!", c) else ("!", suffix, c))
  if !(inFlow ∧ c.next = some ',') ∧ !endsWord c.next then
    throw ⟨"did not find expected whitespace or line break", c.mark, 0,
      some (TagPlace.node.scanning, start)⟩
  pure (handle, suffix, c)

/-- Reads the name of an anchor behind its mark. -/
def anchorName (what : String) (c : Cursor) : Except Fault (String × Cursor) :=
  let (name, after) := (c.advance 1).span isNameChar
  if name.isEmpty ∨ !(endsWord after.next ∨ after.isAt "?:,]\x7d%@\x60".toList.contains) then
    .error ⟨"did not find expected alphabetic or numeric character", after.mark, 0,
      some (what, c.mark)⟩
  else .ok (String.ofList name, after)

/-- A line of instructions for a document. -/
inductive Directive where
  | version (major minor : Nat)
  /-- A short name for the start of tags. -/
  | tags (handle scope : String)
deriving DecidableEq, Repr

def versionNumber (start : Mark) (c : Cursor) : Except Fault (Nat × Cursor) :=
  let context := ("while scanning a %YAML directive", start)
  let (ds, after) := c.span Char.isDigit
  if ds.isEmpty then
    .error ⟨"did not find expected version number", after.mark, 0, some context⟩
  else if 9 < ds.length then
    .error ⟨"found extremely long version number", (c.advance 9).mark, 0, some context⟩
  else .ok (ds.foldl (fun n d => n * 10 + (d.toNat - '0'.toNat)) 0, after)

def directiveValue (name : String) (start : Mark) (c : Cursor) :
    Except Fault (Directive × Cursor) := do
  let c := c.skip isBlank
  if name = "YAML" then
    let (major, c) ← versionNumber start c
    if c.next ≠ some '.' then
      throw ⟨"did not find expected digit or '.' character", c.mark, 0,
        some ("while scanning a %YAML directive", start)⟩
    let (minor, c) ← versionNumber start (c.advance 1)
    pure (.version major minor, c)
  else
    let context := ("while scanning a %TAG directive", start)
    let (handle, c) ← tagHandle .directive start c
    if !c.isAt isBlank then throw ⟨"did not find expected whitespace", c.mark, 0, some context⟩
    let (scope, c) ← tagAddress .directive true start [] (c.skip isBlank)
    if !endsWord c.next then
      throw ⟨"did not find expected whitespace or line break", c.mark, 0, some context⟩
    pure (.tags (String.ofList handle) scope, c)

/-- Reads a directive from its mark on to the start of the next line. -/
def directive (c : Cursor) : Except Fault (Directive × Cursor) := do
  let start := c.mark
  let context := ("while scanning a directive", start)
  let (name, c) := (c.advance 1).span isNameChar
  if name.isEmpty then
    throw ⟨"could not find expected directive name", c.mark, 0, some context⟩
  if !endsWord c.next then
    throw ⟨"found unexpected non-alphabetical character", c.mark, 0, some context⟩
  let name := String.ofList name
  if name ≠ "YAML" ∧ name ≠ "TAG" then
    throw ⟨"found unknown directive name", c.mark, 0, some context⟩
  let (d, c) ← directiveValue name start c
  let c := (c.skip isBlank).skipComment
  if !c.rest.isEmpty ∧ !c.isAt isBreak then
    throw ⟨"did not find expected comment or line break", c.mark, 0, some context⟩
  pure (d, c.nextLine)

end Flowgraph.Yaml
