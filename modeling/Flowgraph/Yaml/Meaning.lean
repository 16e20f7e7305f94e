import Flowgraph.Decimal.Nearest
import Flowgraph.Json.Reader
import Flowgraph.Yaml.Document

namespace Flowgraph.Yaml

open Json

def isNull (s : String) : Bool := ["~", "null", "Null", "NULL"].contains s

def flag? (s : String) : Option Bool :=
  if ["true", "True", "TRUE"].contains s then some true
  else if ["false", "False", "FALSE"].contains s then some false
  else none

/-- The number that digits spell in a base. There is at least one. -/
def natIn? (base : Nat) (cs : List Char) : Option Nat := do
  let ds ← cs.mapM Reader.hexValue?
  if ds.isEmpty ∨ ds.any (base ≤ ·) then none else some (ds.foldl (fun n d => n * base + d) 0)

/-- Whether a text has a superfluous zero in front, which makes it no number. -/
def isPadded (cs : List Char) : Bool :=
  let digits := match cs with
    | '+' :: rest | '-' :: rest => rest
    | cs => cs
  1 < digits.length && digits.head? = some '0' && digits.all Char.isDigit

/-- The magnitude that a text without a sign spells: with a mark for its base, or in decimal. -/
def magnitude? (cs : List Char) : Option Nat :=
  let marked := match cs with
    | '0' :: 'x' :: rest => natIn? 16 rest
    | '0' :: 'o' :: rest => natIn? 8 rest
    | '0' :: 'b' :: rest => natIn? 2 rest
    | _ => none
  marked.or (if isPadded cs then none else natIn? 10 cs)

/-- The integer that a text spells, if 128 bits hold it. -/
def integer? (s : String) : Option Int :=
  match s.toList with
  | '-' :: rest =>
    (magnitude? rest).bind fun n =>
      if n ≤ 0x80000000000000000000000000000000 then some (-(n : Int)) else none
  | '+' :: rest | rest =>
    (magnitude? rest).bind fun n =>
      if n < 0x100000000000000000000000000000000 then some (n : Int) else none

/-- The natural number of 64 bits that a text spells. -/
def nat? (s : String) : Option Nat :=
  match s.toList with
  | '-' :: _ => none
  | _ => (integer? s).bind fun n => if n < 0x10000000000000000 then some n.toNat else none

/-- The exponent behind its mark, or none where there is no mark. -/
def power? : List Char → Option Int
  | [] => some 0
  | c :: rest =>
    if c ≠ 'e' ∧ c ≠ 'E' then none
    else match rest with
      | '-' :: ds => (natIn? 10 ds).map fun n => -(n : Int)
      | '+' :: ds | ds => (natIn? 10 ds).map fun n => (n : Int)

/-- The double nearest to what a text without a sign spells: digits, of which some may stand behind
a point, and an exponent. -/
def decimal? (negative : Bool) (cs : List Char) : Option Decimal.Double := do
  let whole := cs.takeWhile Char.isDigit
  let rest := cs.dropWhile Char.isDigit
  let (places, rest) := match rest with
    | '.' :: rest => (rest.takeWhile Char.isDigit, rest.dropWhile Char.isDigit)
    | rest => ([], rest)
  let digits ← natIn? 10 (whole ++ places)
  let power ← power? rest
  some (Decimal.Double.nearest negative digits (power - places.length))

/-- The double that a text spells. Of decimals that are too large there is none. -/
def double? (s : String) : Option Decimal.Double :=
  if [".inf", ".Inf", ".INF", "+.inf", "+.Inf", "+.INF"].contains s then some (.infinite false)
  else if ["-.inf", "-.Inf", "-.INF"].contains s then some (.infinite true)
  else if [".nan", ".NaN", ".NAN"].contains s then some .undefined
  else
    let d := match s.toList with
      | '-' :: rest => decimal? true rest
      | '+' :: rest | rest => decimal? false rest
    d.filter fun d => match d with
      | .finite .. => true
      | _ => false

/-- What a scalar stands for. -/
inductive Meaning where
  | nothing
  | flag (b : Bool)
  | integer (n : Int)
  | double (d : Decimal.Double)
  | text (s : String)
deriving DecidableEq, Repr

/-- What a text without quotes and tags stands for. -/
def Meaning.ofPlain (s : String) : Meaning :=
  if s = "" ∨ isNull s then .nothing
  else match flag? s, integer? s, double? s with
    | some b, _, _ => .flag b
    | none, some n, _ => .integer n
    | none, none, some d => if isPadded s.toList then .text s else .double d
    | none, none, none => .text s

namespace Scalar

/-- The full name of a tag of the standard. -/
def standardTag (name : String) : String := "tag:yaml.org,2002:" ++ name

/-- Whether a scalar has a tag of the standard. -/
def isTagged (s : Scalar) (name : String) : Bool := s.tag = some (standardTag name)

/-- What a scalar stands for. A tag of the standard decides how the text is read, where the text
can be read so. -/
def meaning (s : Scalar) : Meaning :=
  if s.isTagged "bool" then (flag? s.text).elim (.text s.text) .flag
  else if s.isTagged "int" then (integer? s.text).elim (.text s.text) .integer
  else if s.isTagged "float" then (double? s.text).elim (.text s.text) .double
  else if s.isTagged "null" then if isNull s.text then .nothing else .text s.text
  else if s.style = .plain ∧ s.tag.all (·.startsWith "!") then .ofPlain s.text
  else .text s.text

/-- Whether a scalar is read by its text: without quotes, or as a literal block of lines with the
tag for it. -/
def isReadAs (s : Scalar) (name : String) : Bool :=
  s.style = .plain || (s.style = .literal && s.isTagged name)

end Scalar

end Flowgraph.Yaml
