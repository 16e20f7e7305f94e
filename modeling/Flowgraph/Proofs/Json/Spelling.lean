import Flowgraph.Proofs.Json.Token

namespace Flowgraph.Json

/-- Which keys are written without escapes; whole numbers always are. -/
structure Spelling where
  plain : String → Bool
  integer : ∀ n : Int, plain (String.ofList (integerText n)) = true

namespace Value

mutual

def spelled (σ : Spelling) : Value → Document
  | .null => .null
  | .bool b => .bool b
  | .number n => .number n
  | .string s => .string s
  | .array items => .array (spelledItems σ items)
  | .object members => .object (spelledMembers σ members)

def spelledItems (σ : Spelling) : List Value → List Document
  | [] => []
  | v :: rest => spelled σ v :: spelledItems σ rest

def spelledMembers (σ : Spelling) : List (String × Value) → List (Key × Document)
  | [] => []
  | (k, v) :: rest => (⟨k, σ.plain k⟩, spelled σ v) :: spelledMembers σ rest

end

end Value

namespace Spelling

def unwritten : Spelling := ⟨fun _ => true, fun _ => rfl⟩

mutual

theorem toDocument_eq : ∀ v : Value, v.toDocument = v.spelled unwritten
  | .null => rfl
  | .bool _ => rfl
  | .number _ => rfl
  | .string _ => rfl
  | .array items => congrArg Document.array (toDocuments_eq items)
  | .object members => congrArg Document.object (toMembers_eq members)

theorem toDocuments_eq : ∀ vs : List Value, Value.toDocuments vs = Value.spelledItems unwritten vs
  | [] => rfl
  | v :: vs => by rw [Value.toDocuments, Value.spelledItems, toDocument_eq, toDocuments_eq]

theorem toMembers_eq : ∀ ms : Members, Value.toMembers ms = Value.spelledMembers unwritten ms
  | [] => rfl
  | (k, v) :: ms => by
    rw [Value.toMembers, Value.spelledMembers, toDocument_eq, toMembers_eq]
    rfl

end

theorem escapeChar_digit {c : Char} (digit : c.isDigit = true) : escapeChar c = [c] := by
  have other {d : Char} : d.isDigit = false → c ≠ d := ne_of_isDigit digit
  have above : ¬c.toNat < 0x20 := by
    simp only [Char.isDigit, Bool.and_eq_true, decide_eq_true_eq] at digit
    have least : 48 ≤ c.toNat := digit.1
    omega
  rw [escapeChar, if_neg (other rfl), if_neg (other rfl), if_neg (other rfl), if_neg (other rfl),
    if_neg (other rfl), if_neg (other rfl), if_neg (other rfl), if_neg above]

def printed : Spelling where
  plain := unescaped
  integer n := by
    rw [unescaped, String.toList_ofList, List.all_eq_true]
    intro c mem
    rcases mem_integerText mem with digit | rfl
    · rw [escapeChar_digit digit]
      rfl
    · rfl

end Spelling

end Flowgraph.Json
