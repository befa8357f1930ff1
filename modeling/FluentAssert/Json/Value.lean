import FluentAssert.Fields
import FluentAssert.Number.Binary

/-! JSON documents. Integers of up to 64 bits are kept as integers, all other numbers as doubles. -/
namespace FluentAssert

inductive Json where
  | null
  | bool (b : Bool)
  | integer (n : Int)
  | real (x : Double)
  | text (s : String)
  | list (items : List Json)
  | object (fields : List (String × Json))

namespace Json

def KeptInteger (n : Int) : Prop := -(Nat.pow 2 63 : Int) ≤ n ∧ n < (Nat.pow 2 64 : Int)

instance (n : Int) : Decidable (KeptInteger n) := inferInstanceAs (Decidable (_ ∧ _))

def get? (document : Json) (key : String) : Option Json :=
  match document with
  | .object fields => Fields.get? fields key
  | _ => none

end Json
end FluentAssert
