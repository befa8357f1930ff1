import FluentAssert.Number.Binary

/-! Native values, as typed programs hand them over: every width of integer, options, wrappers,
records, variants and maps with keys of any kind, each as one node of a tree. A value may also
refuse to be handed over. -/
namespace FluentAssert

inductive Width where
  | i8 | i16 | i32 | i64 | i128 | u8 | u16 | u32 | u64 | u128
  deriving DecidableEq, Repr

namespace Width

def signed : Width → Bool
  | .i8 | .i16 | .i32 | .i64 | .i128 => true
  | _ => false

def bits : Width → Nat
  | .i8 | .u8 => 8
  | .i16 | .u16 => 16
  | .i32 | .u32 => 32
  | .i64 | .u64 => 64
  | .i128 | .u128 => 128

def Holds (width : Width) (n : Int) : Prop :=
  if width.signed then
    -(Nat.pow 2 (width.bits - 1) : Int) ≤ n ∧ n < (Nat.pow 2 (width.bits - 1) : Int)
  else 0 ≤ n ∧ n < (Nat.pow 2 width.bits : Int)

instance (width : Width) (n : Int) : Decidable (width.Holds n) := by
  unfold Holds; infer_instance

end Width

inductive Native where
  | bool (b : Bool)
  | integer (width : Width) (n : Int) (fits : width.Holds n)
  | single (x : Single)
  | double (x : Double)
  | char (c : Char)
  | text (s : String)
  | bytes (content : List UInt8)
  | none
  | unit
  /-- A record type without fields. -/
  | unitStruct
  | some (value : Native)
  /-- A named wrapper around one value. -/
  | newtype (value : Native)
  | unitVariant (name : String)
  | newtypeVariant (name : String) (value : Native)
  | seq (items : List Native)
  | tuple (items : List Native)
  | tupleStruct (items : List Native)
  | tupleVariant (name : String) (items : List Native)
  | map (entries : List (Native × Native))
  | struct (fields : List (String × Native))
  | structVariant (name : String) (fields : List (String × Native))
  /-- A map told by single keys and values, on the left and on the right, in any order: of keys in a
  row the last one counts, and a key that no value follows is dropped. -/
  | loose (told : List (Native ⊕ Native))
  /-- A value that refuses, and why. -/
  | failing (reason : String)

/-- A map whose only value comes without a key. -/
def Native.keyless (value : Native) : Native := .loose [.inr value]

end FluentAssert
