import FluentAssert.Duration
import FluentAssert.Fields
import FluentAssert.Number.Binary
import FluentAssert.Text.Utf8

/-! Stores of typed values under text keys. Reading asks for a type or for a reading that accepts
several types; nothing is ever converted silently. -/
namespace FluentAssert

inductive StoredType where
  | i8 | i16 | i32 | i64 | i128 | isize | u8 | u16 | u32 | u64 | u128 | usize
  | f32 | f64 | bool | char | unit | text | literal | bytes | duration | alarmed
  deriving DecidableEq, Repr

namespace StoredType

/-- Integer types, with the names they have in messages. -/
def integers : List (StoredType × String) :=
  [(i8, "i8"), (i16, "i16"), (i32, "i32"), (i64, "i64"), (i128, "i128"), (isize, "isize"),
   (u8, "u8"), (u16, "u16"), (u32, "u32"), (u64, "u64"), (u128, "u128"), (usize, "usize")]

def isInteger (type : StoredType) : Bool := integers.any (·.1 == type)

/-- Integer types of more than 64 bits, which are not read as integers. -/
def isWide (type : StoredType) : Bool := type == i128 || type == u128

def label (type : StoredType) : String :=
  match integers.lookup type with
  | some name => name
  | none =>
    match type with
    | f32 => "f32"
    | f64 => "f64"
    | bool => "bool"
    | char => "char"
    | unit => "()"
    | text => "alloc::string::String"
    | literal => "&str"
    | bytes => "alloc::vec::Vec<u8>"
    | duration => "core::time::Duration"
    | _ => ""

end StoredType

inductive Stored where
  | integer (type : StoredType) (n : Int)
  | single (x : Single)
  | double (x : Double)
  | bool (b : Bool)
  | char (c : Char)
  | unit
  | text (s : String)
  /-- Text that is fixed for the whole program. -/
  | literal (s : String)
  | bytes (content : Text.Bytes)
  | duration (d : Duration)
  /-- A value that unwinds, for the given reason, once it has left its store. -/
  | alarmed (reason : String)

namespace Stored

def type : Stored → StoredType
  | integer type _ => type
  | single _ => .f32
  | double _ => .f64
  | bool _ => .bool
  | char _ => .char
  | unit => .unit
  | text _ => .text
  | literal _ => .literal
  | bytes _ => .bytes
  | duration _ => .duration
  | alarmed _ => .alarmed

def alarm? : Stored → Option String
  | alarmed reason => some reason
  | _ => none

def ofType? (type : StoredType) (stored : Stored) : Option Stored :=
  if stored.type = type then some stored else none

def text? : Stored → Option String
  | text s => some s
  | literal s => some s
  | _ => none

/-- An integer of at most 64 bits that a signed 64-bit integer holds. -/
def integer? : Stored → Option Int
  | integer type n =>
    if type.isInteger ∧ ¬ type.isWide ∧ -(Nat.pow 2 63 : Int) ≤ n ∧ n < (Nat.pow 2 63 : Int) then
      some n
    else none
  | _ => none

def number? : Stored → Option Double
  | double x => some x
  | single x => some (x.convert .double)
  | stored => stored.integer?.map Double.ofInt

def bool? : Stored → Option Bool
  | bool b => some b
  | _ => none

def bytes? : Stored → Option Text.Bytes
  | bytes content => some content
  | stored => stored.text?.map Text.encodeUtf8

def duration? : Stored → Option Duration
  | duration d => some d
  | _ => none

end Stored

/-- The values of an environment, by key. -/
abbrev Store := Fields Stored

namespace Store

/-- The value under a key where it has exactly this type. -/
def tryGet (store : Store) (type : StoredType) (key : String) : Option Stored :=
  (Fields.get? store key).bind (·.ofType? type)

/-- The first reason among values that leave a store together. -/
def alarm? (leaving : List Stored) : Option String := leaving.findSome? Stored.alarm?

end Store
end FluentAssert
