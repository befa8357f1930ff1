import FluentAssert.Json.Value
import FluentAssert.Native

/-! JSON documents as native values. Integers are handed over in 64 bits. -/
namespace FluentAssert.Native

/-- An integer in the signed or unsigned 64-bit width, or as a double where neither holds it. -/
def ofInteger (n : Int) : Native :=
  if fits : Width.i64.Holds n then integer .i64 n fits
  else if fits : Width.u64.Holds n then integer .u64 n fits
  else double (Double.ofInt n)

mutual

def ofJson : Json → Native
  | .null => unit
  | .bool b => bool b
  | .integer n => ofInteger n
  | .real x => double x
  | .text s => text s
  | .list items => seq (ofJsonItems items)
  | .object fields => map (ofJsonFields fields)

def ofJsonItems : List Json → List Native
  | [] => []
  | item :: rest => ofJson item :: ofJsonItems rest

def ofJsonFields : List (String × Json) → List (Native × Native)
  | [] => []
  | (key, value) :: rest => (text key, ofJson value) :: ofJsonFields rest

end

end FluentAssert.Native
