import FluentAssert.Canonical
import FluentAssert.Native

/-! Canonical values as native ones, which is how they are handed on. -/
namespace FluentAssert.Native

mutual

def ofCanonical : Canonical → Native
  | .null => unit
  | .bool b => bool b
  | .number x => double x
  | .text s => text s
  | .array items => seq (ofCanonicalItems items)
  | .object fields => map (ofCanonicalFields fields)

def ofCanonicalItems : List Canonical → List Native
  | [] => []
  | item :: rest => ofCanonical item :: ofCanonicalItems rest

def ofCanonicalFields : List (String × Canonical) → List (Native × Native)
  | [] => []
  | (key, value) :: rest => (text key, ofCanonical value) :: ofCanonicalFields rest

end

end FluentAssert.Native
