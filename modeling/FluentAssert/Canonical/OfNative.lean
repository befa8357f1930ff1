import FluentAssert.Canonical
import FluentAssert.Native
import FluentAssert.Number.Layout

/-! The canonical form of native values. Wrappers vanish, records and variants become objects, and
an option around an empty container counts as nothing. The first offence in order of traversal is
the error; a map's key is visited before its value. -/
namespace FluentAssert

inductive CanonicalError where
  /-- A map key has no text; the shape says what it is instead. -/
  | keyNotText (shape : String)
  | refused (reason : String)
  deriving DecidableEq, Repr

def CanonicalError.message : CanonicalError → String
  | .keyNotText shape => "map key must be text, got " ++ shape
  | .refused reason => reason

namespace Canonical

def ofDouble (x : Double) : Canonical := if x.isFinite then number x else null

def collapseEmpty : Canonical → Canonical
  | array [] => null
  | object [] => null
  | value => value

def tagged (name : String) (payload : Canonical) : Canonical := object [(name, payload)]

def keyText : Native → Except CanonicalError String
  | .bool b => .ok (if b then "true" else "false")
  | .integer _ n _ => .ok (toString n)
  | .single x => .ok (Layout.plain.write x)
  | .double x => .ok (Layout.plain.write x)
  | .char c => .ok (String.singleton c)
  | .text s => .ok s
  | .unitVariant name => .ok name
  | .some value => keyText value
  | .newtype value => keyText value
  | .failing reason => .error (.refused reason)
  | .bytes _ => .error (.keyNotText "bytes")
  | .none => .error (.keyNotText "none")
  | .unit => .error (.keyNotText "unit")
  | .unitStruct => .error (.keyNotText "unit struct")
  | .newtypeVariant .. => .error (.keyNotText "enum variant")
  | .tupleVariant .. => .error (.keyNotText "enum variant")
  | .structVariant .. => .error (.keyNotText "enum variant")
  | .seq _ => .error (.keyNotText "sequence")
  | .tuple _ => .error (.keyNotText "tuple")
  | .tupleStruct _ => .error (.keyNotText "tuple struct")
  | .map _ => .error (.keyNotText "map")
  | .loose _ => .error (.keyNotText "map")
  | .struct _ => .error (.keyNotText "struct")

mutual

def ofNative : Native → Except CanonicalError Canonical
  | .bool b => .ok (bool b)
  | .integer _ n _ => .ok (ofDouble (Double.ofInt n))
  | .single x => .ok (ofDouble (x.convert .double))
  | .double x => .ok (ofDouble x)
  | .char c => .ok (text (String.singleton c))
  | .text s => .ok (text s)
  | .bytes content => .ok (array (content.map fun b => ofNat b.toNat))
  | .none => .ok null
  | .unit => .ok null
  | .unitStruct => .ok null
  | .some value => (ofNative value).map collapseEmpty
  | .newtype value => ofNative value
  | .unitVariant name => .ok (text name)
  | .newtypeVariant name value => (ofNative value).map (tagged name)
  | .seq items => (ofItems items).map array
  | .tuple items => (ofItems items).map array
  | .tupleStruct items => (ofItems items).map array
  | .tupleVariant name items => (ofItems items).map fun values => tagged name (array values)
  | .map entries => (ofEntries entries).map fun fields => object (Fields.ofEntries fields)
  | .struct fields => (ofFields fields).map fun fields => object (Fields.ofEntries fields)
  | .structVariant name fields =>
    (ofFields fields).map fun fields => tagged name (object (Fields.ofEntries fields))
  | .loose told => (ofLoose none told).map fun fields => object (Fields.ofEntries fields)
  | .failing reason => .error (.refused reason)

def ofItems : List Native → Except CanonicalError (List Canonical)
  | [] => .ok []
  | item :: rest => do
    let value ← ofNative item
    let values ← ofItems rest
    return value :: values

/-- Entries of a map, in their order and with repeated keys. -/
def ofEntries : List (Native × Native) → Except CanonicalError (List (String × Canonical))
  | [] => .ok []
  | (key, value) :: rest => do
    let key ← keyText key
    let value ← ofNative value
    let entries ← ofEntries rest
    return (key, value) :: entries

def ofFields : List (String × Native) → Except CanonicalError (List (String × Canonical))
  | [] => .ok []
  | (key, value) :: rest => do
    let value ← ofNative value
    let fields ← ofFields rest
    return (key, value) :: fields

/-- Entries of a map told by single keys and values, where a key may wait for its value. -/
def ofLoose : Option String → List (Native ⊕ Native) →
    Except CanonicalError (List (String × Canonical))
  | _, [] => .ok []
  | _, .inl key :: rest => do
    let key ← keyText key
    ofLoose (some key) rest
  | none, .inr _ :: _ => .error (.refused "map value without a key")
  | some key, .inr value :: rest => do
    let value ← ofNative value
    let entries ← ofLoose none rest
    return (key, value) :: entries

end

end Canonical
end FluentAssert
