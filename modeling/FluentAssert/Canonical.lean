import FluentAssert.Fields
import FluentAssert.Number.Binary

/-! Canonical values, the form in which values are compared. Numbers have one type and objects are
ordered by key, so neither width nor order of insertion affects equality. -/
namespace FluentAssert

inductive Canonical where
  | null
  | bool (b : Bool)
  | number (x : Double)
  | text (s : String)
  | array (items : List Canonical)
  | object (fields : List (String × Canonical))

namespace Canonical

instance : Inhabited Canonical := ⟨null⟩

def typeName : Canonical → String
  | null => "null"
  | bool _ => "boolean"
  | number _ => "number"
  | text _ => "string"
  | array _ => "array"
  | object _ => "object"

def isNull : Canonical → Bool
  | null => true
  | _ => false

def isContainer : Canonical → Bool
  | array _ => true
  | object _ => true
  | _ => false

mutual

/-- Equality of values; numbers compare as numbers, so zero has no sign and NaN equals nothing. -/
def equal : Canonical → Canonical → Bool
  | null, null => true
  | bool a, bool b => a == b
  | number x, number y => x.equal y
  | text a, text b => a == b
  | array xs, array ys => equalItems xs ys
  | object fs, object gs => equalFields fs gs
  | _, _ => false

def equalItems : List Canonical → List Canonical → Bool
  | [], [] => true
  | x :: xs, y :: ys => equal x y && equalItems xs ys
  | _, _ => false

def equalFields : List (String × Canonical) → List (String × Canonical) → Bool
  | [], [] => true
  | (k, x) :: fs, (l, y) :: gs => k == l && equal x y && equalFields fs gs
  | _, _ => false

end

instance : BEq Canonical := ⟨equal⟩

mutual

/-- Containment. An object contains what has fewer fields or less in them, an array what has
fewer kinds of items; anything else contains its equals. -/
def containsSubset (outer : Canonical) : Canonical → Bool
  | object inner =>
    match outer with
    | object fields => containsFields fields inner
    | _ => false
  | array inner =>
    match outer with
    | array items => containsItems items inner
    | _ => false
  | inner => outer == inner

/-- Every inner field has its key among the outer ones and is contained there. -/
def containsFields (outer : List (String × Canonical)) : List (String × Canonical) → Bool
  | [] => true
  | (key, inner) :: rest =>
    (match Fields.get? outer key with
      | some value => containsSubset value inner
      | none => false) && containsFields outer rest

/-- Every inner item is contained in some outer one. -/
def containsItems (outer : List Canonical) : List Canonical → Bool
  | [] => true
  | inner :: rest => outer.any (fun item => containsSubset item inner) && containsItems outer rest

end

mutual

/-- No number inside is infinite or NaN. -/
def finite : Canonical → Bool
  | number x => x.isFinite
  | array items => finiteItems items
  | object fields => finiteFields fields
  | _ => true

def finiteItems : List Canonical → Bool
  | [] => true
  | item :: rest => finite item && finiteItems rest

def finiteFields : List (String × Canonical) → Bool
  | [] => true
  | (_, value) :: rest => finite value && finiteFields rest

end

def isMember (value : Canonical) (values : List Canonical) : Bool :=
  values.any fun candidate => candidate == value

def ofNat (n : Nat) : Canonical := number (Double.ofNat n)

def items? : Canonical → Option (List Canonical)
  | array items => some items
  | _ => none

def fields? : Canonical → Option (Fields Canonical)
  | object fields => some fields
  | _ => none

def number? : Canonical → Option Double
  | number x => some x
  | _ => none

def text? : Canonical → Option String
  | text s => some s
  | _ => none

def bool? : Canonical → Option Bool
  | bool b => some b
  | _ => none

end Canonical
end FluentAssert
