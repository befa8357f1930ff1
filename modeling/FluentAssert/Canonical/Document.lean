import FluentAssert.Canonical
import FluentAssert.Json.Writer

/-! Canonical values and JSON documents: the value that a document stands for, the document that a
value is shown as, and the plain text of a value. -/
namespace FluentAssert.Canonical

mutual

def ofJson : Json → Canonical
  | .null => null
  | .bool b => bool b
  | .integer n => number (Double.ofInt n)
  | .real x => if x.isFinite then number x else null
  | .text s => text s
  | .list items => array (ofJsonItems items)
  | .object fields => object (ofJsonFields fields)

def ofJsonItems : List Json → List Canonical
  | [] => []
  | item :: rest => ofJson item :: ofJsonItems rest

def ofJsonFields : List (String × Json) → List (String × Canonical)
  | [] => []
  | (key, value) :: rest => (key, ofJson value) :: ofJsonFields rest

end

/-- The document of a number in a text of its own: always a real. -/
def plainNumber (x : Double) : Json := if x.isFinite then .real x else .null

/-- Integral numbers below this magnitude are shown without a fraction. -/
def shownWholeBelow : Double := .ofDecimal .double false 9 15

def shownNumber (x : Double) : Json :=
  match x.toInt? with
  | some n => if x.abs.less shownWholeBelow then .integer n else plainNumber x
  | none => plainNumber x

mutual

/-- The document of a value, with numbers as `ofNumber` has them. -/
def document (ofNumber : Double → Json) : Canonical → Json
  | null => .null
  | bool b => .bool b
  | number x => ofNumber x
  | text s => .text s
  | array items => .list (documentItems ofNumber items)
  | object fields => .object (documentFields ofNumber fields)

def documentItems (ofNumber : Double → Json) : List Canonical → List Json
  | [] => []
  | item :: rest => document ofNumber item :: documentItems ofNumber rest

def documentFields (ofNumber : Double → Json) :
    List (String × Canonical) → List (String × Json)
  | [] => []
  | (key, value) :: rest => (key, document ofNumber value) :: documentFields ofNumber rest

end

def shown (value : Canonical) : Json := document shownNumber value

def toText (value : Canonical) : String := (document plainNumber value).compact

end FluentAssert.Canonical
