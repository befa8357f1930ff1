import FluentAssert.Number.Layout
import FluentAssert.Number.Literal
import FluentAssert.Text.Quoted
import FluentAssert.Yaml.Document

/-! What scalars mean, and what a node is called when something else was wanted. -/
namespace FluentAssert.Yaml

inductive Value where
  | null
  | bool (b : Bool)
  | integer (n : Int)
  | float (x : Double)
  | text (s : String)

def isNull (text : String) : Bool := ["null", "Null", "NULL", "~"].contains text

def bool? (text : String) : Option Bool :=
  if ["true", "True", "TRUE"].contains text then some true
  else if ["false", "False", "FALSE"].contains text then some false
  else none

def digitOf? (radix : Nat) (c : Char) : Option Nat := (hexDigit? c).filter (· < radix)

def natural? (radix : Nat) (digits : List Char) : Option Nat :=
  if digits.isEmpty then none
  else digits.foldlM (fun n c => (digitOf? radix c).map (radix * n + ·)) 0

/-- Digits behind a sign that begin with a needless zero. They are no number. -/
def isPadded (text : List Char) : Bool :=
  let digits := match text with
    | '-' :: rest | '+' :: rest => rest
    | rest => rest
  1 < digits.length && digits.head? == some '0' && digits.all Char.isDigit

/-- A magnitude: digits with or without a mark of their radix. -/
def magnitude? (text : List Char) : Option Nat :=
  match text with
  | '0' :: 'x' :: digits => natural? 16 digits
  | '0' :: 'o' :: digits => natural? 8 digits
  | '0' :: 'b' :: digits => natural? 2 digits
  | digits => if isPadded digits then none else natural? 10 digits

def integer? (text : String) : Option Int :=
  match text.toList with
  | '-' :: rest => (magnitude? rest).map fun n => -(n : Int)
  | '+' :: rest => (magnitude? rest).map Int.ofNat
  | rest => (magnitude? rest).map Int.ofNat

/-- An integer of at most 64 bits without a negative sign. -/
def word? (text : String) : Option Nat :=
  if text.startsWith "-" then none
  else ((integer? text).map Int.toNat).filter (· < Nat.pow 2 64)

def finite? (text : String) : Option Double :=
  match Double.parse text with
  | .ok x => if x.isFinite then some x else none
  | .error _ => none

def infinities : List String := [".inf", ".Inf", ".INF"]

def float? (text : String) : Option Double :=
  if infinities.contains text || (infinities.map ("+" ++ ·)).contains text then some (.infinite false)
  else if (infinities.map ("-" ++ ·)).contains text then some (.infinite true)
  else if [".nan", ".NaN", ".NAN"].contains text then some .nan
  else finite? text

def boundedInteger? (text : String) : Option Int :=
  (integer? text).filter fun n => -(Nat.pow 2 127 : Int) ≤ n ∧ n < (Nat.pow 2 128 : Int)

def plainValue (text : String) : Value :=
  if text.isEmpty || isNull text then .null
  else match bool? text, boundedInteger? text with
    | some b, _ => .bool b
    | none, some n => .integer n
    | none, none =>
      if isPadded text.toList then .text text
      else match float? text with
        | some x => .float x
        | none => .text text

def standardTag (name : String) : String := "tag:yaml.org,2002:" ++ name

/-- What a scalar means, or what its tag calls for in vain. -/
def scalarValue (tag : Option String) (text : String) (style : Style) : Except String Value :=
  let want {α : Type} (found : Option α) (value : α → Value) (wanted : String) :=
    match found with
    | some a => Except.ok (value a)
    | none => .error wanted
  let untyped := if style = .plain then plainValue text else .text text
  match tag with
  | none => .ok untyped
  | some tag =>
    if tag = standardTag "bool" then want (bool? text) .bool "a boolean"
    else if tag = standardTag "int" then want (boundedInteger? text) .integer "an integer"
    else if tag = standardTag "float" then want (float? text) .float "a float"
    else if tag = standardTag "null" then
      if isNull text then .ok .null else .error "null"
    else .ok (if tag.startsWith "!" then untyped else .text text)

/-- The form of numbers in descriptions: every digit is written out. -/
def numberLayout : Layout := ⟨fun _ => true, true, .up⟩

def tick (text : String) : String := "\x60" ++ text ++ "\x60"

namespace Value

/-- An integer of more than 64 bits is told with its width. -/
def widthText (n : Int) : String :=
  if n < -(Nat.pow 2 63 : Int) then " as i128"
  else if (Nat.pow 2 64 : Int) ≤ n then " as u128"
  else ""

def describe : Value → String
  | null => "unit value"
  | bool b => "boolean " ++ tick (toString b)
  | integer n => "integer " ++ tick (toString n) ++ widthText n
  | float x => "floating point " ++ tick (numberLayout.write x)
  | text s => "string " ++ Text.quoted s

end Value

def wrongType (found wanted : String) : String := "invalid type: " ++ found ++ ", expected " ++ wanted

def Content.refusal (content : Content) (wanted : String) : String :=
  match content with
  | .sequence => wrongType "sequence" wanted
  | .mapping => wrongType "map" wanted
  | .scalar tag text style =>
    match scalarValue tag text style with
    | .ok value => wrongType value.describe wanted
    | .error called => "invalid value: string " ++ Text.quoted text ++ ", expected " ++ called

/-- The text of a scalar that may be read as the type with this name: a plain one, or a literal one
that has its tag. -/
def Content.typedText? (content : Content) (name : String) : Option String :=
  match content with
  | .scalar _ text .plain => some text
  | .scalar tag text .literal => if tag = some (standardTag name) then some text else none
  | _ => none

end FluentAssert.Yaml
