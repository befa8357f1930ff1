import FluentAssert.Json.Value
import FluentAssert.Number.Layout

/-! JSON texts of documents: the compact form, and the form spread over lines with two blanks for
each level. Control characters are always escaped, so a raw line break never stands inside a string.
-/
namespace FluentAssert.Json

def hexQuad (n : Nat) : List Char :=
  let digits := Nat.toDigits 16 n
  List.replicate (4 - digits.length) '0' ++ digits

def escapeChar (c : Char) : List Char :=
  if c = '"' then ['\\', '"']
  else if c = '\\' then ['\\', '\\']
  else if c = '\n' then ['\\', 'n']
  else if c = '\r' then ['\\', 'r']
  else if c = '\t' then ['\\', 't']
  else if c = '\x08' then ['\\', 'b']
  else if c = '\x0c' then ['\\', 'f']
  else if c.toNat < 0x20 then '\\' :: 'u' :: hexQuad c.toNat
  else [c]

def quoteChars (text : String) : List Char := '"' :: (text.toList.flatMap escapeChar ++ ['"'])

/-- Text of a value that holds no others. A number that is not finite has no JSON text and is
written as null. -/
def scalarChars : Json → List Char
  | .bool b => (if b then "true" else "false").toList
  | .integer n => (toString n).toList
  | .real x => if x.isFinite then (Layout.json.write x).toList else "null".toList
  | .text s => quoteChars s
  | _ => "null".toList

mutual

def compactChars : Json → List Char
  | .list items => '[' :: (compactItems items ++ [']'])
  | .object fields => '\x7b' :: (compactFields fields ++ ['\x7d'])
  | scalar => scalarChars scalar

def compactItems : List Json → List Char
  | [] => []
  | [item] => compactChars item
  | item :: rest => compactChars item ++ ',' :: compactItems rest

def compactFields : List (String × Json) → List Char
  | [] => []
  | [(key, value)] => quoteChars key ++ ':' :: compactChars value
  | (key, value) :: rest => quoteChars key ++ ':' :: (compactChars value ++ ',' :: compactFields rest)

end

def newLine (level : Nat) : List Char := '\n' :: List.replicate (2 * level) ' '

mutual

/-- Spread text of a document that stands at a level. -/
def prettyChars (level : Nat) : Json → List Char
  | .list (item :: rest) =>
    '[' :: (newLine (level + 1) ++ prettyItems (level + 1) (item :: rest) ++ newLine level ++ [']'])
  | .list [] => "[]".toList
  | .object (field :: rest) =>
    '\x7b' :: (newLine (level + 1) ++ prettyFields (level + 1) (field :: rest) ++ newLine level ++
      ['\x7d'])
  | .object [] => ['\x7b', '\x7d']
  | scalar => scalarChars scalar

def prettyItems (level : Nat) : List Json → List Char
  | [] => []
  | [item] => prettyChars level item
  | item :: rest => prettyChars level item ++ ',' :: (newLine level ++ prettyItems level rest)

def prettyFields (level : Nat) : List (String × Json) → List Char
  | [] => []
  | [(key, value)] => quoteChars key ++ ':' :: ' ' :: prettyChars level value
  | (key, value) :: rest =>
    quoteChars key ++ ':' :: ' ' :: (prettyChars level value ++ ',' :: (newLine level ++
      prettyFields level rest))

end

def compact (document : Json) : String := String.ofList document.compactChars

def pretty (document : Json) : String := String.ofList (document.prettyChars 0)

end FluentAssert.Json
