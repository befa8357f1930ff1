import FluentAssert.Json.Writer
import FluentAssert.Native
import FluentAssert.Text.Utf8

/-! JSON texts of native values, as they are put into the bodies of messages. Every number is
written in its own type's form. Maps need keys that have a text. -/
namespace FluentAssert.Native

inductive EncodeError where
  | keyNotText
  | keyNotFinite
  | refused (reason : String)
  deriving DecidableEq, Repr

def EncodeError.message : EncodeError → String
  | .keyNotText => "key must be a string"
  | .keyNotFinite => "float key must be finite (got NaN or +/-inf)"
  | .refused reason => reason

/-- A number of either precision in the layout for it. -/
def numberChars (layout : Layout) {f : Format} (x : Binary f) : List Char :=
  if x.isFinite then (layout.write x).toList else "null".toList

def keyNumber (layout : Layout) {f : Format} (x : Binary f) : Except EncodeError String :=
  if x.isFinite then .ok (layout.write x) else .error .keyNotFinite

def keyText : Native → Except EncodeError String
  | bool b => .ok (if b then "true" else "false")
  | integer _ n _ => .ok (toString n)
  | single x => keyNumber .jsonSingle x
  | double x => keyNumber .json x
  | char c => .ok (String.singleton c)
  | text s => .ok s
  | unitVariant name => .ok name
  | some value => keyText value
  | newtype value => keyText value
  | failing reason => .error (.refused reason)
  | _ => .error .keyNotText

def bracketed (items : List (List Char)) : List Char :=
  '[' :: ([','].intercalate items ++ [']'])

def braced (fields : List (List Char)) : List Char :=
  '\x7b' :: ([','].intercalate fields ++ ['\x7d'])

def taggedChars (name : String) (payload : List Char) : List Char :=
  braced [Json.quoteChars name ++ ':' :: payload]

mutual

def jsonChars : Native → Except EncodeError (List Char)
  | bool b => .ok (if b then "true" else "false").toList
  | integer _ n _ => .ok (toString n).toList
  | single x => .ok (numberChars .jsonSingle x)
  | double x => .ok (numberChars .json x)
  | char c => .ok (Json.quoteChars (String.singleton c))
  | text s => .ok (Json.quoteChars s)
  | bytes content => .ok (bracketed (content.map fun b => (toString b.toNat).toList))
  | none => .ok "null".toList
  | unit => .ok "null".toList
  | unitStruct => .ok "null".toList
  | some value => jsonChars value
  | newtype value => jsonChars value
  | unitVariant name => .ok (Json.quoteChars name)
  | newtypeVariant name value => (jsonChars value).map (taggedChars name)
  | seq items => (jsonItems items).map bracketed
  | tuple items => (jsonItems items).map bracketed
  | tupleStruct items => (jsonItems items).map bracketed
  | tupleVariant name items => (jsonItems items).map fun items => taggedChars name (bracketed items)
  | map entries => (jsonEntries entries).map braced
  | struct fields => (jsonFields fields).map braced
  | structVariant name fields => (jsonFields fields).map fun fields => taggedChars name (braced fields)
  | loose told => (jsonLoose true told).map fun written => braced [written]
  | failing reason => .error (.refused reason)

def jsonItems : List Native → Except EncodeError (List (List Char))
  | [] => .ok []
  | item :: rest => do
    let written ← jsonChars item
    let others ← jsonItems rest
    return written :: others

def jsonEntries : List (Native × Native) → Except EncodeError (List (List Char))
  | [] => .ok []
  | (key, value) :: rest => do
    let key ← keyText key
    let written ← jsonChars value
    let others ← jsonEntries rest
    return (Json.quoteChars key ++ ':' :: written) :: others

def jsonFields : List (String × Native) → Except EncodeError (List (List Char))
  | [] => .ok []
  | (key, value) :: rest => do
    let written ← jsonChars value
    let others ← jsonFields rest
    return (Json.quoteChars key ++ ':' :: written) :: others

/-- Keys and values one by one; a comma stands before every key but the first. -/
def jsonLoose : Bool → List (Native ⊕ Native) → Except EncodeError (List Char)
  | _, [] => .ok []
  | first, .inl key :: rest => do
    let key ← keyText key
    let others ← jsonLoose false rest
    return (if first then [] else [',']) ++ Json.quoteChars key ++ others
  | first, .inr value :: rest => do
    let written ← jsonChars value
    let others ← jsonLoose first rest
    return ':' :: written ++ others

end

def toJson (value : Native) : Except EncodeError Text.Bytes :=
  (jsonChars value).map fun written => written.flatMap String.utf8EncodeChar

end FluentAssert.Native
