import FluentAssert.Json.Value
import FluentAssert.Text.Utf8

/-! Reading JSON texts. The reader walks over bytes and knows the line and column it has reached, so
that every refusal names its place. Containers nest only to a fixed depth. -/
namespace FluentAssert.Json

open FluentAssert.Text

inductive Fault where
  | endInList | endInObject | endInString | endInValue
  | colonExpected | listGoesOn | objectGoesOn | wordExpected | valueExpected
  | badEscape | badNumber | numberTooLarge | badText | rawControl | keyNotText
  | loneSurrogate | trailingComma | trailingText | escapeCutShort | tooDeep
  deriving DecidableEq, Repr

def Fault.message : Fault → String
  | .endInList => "EOF while parsing a list"
  | .endInObject => "EOF while parsing an object"
  | .endInString => "EOF while parsing a string"
  | .endInValue => "EOF while parsing a value"
  | .colonExpected => "expected `:`"
  | .listGoesOn => "expected `,` or `]`"
  | .objectGoesOn => "expected `,` or `\x7d`"
  | .wordExpected => "expected ident"
  | .valueExpected => "expected value"
  | .badEscape => "invalid escape"
  | .badNumber => "invalid number"
  | .numberTooLarge => "number out of range"
  | .badText => "invalid unicode code point"
  | .rawControl => "control character (\\u0000-\\u001F) found while parsing a string"
  | .keyNotText => "key must be a string"
  | .loneSurrogate => "lone leading surrogate in hex escape"
  | .trailingComma => "trailing comma"
  | .trailingText => "trailing characters"
  | .escapeCutShort => "unexpected end of hex escape"
  | .tooDeep => "recursion limit exceeded"

structure ReadError where
  fault : Fault
  line : Nat
  column : Nat
  deriving DecidableEq, Repr

def ReadError.message (e : ReadError) : String :=
  e.fault.message ++ " at line " ++ toString e.line ++ " column " ++ toString e.column

/-- Bytes still to read, with the line and the bytes of it that were read. -/
structure Cursor where
  rest : Bytes
  line : Nat
  column : Nat

namespace Cursor

def start (bytes : Bytes) : Cursor := ⟨bytes, 1, 0⟩

def peek? (here : Cursor) : Option UInt8 := here.rest.head?

def peekChar (here : Cursor) : Char :=
  match here.rest with
  | b :: _ => Char.ofNat b.toNat
  | [] => '\x00'

def advance (here : Cursor) : Cursor :=
  match here.rest with
  | [] => here
  | b :: rest => if b = 10 then ⟨rest, here.line + 1, 0⟩ else ⟨rest, here.line, here.column + 1⟩

def advanceBy : Nat → Cursor → Cursor
  | 0, here => here
  | n + 1, here => advanceBy n here.advance

def fail {α : Type} (here : Cursor) (fault : Fault) : Except ReadError α :=
  .error ⟨fault, here.line, here.column⟩

def failNext {α : Type} (here : Cursor) (fault : Fault) : Except ReadError α :=
  here.advance.fail fault

def skipBlanksIn : Bytes → Cursor → Cursor
  | [], here => here
  | b :: rest, here =>
    if b = 32 ∨ b = 10 ∨ b = 9 ∨ b = 13 then skipBlanksIn rest here.advance else here

def skipBlanks (here : Cursor) : Cursor := skipBlanksIn here.rest here

end Cursor

abbrev Read (α : Type) := Except ReadError (α × Cursor)

/-- Reads the rest of a word whose first letter is behind the cursor. -/
def readWord (value : Json) : List Char → Cursor → Read Json
  | [], here => .ok (value, here)
  | c :: word, here =>
    match here.peek? with
    | none => here.fail .endInValue
    | some b =>
      if b.toNat = c.toNat then readWord value word here.advance
      else here.advance.fail .wordExpected

/-- The largest significand that is kept exactly; further digits only move the exponent. -/
def significandLimit : Nat := Nat.pow 2 64 - 1

def digitAt (here : Cursor) : Option Nat :=
  if here.peekChar.isDigit then some (here.peekChar.toNat - '0'.toNat) else none

/-- Powers of ten as doubles, as far as there are any. -/
def powerOfTen (e : Nat) : Double := .ofDecimal .double false 1 e

/-- Scales a significand by powers of ten, of which one step takes at most 308. The result is
rounded at every step. -/
def scaleReal : Nat → Double → Int → Option Double
  | 0, x, _ => some x
  | fuel + 1, x, e =>
    if e.natAbs ≤ 308 then
      if 0 ≤ e then
        let product := x.mul (powerOfTen e.natAbs)
        if product.isFinite then some product else none
      else some (x.div (powerOfTen e.natAbs))
    else if x.equal (.zero false) then some x
    else if 0 ≤ e then none
    else scaleReal fuel (x.div (powerOfTen 308)) (e + 308)

def realOf (negative : Bool) (significand : Nat) (e : Int) (here : Cursor) : Read Json :=
  match scaleReal 4 (Double.ofNat significand) e with
  | some x => .ok (.real (if negative then x.neg else x), here)
  | none => here.fail .numberTooLarge

def skipDigits : Nat → Cursor → Cursor
  | 0, here => here
  | fuel + 1, here => if (digitAt here).isSome then skipDigits fuel here.advance else here

/-- Exponents stop growing here: beyond it a number is too large or zero. -/
def exponentLimit : Nat := Nat.pow 2 31 - 1

/-- Digits of an exponent; none when they pass the limit, with the cursor behind the digit that
does. -/
def exponentDigits : Nat → Nat → Cursor → Option Nat × Cursor
  | 0, e, here => (some e, here)
  | fuel + 1, e, here =>
    match digitAt here with
    | none => (some e, here)
    | some d =>
      if 10 * e + d ≤ exponentLimit then exponentDigits fuel (10 * e + d) here.advance
      else (none, here.advance)

/-- The exponent part, whose mark is the next byte. -/
def readExponent (negative : Bool) (significand : Nat) (base : Int) (here : Cursor) : Read Json :=
  let afterMark := here.advance
  let sign := afterMark.peekChar
  let atDigits := if sign = '+' ∨ sign = '-' then afterMark.advance else afterMark
  match atDigits.peek?, digitAt atDigits with
  | none, _ => atDigits.fail .endInValue
  | some _, none => atDigits.advance.fail .badNumber
  | some _, some first =>
    match exponentDigits atDigits.rest.length first atDigits.advance with
    | (some e, here) => realOf negative significand (if sign = '-' then base - e else base + e) here
    | (none, here) =>
      if significand ≠ 0 ∧ sign ≠ '-' then here.fail .numberTooLarge
      else .ok (.real (.zero negative), skipDigits here.rest.length here)

def readAfterFraction (negative : Bool) (significand : Nat) (e : Int) (here : Cursor) : Read Json :=
  if here.peekChar = 'e' ∨ here.peekChar = 'E' then readExponent negative significand e here
  else realOf negative significand e here

/-- Digits of the fraction; those that the significand cannot take are skipped. -/
def fractionDigits : Nat → Nat → Int → Cursor → Nat × Int × Cursor
  | 0, significand, e, here => (significand, e, here)
  | fuel + 1, significand, e, here =>
    match digitAt here with
    | none => (significand, e, here)
    | some d =>
      if 10 * significand + d ≤ significandLimit then
        fractionDigits fuel (10 * significand + d) (e - 1) here.advance
      else (significand, e, skipDigits here.rest.length here)

def readFraction (negative : Bool) (significand : Nat) (base : Int) (here : Cursor) : Read Json :=
  let afterPoint := here.advance
  match digitAt afterPoint with
  | none =>
    if afterPoint.rest.isEmpty then afterPoint.failNext .endInValue
    else afterPoint.failNext .badNumber
  | some _ =>
    let (significand, e, here) := fractionDigits afterPoint.rest.length significand base afterPoint
    readAfterFraction negative significand e here

/-- Digits of the whole part; those that the significand cannot take are counted. -/
def wholeDigits : Nat → Nat → Nat → Cursor → Nat × Nat × Cursor
  | 0, significand, dropped, here => (significand, dropped, here)
  | fuel + 1, significand, dropped, here =>
    match digitAt here with
    | none => (significand, dropped, here)
    | some d =>
      if dropped = 0 ∧ 10 * significand + d ≤ significandLimit then
        wholeDigits fuel (10 * significand + d) 0 here.advance
      else wholeDigits fuel significand (dropped + 1) here.advance

/-- What follows all digits of the whole part. Without fraction, exponent or dropped digits the
number is an integer where 64 bits hold it. -/
def readAfterWhole (negative : Bool) (significand dropped : Nat) (here : Cursor) : Read Json :=
  if here.peekChar = '.' then readFraction negative significand dropped here
  else if here.peekChar = 'e' ∨ here.peekChar = 'E' then readExponent negative significand dropped here
  else if dropped ≠ 0 then realOf negative significand dropped here
  else if negative then
    if significand = 0 ∨ Nat.pow 2 63 < significand then
      .ok (.real (Double.ofNat significand).neg, here)
    else .ok (.integer (-significand), here)
  else .ok (.integer significand, here)

def readNumber (negative : Bool) (here : Cursor) : Read Json :=
  match here.peek?, digitAt here with
  | none, _ => here.fail .endInValue
  | some _, none => here.advance.fail .badNumber
  | some _, some first =>
    if first = 0 then
      if (digitAt here.advance).isSome then here.advance.failNext .badNumber
      else readAfterWhole negative 0 0 here.advance
    else
      let (significand, dropped, here) := wholeDigits here.rest.length first 0 here.advance
      readAfterWhole negative significand dropped here

def hexDigit? (b : UInt8) : Option Nat :=
  let c := Char.ofNat b.toNat
  if c.isDigit then some (c.toNat - '0'.toNat)
  else if 'a' ≤ c ∧ c ≤ 'f' then some (c.toNat - 'a'.toNat + 10)
  else if 'A' ≤ c ∧ c ≤ 'F' then some (c.toNat - 'A'.toNat + 10)
  else none

def readQuad (here : Cursor) : Read Nat :=
  match here.rest with
  | a :: b :: c :: d :: _ =>
    let after := here.advanceBy 4
    match hexDigit? a, hexDigit? b, hexDigit? c, hexDigit? d with
    | some a, some b, some c, some d => .ok (4096 * a + 256 * b + 16 * c + d, after)
    | _, _, _, _ => after.fail .badEscape
  | short => (here.advanceBy short.length).fail .endInString

def expectInEscape (c : Char) (here : Cursor) : Except ReadError Cursor :=
  match here.peek? with
  | none => here.fail .endInString
  | some b => if b.toNat = c.toNat then .ok here.advance else here.advance.fail .escapeCutShort

/-- A character by its code, behind the `u`. Codes above 16 bits are written as a surrogate pair. -/
def readCodeEscape (here : Cursor) : Except ReadError (Bytes × Cursor) := do
  let (high, here) ← readQuad here
  if 0xDC00 ≤ high ∧ high ≤ 0xDFFF then here.fail .loneSurrogate
  else if high < 0xD800 ∨ 0xDBFF < high then
    return (String.utf8EncodeChar (Char.ofNat high), here)
  else
    let here ← expectInEscape '\\' here
    let here ← expectInEscape 'u' here
    let (low, here) ← readQuad here
    if low < 0xDC00 ∨ 0xDFFF < low then here.fail .loneSurrogate
    else
      let code := 0x400 * (high - 0xD800) + (low - 0xDC00) + 0x10000
      return (String.utf8EncodeChar (Char.ofNat code), here)

def readEscape (here : Cursor) : Read Bytes :=
  match here.peek? with
  | none => here.fail .endInString
  | some b =>
    let after := here.advance
    match Char.ofNat b.toNat with
    | '"' => .ok ([34], after)
    | '\\' => .ok ([92], after)
    | '/' => .ok ([47], after)
    | 'b' => .ok ([8], after)
    | 'f' => .ok ([12], after)
    | 'n' => .ok ([10], after)
    | 'r' => .ok ([13], after)
    | 't' => .ok ([9], after)
    | 'u' => readCodeEscape after
    | _ => after.fail .badEscape

/-- A string behind its opening quote; `read` holds the bytes so far, last one first. -/
def readStringFrom : Nat → Bytes → Cursor → Read String
  | 0, _, here => here.fail .endInString
  | fuel + 1, read, here =>
    match here.rest with
    | [] => here.fail .endInString
    | b :: _ =>
      let after := here.advance
      if b = 34 then
        match decodeUtf8 read.reverse with
        | .ok decoded => .ok (decoded, after)
        | .error _ => after.fail .badText
      else if b = 92 then
        match readEscape after with
        | .ok (bytes, here) => readStringFrom fuel (bytes.reverse ++ read) here
        | .error e => .error e
      else if b < 32 then after.fail .rawControl
      else readStringFrom fuel (b :: read) after

def readString (here : Cursor) : Read String := readStringFrom (here.rest.length + 1) [] here

/-- Items behind the opening bracket, up to and with the closing one. -/
def readItems (item : Cursor → Read Json) :
    Nat → Bool → List Json → Cursor → Except ReadError (Json × Cursor)
  | 0, _, _, here => here.fail .endInList
  | fuel + 1, first, read, here =>
    let here := here.skipBlanks
    match here.peek? with
    | none => here.failNext .endInList
    | some b =>
      if b = 93 then .ok (.list read.reverse, here.advance)
      else do
        let here ←
          if first then pure here
          else if b = 44 then
            let here := here.advance.skipBlanks
            match here.peek? with
            | none => here.failNext .endInValue
            | some b => if b = 93 then here.failNext .trailingComma else pure here
          else here.failNext .listGoesOn
        let (value, here) ← item here
        readItems item fuel false (value :: read) here

/-- A key, its colon and its value; the next byte is the key's opening quote. -/
def readField (item : Cursor → Read Json) (here : Cursor) :
    Except ReadError ((String × Json) × Cursor) := do
  let (key, here) ← readString here.advance
  let here := here.skipBlanks
  match here.peek? with
  | none => here.failNext .endInObject
  | some b =>
    if b = 58 then
      let (value, here) ← item here.advance
      return ((key, value), here)
    else here.failNext .colonExpected

/-- Fields behind the opening brace, up to and with the closing one. The last field of a key
counts. -/
def readFields (item : Cursor → Read Json) :
    Nat → Bool → Fields Json → Cursor → Except ReadError (Json × Cursor)
  | 0, _, _, here => here.fail .endInObject
  | fuel + 1, first, read, here =>
    let here := here.skipBlanks
    match here.peek? with
    | none => here.failNext .endInObject
    | some b =>
      if b = 125 then .ok (.object read, here.advance)
      else do
        let here ←
          if first then
            if b = 34 then pure here else here.failNext .keyNotText
          else if b = 44 then
            let here := here.advance.skipBlanks
            match here.peek? with
            | none => here.failNext .endInValue
            | some b =>
              if b = 34 then pure here
              else if b = 125 then here.failNext .trailingComma
              else here.failNext .keyNotText
          else here.failNext .objectGoesOn
        let ((key, value), here) ← readField item here
        readFields item fuel false (Fields.insert key value read) here

/-- A value in which at most `depth` containers nest. -/
def readValue : Nat → Cursor → Read Json
  | depth, here =>
    let here := here.skipBlanks
    match here.peek? with
    | none => here.failNext .endInValue
    | some b =>
      match Char.ofNat b.toNat with
      | 'n' => readWord .null "ull".toList here.advance
      | 't' => readWord (.bool true) "rue".toList here.advance
      | 'f' => readWord (.bool false) "alse".toList here.advance
      | '-' => readNumber true here.advance
      | '"' => (readString here.advance).map fun (decoded, here) => (.text decoded, here)
      | '[' =>
        match depth with
        | 0 => here.failNext .tooDeep
        | inner + 1 => readItems (readValue inner) (here.rest.length + 1) true [] here.advance
      | '\x7b' =>
        match depth with
        | 0 => here.failNext .tooDeep
        | inner + 1 => readFields (readValue inner) (here.rest.length + 1) true [] here.advance
      | c => if c.isDigit then readNumber false here else here.failNext .valueExpected

/-- Containers may nest this deep in a text that is read. -/
def depthLimit : Nat := 127

/-- Reads one document in which at most `depth` containers nest, and nothing after it. -/
def readDeep (depth : Nat) (bytes : Bytes) : Except ReadError Json := do
  let (document, here) ← readValue depth (.start bytes)
  let here := here.skipBlanks
  if here.rest.isEmpty then return document else here.failNext .trailingText

def read (bytes : Bytes) : Except ReadError Json := readDeep depthLimit bytes

end FluentAssert.Json
