import FluentAssert.Yaml.Cursor

/-! Tokens of documents, and the reading of the simple ones: names, tags and directives. -/
namespace FluentAssert.Yaml

inductive Style where
  | plain | singleQuoted | doubleQuoted | literal | folded
  deriving DecidableEq, Repr

inductive TokenKind where
  | streamEnd
  | versionDirective (major minor : Nat)
  | tagDirective (handle start : String)
  | documentStart | documentEnd
  | blockSequenceStart | blockMappingStart | blockEnd
  | flowSequenceStart | flowSequenceEnd | flowMappingStart | flowMappingEnd
  | blockEntry | flowEntry | key | value
  | alias (name : String)
  | anchor (name : String)
  | tag (handle suffix : String)
  | scalar (text : String) (style : Style)
  deriving DecidableEq, Repr, Inhabited

structure Token where
  kind : TokenKind
  first : Mark
  last : Mark
  deriving DecidableEq, Repr, Inhabited

namespace Cursor

def tokenFrom (cursor : Cursor) (first : Mark) (kind : TokenKind) : Token × Cursor :=
  (⟨kind, first, cursor.mark⟩, cursor)

def nameEnds : List Char := ['?', ':', ',', ']', '\x7d', '%', '@', '\x60']

def name (cursor : Cursor) (isAlias : Bool) : Except Fault (Token × Cursor) :=
  let first := cursor.mark
  let (chars, cursor) := cursor.skip.takeWhile isNameChar
  if chars.isEmpty || !(cursor.gapAhead 0 || cursor.ahead 0 nameEnds.contains) then
    cursor.fail (if isAlias then "while scanning an alias" else "while scanning an anchor") first
      "did not find expected alphabetic or numeric character"
  else
    let name := String.ofList chars
    .ok (cursor.tokenFrom first (if isAlias then .alias name else .anchor name))

def uriChars : List Char := ";/?:@&=+$.%!~*'()".toList
def flowUriChars : List Char := [',', '[', ']']

def isUriChar (withFlow : Bool) (c : Char) : Bool :=
  isNameChar c || uriChars.contains c || (withFlow && flowUriChars.contains c)

/-- The octet that a percent sign and two digits stand for. -/
def uriOctet? (cursor : Cursor) : Option Nat :=
  match cursor.rest with
  | '%' :: a :: b :: _ => do return 16 * (← hexDigit? a) + (← hexDigit? b)
  | _ => none

/-- How many octets a character has that begins with this one. -/
def octetCount (octet : Nat) : Nat :=
  if octet < 0x80 then 1
  else if octet / 0x20 = 0x6 then 2
  else if octet / 0x10 = 0xE then 3
  else if octet / 0x8 = 0x1E then 4
  else 0

def uriTail (context : String) (since : Mark) : Nat → Nat → Cursor → Except Fault (Nat × Cursor)
  | 0, code, cursor => .ok (code, cursor)
  | n + 1, code, cursor =>
    match cursor.uriOctet? with
    | none => cursor.fail context since "did not find URI escaped octet"
    | some octet =>
      if octet / 0x40 = 2 then uriTail context since n (code * 0x40 + octet % 0x40) (cursor.skipMany 3)
      else cursor.fail context since "found an incorrect trailing UTF-8 octet"

/-- The character that `count` octets spell. Octets that are no such form spell no real character. -/
def charOfOctets (count code : Nat) : Char :=
  let c := Char.ofNat code
  if c.utf8Size = count then c else '\ufffd'

def uriEscape (cursor : Cursor) (context : String) (since : Mark) : Except Fault (Char × Cursor) :=
  match cursor.uriOctet? with
  | none => cursor.fail context since "did not find URI escaped octet"
  | some octet =>
    match octetCount octet with
    | 0 => cursor.fail context since "found an incorrect leading UTF-8 octet"
    | n + 1 => do
      let lead := if n = 0 then octet else octet % Nat.pow 2 (6 - n)
      let (code, cursor) ← uriTail context since n lead (cursor.skipMany 3)
      return (charOfOctets (n + 1) code, cursor)

def uriCharsFrom (withFlow : Bool) (context : String) (since : Mark) :
    Nat → Cursor → Except Fault (List Char × Cursor)
  | 0, cursor => .ok ([], cursor)
  | fuel + 1, cursor =>
    match cursor.rest with
    | [] => .ok ([], cursor)
    | c :: _ =>
      if !isUriChar withFlow c then .ok ([], cursor)
      else do
        let (char, cursor) ←
          if c = '%' then cursor.uriEscape context since else pure (c, cursor.skip)
        let (more, cursor) ← uriCharsFrom withFlow context since fuel cursor
        return (char :: more, cursor)

/-- An address after what was read of it before. It ends before the first null character. -/
def uri (cursor : Cursor) (withFlow directive : Bool) (head : List Char) (since : Mark) :
    Except Fault (String × Cursor) := do
  let context := if directive then "while parsing a %TAG directive" else "while parsing a tag"
  let (chars, behind) ← uriCharsFrom withFlow context since cursor.rest.length cursor
  if head.isEmpty && chars.isEmpty then
    behind.fail context since "did not find expected tag URI"
  else return (String.ofList ((head.drop 1 ++ chars).takeWhile (· != '\x00')), behind)

/-- The handle of a tag, from one exclamation mark to the next. -/
def tagHandle (cursor : Cursor) (directive : Bool) (since : Mark) :
    Except Fault (List Char × Cursor) :=
  if !cursor.isAt '!' then
    cursor.fail (if directive then "while scanning a tag directive" else "while scanning a tag")
      since "did not find expected '!'"
  else
    let (chars, cursor) := cursor.skip.takeWhile isNameChar
    if cursor.isAt '!' then .ok ('!' :: chars ++ ['!'], cursor.skip)
    else if directive && !chars.isEmpty then
      cursor.fail "while parsing a tag directive" since "did not find expected '!'"
    else .ok ('!' :: chars, cursor)

def tagParts (cursor : Cursor) (first : Mark) : Except Fault (String × String × Cursor) := do
  if cursor.ahead 1 (· == '<') then
    let (suffix, cursor) ← (cursor.skipMany 2).uri true false [] first
    if cursor.isAt '>' then return ("", suffix, cursor.skip)
    else cursor.fail "while scanning a tag" first "did not find the expected '>'"
  else
    let (handle, cursor) ← cursor.tagHandle false first
    if 1 < handle.length && handle.getLast? = some '!' then
      let (suffix, cursor) ← cursor.uri false false [] first
      return (String.ofList handle, suffix, cursor)
    else
      let (suffix, cursor) ← cursor.uri false false handle first
      return if suffix.isEmpty then ("", "!", cursor) else ("!", suffix, cursor)

def tag (cursor : Cursor) (inFlow : Bool) : Except Fault (Token × Cursor) := do
  let first := cursor.mark
  let (handle, suffix, cursor) ← cursor.tagParts first
  if cursor.gapAhead 0 || (inFlow && cursor.isAt ',') then
    return cursor.tokenFrom first (.tag handle suffix)
  else cursor.fail "while scanning a tag" first "did not find expected whitespace or line break"

def versionNumber (cursor : Cursor) (since : Mark) : Except Fault (Nat × Cursor) :=
  let (digits, behind) := cursor.takeWhile Char.isDigit
  if 9 < digits.length then
    (cursor.skipMany 9).fail "while scanning a %YAML directive" since
      "found extremely long version number"
  else if digits.isEmpty then
    behind.fail "while scanning a %YAML directive" since "did not find expected version number"
  else .ok (digits.foldl (fun n c => 10 * n + (c.toNat - '0'.toNat)) 0, behind)

def versionDirective (cursor : Cursor) (since : Mark) : Except Fault (TokenKind × Cursor) := do
  let (major, cursor) ← (cursor.skipWhile isBlank).versionNumber since
  if !cursor.isAt '.' then
    cursor.fail "while scanning a %YAML directive" since
      "did not find expected digit or '.' character"
  else
    let (minor, cursor) ← cursor.skip.versionNumber since
    return (.versionDirective major minor, cursor)

def tagDirective (cursor : Cursor) (since : Mark) : Except Fault (TokenKind × Cursor) := do
  let (handle, cursor) ← (cursor.skipWhile isBlank).tagHandle true since
  if !cursor.atBlank then
    cursor.fail "while scanning a %TAG directive" since "did not find expected whitespace"
  else
    let (start, cursor) ← (cursor.skipWhile isBlank).uri true true [] since
    if cursor.gapAhead 0 then return (.tagDirective (String.ofList handle) start, cursor)
    else
      cursor.fail "while scanning a %TAG directive" since
        "did not find expected whitespace or line break"

def directiveValue (cursor : Cursor) (since : Mark) (name : String) :
    Except Fault (TokenKind × Cursor) :=
  if name = "YAML" then cursor.versionDirective since
  else if name = "TAG" then cursor.tagDirective since
  else cursor.fail "while scanning a directive" since "found unknown directive name"

def directive (cursor : Cursor) : Except Fault (Token × Cursor) := do
  let first := cursor.mark
  let context := "while scanning a directive"
  let (name, cursor) := cursor.skip.takeWhile isNameChar
  if name.isEmpty then cursor.fail context first "could not find expected directive name"
  else if !cursor.gapAhead 0 then
    cursor.fail context first "found unexpected non-alphabetical character"
  else
    let (kind, cursor) ← cursor.directiveValue first (String.ofList name)
    let token : Token := ⟨kind, first, cursor.mark⟩
    let cursor := (cursor.skipWhile isBlank).skipComment
    if cursor.atBreakOrEnd then return (token, cursor.skipBreak)
    else cursor.fail context first "did not find expected comment or line break"

end Cursor
end FluentAssert.Yaml
