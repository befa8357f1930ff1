/-! Places in a document, what can be wrong there, and the reading of characters and lines. -/
namespace FluentAssert.Yaml

/-- A place; all three count from zero. -/
structure Mark where
  index : Nat
  line : Nat
  column : Nat
  deriving DecidableEq, Repr, Inhabited

namespace Mark

def start : Mark := ⟨0, 0, 0⟩

def isOrigin (mark : Mark) : Bool := mark.line == 0 && mark.column == 0

def text (mark : Mark) : String :=
  "line " ++ toString (mark.line + 1) ++ " column " ++ toString (mark.column + 1)

/-- The place with a word before it. The very beginning is not worth a word. -/
def suffix (mark : Mark) : String := if mark.isOrigin then "" else " at " ++ mark.text

end Mark

/-- A problem with its place, and what was being read since when. -/
structure Fault where
  problem : String
  mark : Mark
  context : Option (String × Mark) := none
  /-- Bytes before the problem, where it comes before any reading. -/
  offset : Nat := 0
  deriving DecidableEq, Repr

namespace Fault

def placeText (fault : Fault) : String :=
  if !fault.mark.isOrigin then fault.mark.suffix
  else if fault.offset = 0 then "" else " at position " ++ toString fault.offset

/-- The place of the context is told only where it differs from that of the problem. -/
def contextText (fault : Fault) : String :=
  match fault.context with
  | none => ""
  | some (context, mark) =>
    ", " ++ context ++
      if mark.line = fault.mark.line ∧ mark.column = fault.mark.column then "" else mark.suffix

def message (fault : Fault) : String := fault.problem ++ fault.placeText ++ fault.contextText

end Fault

def isBlank (c : Char) : Bool := c == ' ' || c == '\t'

def isBreak (c : Char) : Bool :=
  c == '\n' || c == '\r' || c.toNat == 0x85 || c.toNat == 0x2028 || c.toNat == 0x2029

/-- Characters of names: ASCII letters and digits, underscores and hyphens. -/
def isNameChar (c : Char) : Bool := c.isAlphanum || c == '_' || c == '-'

def hexDigit? (c : Char) : Option Nat :=
  if c.isDigit then some (c.toNat - '0'.toNat)
  else if 'a' ≤ c ∧ c ≤ 'f' then some (c.toNat - 'a'.toNat + 10)
  else if 'A' ≤ c ∧ c ≤ 'F' then some (c.toNat - 'A'.toNat + 10)
  else none

def isAllowed (c : Char) : Bool :=
  let n := c.toNat
  n == 0x9 || n == 0xA || n == 0xD || (0x20 ≤ n && n ≤ 0x7E) || n == 0x85 ||
    (0xA0 ≤ n && n ≤ 0xD7FF) || (0xE000 ≤ n && n ≤ 0xFFFD) || 0x10000 ≤ n

def isOrderMark (c : Char) : Bool := c.toNat == 0xFEFF

structure Cursor where
  rest : List Char
  mark : Mark
  deriving Repr, Inhabited

namespace Cursor

def head? (cursor : Cursor) : Option Char := cursor.rest.head?

def ahead (cursor : Cursor) (i : Nat) (p : Char → Bool) : Bool := (cursor.rest[i]?).any p

def isAt (cursor : Cursor) (c : Char) : Bool := cursor.head? == some c

def atEnd (cursor : Cursor) : Bool := cursor.rest.isEmpty

def atBlank (cursor : Cursor) : Bool := cursor.ahead 0 isBlank

def atBreak (cursor : Cursor) : Bool := cursor.ahead 0 isBreak

def atBreakOrEnd (cursor : Cursor) : Bool := cursor.atEnd || cursor.atBreak

/-- The place `i` ahead is blank, a break or the end. -/
def gapAhead (cursor : Cursor) (i : Nat) : Bool :=
  match cursor.rest[i]? with
  | none => true
  | some c => isBlank c || isBreak c

def skip (cursor : Cursor) : Cursor :=
  match cursor.rest with
  | [] => cursor
  | _ :: rest => ⟨rest, { cursor.mark with index := cursor.mark.index + 1, column := cursor.mark.column + 1 }⟩

def skipMany : Nat → Cursor → Cursor
  | 0, cursor => cursor
  | n + 1, cursor => skipMany n cursor.skip

def newLine (cursor : Cursor) (rest : List Char) (size : Nat) : Cursor :=
  ⟨rest, ⟨cursor.mark.index + size, cursor.mark.line + 1, 0⟩⟩

/-- Reads a line break, which is one line feed unless it is one of the special separators. -/
def readBreak (cursor : Cursor) : List Char × Cursor :=
  match cursor.rest with
  | '\r' :: '\n' :: rest => (['\n'], cursor.newLine rest 2)
  | c :: rest =>
    if c == '\n' || c == '\r' || c.toNat == 0x85 then (['\n'], cursor.newLine rest 1)
    else if isBreak c then ([c], cursor.newLine rest 1)
    else ([], cursor)
  | [] => ([], cursor)

def skipBreak (cursor : Cursor) : Cursor := cursor.readBreak.2

/-- Characters up to the first that fails `p`. None of them may be a break. -/
def takeWhile (p : Char → Bool) (cursor : Cursor) : List Char × Cursor :=
  let taken := cursor.rest.takeWhile p
  (taken, cursor.skipMany taken.length)

def skipWhile (p : Char → Bool) (cursor : Cursor) : Cursor := (cursor.takeWhile p).2

def skipComment (cursor : Cursor) : Cursor :=
  if cursor.isAt '#' then cursor.skipWhile (!isBreak ·) else cursor

/-- Three equal signs at the beginning of a line, which separate documents. -/
def atIndicator (cursor : Cursor) (c : Char) : Bool :=
  cursor.mark.column == 0 && [c, c, c].isPrefixOf cursor.rest && cursor.gapAhead 3

def atDocumentIndicator (cursor : Cursor) : Bool := cursor.atIndicator '-' || cursor.atIndicator '.'

/-- A fault found here while reading something that began earlier. -/
def fail {α : Type} (cursor : Cursor) (context : String) (since : Mark) (problem : String) :
    Except Fault α :=
  .error { problem, mark := cursor.mark, context := some (context, since) }

def refuse {α : Type} (cursor : Cursor) (problem : String) : Except Fault α :=
  .error { problem, mark := cursor.mark }

end Cursor

/-- Joins two lines: one break becomes a blank, more lose their first one. -/
def foldBreaks (first more : List Char) : List Char :=
  if first.head? = some '\n' then (if more.isEmpty then [' '] else more) else first ++ more

end FluentAssert.Yaml
