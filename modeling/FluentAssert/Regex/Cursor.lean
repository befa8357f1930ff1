import FluentAssert.Regex.Tree
import FluentAssert.Text.Blank

/-! A place in a pattern with the characters after it, and the scanning of numbers and words. -/
namespace FluentAssert.Regex

structure Cursor where
  rest : List Char
  position : Position
  /-- Blanks and comments mean nothing. -/
  verbose : Bool
  deriving Repr, Inhabited

namespace Cursor

def start (pattern : List Char) : Cursor := ⟨pattern, .start, false⟩

def next (cursor : Cursor) : Cursor :=
  match cursor.rest with
  | [] => cursor
  | c :: rest => { cursor with rest, position := cursor.position.after c }

/-- The rest behind blanks and comments. A comment goes from a hash to the end of its line. -/
def skipFrom (inComment : Bool) : List Char → Position → List Char × Position
  | [], position => ([], position)
  | c :: rest, position =>
    if inComment then skipFrom (c != '\n') rest (position.after c)
    else if Text.isBlank c then skipFrom false rest (position.after c)
    else if c = '#' then skipFrom true rest (position.after c)
    else (c :: rest, position)

def skip (cursor : Cursor) : Cursor :=
  if cursor.verbose then
    let (rest, position) := skipFrom false cursor.rest cursor.position
    { cursor with rest, position }
  else cursor

def move (cursor : Cursor) : Cursor := cursor.next.skip

def head? (cursor : Cursor) : Option Char := cursor.rest.head?

def isAt (cursor : Cursor) (c : Char) : Bool := cursor.head? == some c

def atEnd (cursor : Cursor) : Bool := cursor.rest.isEmpty

def peek (cursor : Cursor) : Option Char := cursor.rest.tail.head?

/-- The character after the current one, past blanks and one hash. -/
def peekPastBlanks : (sawHash : Bool) → List Char → Option Char
  | _, [] => none
  | sawHash, c :: rest =>
    if Text.isBlank c then peekPastBlanks sawHash rest
    else if c = '#' && !sawHash then peekPastBlanks true rest
    else some c

def peekSkipping (cursor : Cursor) : Option Char :=
  if cursor.verbose then (peekPastBlanks false cursor.rest.tail).or cursor.peek else cursor.peek

def here (cursor : Cursor) : Span := .empty cursor.position

def charSpan (cursor : Cursor) : Span := ⟨cursor.position, cursor.next.position⟩

def spanFrom (cursor : Cursor) (first : Position) : Span := ⟨first, cursor.position⟩

def fail {α : Type} (_ : Cursor) (problem : Problem) (span : Span) : Except Fault α :=
  .error { problem, span }

/-- The place behind a word, if the rest begins with it. -/
def accept? (cursor : Cursor) (word : String) : Option Cursor :=
  if word.toList.isPrefixOf cursor.rest then some (word.toList.foldl (fun c _ => c.next) cursor)
  else none

/-- Moves on while `p` holds, at most `fuel` times, and collects the characters. -/
def takeWhile (p : Char → Bool) (step : Cursor → Cursor) : Nat → Cursor → List Char × Cursor
  | 0, cursor => ([], cursor)
  | fuel + 1, cursor =>
    match cursor.rest with
    | [] => ([], cursor)
    | c :: _ =>
      if p c then
        let (taken, after) := takeWhile p step fuel (step cursor)
        (c :: taken, after)
      else ([], cursor)

/-- Characters up to the first that fails `p`, passing over what means nothing in between. -/
def word (cursor : Cursor) (p : Char → Bool) : List Char × Cursor :=
  takeWhile p move cursor.rest.length cursor

def run (cursor : Cursor) (p : Char → Bool) : List Char × Cursor :=
  takeWhile p next cursor.rest.length cursor

def isHex (c : Char) : Bool :=
  c.isDigit || ('a' ≤ c && c ≤ 'f') || ('A' ≤ c && c ≤ 'F')

def hexValue (digits : List Char) : Nat := Text.hexValue (digits.map Char.toUpper)

def scalar? (code : Nat) : Option Char :=
  if code < 0xD800 ∨ (0xDFFF < code ∧ code ≤ 0x10FFFF) then some (Char.ofNat code) else none

def countLimit : Nat := Nat.pow 2 32 - 1

/-- A decimal number with blanks around it. What is wrong with it comes back as a value, because
other faults go first. -/
def decimal (cursor : Cursor) : Except Fault Nat × Cursor :=
  let (_, cursor) := cursor.run Text.isBlank
  let (digits, after) := cursor.word Char.isDigit
  let (_, behind) := after.word Text.isBlank
  let span := after.spanFrom cursor.position
  let number := digits.foldl (fun n c => 10 * n + (c.toNat - '0'.toNat)) 0
  if digits.isEmpty then (.error { problem := .countEmpty, span }, behind)
  else if countLimit < number then (.error { problem := .decimalInvalid, span }, behind)
  else (.ok number, behind)

end Cursor
end FluentAssert.Regex
