import FluentAssert.Regex.Cursor

/-! Escape sequences: what may follow a backslash. -/
namespace FluentAssert.Regex.Cursor

/-- Characters with a meaning of their own; a backslash takes it away. -/
def isMeta (c : Char) : Bool := "\\.+*?()|[]\x7b\x7d^$#&-~".toList.contains c

def isEscapable (c : Char) : Bool :=
  isMeta c || (c.toNat < 0x80 && !c.isAlphanum && c != '<' && c != '>')

def hexWidth : Char → Nat
  | 'x' => 2
  | 'u' => 4
  | _ => 8

/-- Exactly `width` digits, of which `read` were read. -/
def hexDigits : (width : Nat) → (read : List Char) → Cursor → Except Fault (List Char × Cursor)
  | 0, read, cursor => .ok (read, cursor)
  | width + 1, read, cursor =>
    match cursor.rest with
    | [] => cursor.fail .escapeUnexpectedEnd cursor.here
    | c :: _ =>
      if isHex c then hexDigits width (read ++ [c]) cursor.move
      else cursor.fail .hexInvalidDigit cursor.charSpan

def hexBraced (cursor : Cursor) (first : Position) : Except Fault (Tree × Cursor) := do
  let brace := cursor.position
  let inside := cursor.next.position
  let (digits, after) := cursor.move.word isHex
  if after.atEnd then after.fail .escapeUnexpectedEnd (after.spanFrom brace)
  else if !after.isAt '\x7d' then after.fail .hexInvalidDigit after.charSpan
  else
    let behind := after.move
    if digits.isEmpty then behind.fail .hexEmpty (behind.spanFrom brace)
    else match scalar? (hexValue digits) with
      | none => behind.fail .hexInvalid (after.spanFrom inside)
      | some char => return (.literal ⟨behind.spanFrom first, char, false⟩, behind)

def hexEscape (cursor : Cursor) (first : Position) (letter : Char) :
    Except Fault (Tree × Cursor) := do
  let cursor := cursor.move
  if cursor.atEnd then cursor.fail .escapeUnexpectedEnd cursor.here
  else if cursor.isAt '\x7b' then cursor.hexBraced first
  else
    let (digits, behind) ← hexDigits (hexWidth letter) [] cursor
    match scalar? (hexValue digits) with
    | none => behind.fail .hexInvalid (behind.spanFrom cursor.position)
    | some char => return (.literal ⟨behind.spanFrom first, char, letter == 'x'⟩, behind)

/-- A name, or a name and a value with a separator between them. The flag tells that the value is
excluded. -/
def splitProperty (text : List Char) : Bool × PropertyName :=
  let cut (size : Nat) (negated : Bool) (separator : List Char) : Option (Bool × PropertyName) :=
    ((List.range text.length).find? fun i => separator.isPrefixOf (text.drop i)).map fun i =>
      (negated, .withValue (String.ofList (text.take i)) (String.ofList (text.drop (i + size))))
  (((cut 2 true ['!', '=']).or (cut 1 false [':'])).or (cut 1 false ['='])).getD
    (false, .alone (String.ofList text))

def propertyEscape (cursor : Cursor) (first : Position) (negated : Bool) :
    Except Fault (Tree × Cursor) := do
  let cursor := cursor.move
  match cursor.rest with
  | [] => cursor.fail .escapeUnexpectedEnd cursor.here
  | '\x7b' :: _ =>
    let (name, after) := cursor.move.word (· != '\x7d')
    if after.atEnd then after.fail .escapeUnexpectedEnd after.here
    else
      let behind := after.next
      let (excluded, name) := splitProperty name
      return (.property (behind.spanFrom first) (negated != excluded) name, behind)
  | c :: _ =>
    if c = '\\' then cursor.fail .propertyInvalid cursor.charSpan
    else
      let behind := cursor.move
      return (.property (behind.spanFrom first) negated (.alone c.toString), behind)

def boundaryNames : List (String × Assertion) :=
  [("start", .wordStart), ("end", .wordEnd), ("start-half", .wordStartHalf),
   ("end-half", .wordEndHalf)]

/-- The kind of boundary that braces name, or none if the braces can only be a count. -/
def boundaryKind (cursor : Cursor) (first : Position) :
    Except Fault (Option (Assertion × Cursor)) := do
  let brace := cursor.position
  let inside := cursor.move
  let isNameChar := fun (c : Char) => c.isAlpha || c == '-'
  match inside.rest with
  | [] => inside.fail .boundaryUnexpectedEnd (inside.spanFrom first)
  | c :: _ =>
    if !isNameChar c then return none
    else
      let (name, after) := inside.word isNameChar
      if !after.isAt '\x7d' then after.fail .boundaryUnclosed (after.spanFrom brace)
      else match boundaryNames.lookup (String.ofList name) with
        | some kind => return some (kind, after.next)
        | none => after.fail .boundaryUnrecognized (after.spanFrom inside.position)

def controls : List (Char × Char) :=
  [('a', '\x07'), ('f', '\x0c'), ('t', '\t'), ('n', '\n'), ('r', '\r'), ('v', '\x0b')]

def assertions : List (Char × Assertion) :=
  [('A', .textStart), ('z', .textEnd), ('B', .noBoundary), ('<', .wordStart), ('>', .wordEnd)]

def shorthands : List (Char × Bool × Shorthand) :=
  [('d', false, .digit), ('s', false, .space), ('w', false, .word), ('D', true, .digit),
   ('S', true, .space), ('W', true, .word)]

def letterEscape (cursor : Cursor) (first : Position) (c : Char) : Except Fault (Tree × Cursor) := do
  let behind := cursor.next
  let span := behind.spanFrom first
  if isEscapable c then return (.literal ⟨span, c, false⟩, behind)
  else if let some char := controls.lookup c then return (.literal ⟨span, char, false⟩, behind)
  else if let some kind := assertions.lookup c then return (.assertion span kind, behind)
  else if let some (negated, kind) := shorthands.lookup c then
    return (.shorthand span negated kind, behind)
  else if c = 'b' then
    if behind.isAt '\x7b' then
      match ← behind.boundaryKind first with
      | some (kind, after) => return (.assertion (after.spanFrom first) kind, after)
      | none => return (.assertion span .boundary, behind)
    else return (.assertion span .boundary, behind)
  else behind.fail .escapeUnrecognized span

def escape (cursor : Cursor) : Except Fault (Tree × Cursor) :=
  let first := cursor.position
  let cursor := cursor.next
  match cursor.rest with
  | [] => cursor.fail .escapeUnexpectedEnd (cursor.spanFrom first)
  | c :: _ =>
    if c.isDigit then cursor.fail .backreference ⟨first, cursor.next.position⟩
    else if c = 'x' ∨ c = 'u' ∨ c = 'U' then cursor.hexEscape first c
    else if c = 'p' ∨ c = 'P' then cursor.propertyEscape first (c == 'P')
    else cursor.letterEscape first c

end FluentAssert.Regex.Cursor
