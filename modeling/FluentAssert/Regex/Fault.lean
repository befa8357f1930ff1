import FluentAssert.Text.Lines

/-! What can be wrong with a pattern, where, and the text that shows it. -/
namespace FluentAssert.Regex

/-- A place in a pattern; lines and columns count characters from one. -/
structure Position where
  offset : Nat
  line : Nat
  column : Nat
  deriving DecidableEq, Repr, Inhabited

namespace Position

def start : Position := ⟨0, 1, 1⟩

def after (p : Position) (c : Char) : Position :=
  if c = '\n' then ⟨p.offset + 1, p.line + 1, 1⟩ else ⟨p.offset + 1, p.line, p.column + 1⟩

end Position

structure Span where
  first : Position
  last : Position
  deriving DecidableEq, Repr, Inhabited

namespace Span

def empty (p : Position) : Span := ⟨p, p⟩

def onOneLine (span : Span) : Bool := span.first.line == span.last.line

/-- Spans are ordered by where they begin, then by where they end. -/
def atMost (a b : Span) : Bool :=
  a.first.offset < b.first.offset ||
    (a.first.offset == b.first.offset && a.last.offset ≤ b.last.offset)

end Span

inductive Problem where
  | classEscapeInvalid | classRangeInvalid | classRangeLiteral | classUnclosed
  | decimalInvalid
  | hexEmpty | hexInvalid | hexInvalidDigit | escapeUnexpectedEnd | escapeUnrecognized
  | flagDanglingNegation | flagDuplicate | flagRepeatedNegation | flagUnexpectedEnd
  | flagUnrecognized
  | nameDuplicate | nameEmpty | nameInvalid | nameUnexpectedEnd
  | groupUnclosed | groupUnopened
  | nestLimitExceeded (limit : Nat)
  | countInvalid | countEmpty | countUnclosed | repetitionMissing
  | boundaryUnclosed | boundaryUnrecognized | boundaryUnexpectedEnd
  | propertyInvalid | propertyNotFound | propertyValueNotFound
  | backreference | lookAround
  | unicodeNotAllowed | invalidUtf8
  deriving DecidableEq, Repr

def Problem.message : Problem → String
  | classEscapeInvalid => "invalid escape sequence found in character class"
  | classRangeInvalid => "invalid character class range, the start must be <= the end"
  | classRangeLiteral => "invalid range boundary, must be a literal"
  | classUnclosed => "unclosed character class"
  | decimalInvalid => "decimal literal invalid"
  | hexEmpty => "hexadecimal literal empty"
  | hexInvalid => "hexadecimal literal is not a Unicode scalar value"
  | hexInvalidDigit => "invalid hexadecimal digit"
  | escapeUnexpectedEnd => "incomplete escape sequence, reached end of pattern prematurely"
  | escapeUnrecognized => "unrecognized escape sequence"
  | flagDanglingNegation => "dangling flag negation operator"
  | flagDuplicate => "duplicate flag"
  | flagRepeatedNegation => "flag negation operator repeated"
  | flagUnexpectedEnd => "expected flag but got end of regex"
  | flagUnrecognized => "unrecognized flag"
  | nameDuplicate => "duplicate capture group name"
  | nameEmpty => "empty capture group name"
  | nameInvalid => "invalid capture group character"
  | nameUnexpectedEnd => "unclosed capture group name"
  | groupUnclosed => "unclosed group"
  | groupUnopened => "unopened group"
  | nestLimitExceeded limit =>
    "exceed the maximum number of nested parentheses/brackets (" ++ toString limit ++ ")"
  | countInvalid => "invalid repetition count range, the start must be <= the end"
  | countEmpty => "repetition quantifier expects a valid decimal"
  | countUnclosed => "unclosed counted repetition"
  | repetitionMissing => "repetition operator missing expression"
  | boundaryUnclosed =>
    "special word boundary assertion is either unclosed or contains an invalid character"
  | boundaryUnrecognized =>
    "unrecognized special word boundary assertion, valid choices are: start, end, start-half " ++
      "or end-half"
  | boundaryUnexpectedEnd =>
    "found either the beginning of a special word boundary or a bounded repetition on a \\b with " ++
      "an opening brace, but no closing brace"
  | propertyInvalid => "invalid Unicode character class"
  | propertyNotFound => "Unicode property not found"
  | propertyValueNotFound => "Unicode property value not found"
  | backreference => "backreferences are not supported"
  | lookAround => "look-around, including look-ahead and look-behind, is not supported"
  | unicodeNotAllowed => "Unicode not allowed here"
  | invalidUtf8 => "pattern can match invalid UTF-8"

/-- A problem with its place, and the place of what it collides with. -/
structure Fault where
  problem : Problem
  span : Span
  other : Option Span := none
  deriving DecidableEq, Repr

namespace Fault

def spans (fault : Fault) : List Span :=
  match fault.other with
  | none => [fault.span]
  | some other => if fault.span.atMost other then [fault.span, other] else [other, fault.span]

def blanks (n : Nat) : String := String.ofList (List.replicate n ' ')

/-- Carets under the spans of one line, the first of which follows `column` characters. -/
def carets (column : Nat) : List Span → List Char
  | [] => []
  | span :: rest =>
    let gap := span.first.column - 1 - column
    let width := max 1 (span.last.column - span.first.column)
    List.replicate gap ' ' ++ List.replicate width '^' ++ carets (column + gap + width) rest

def showLine (lead line : String) (spans : List Span) : List String :=
  if spans.isEmpty then [lead ++ line]
  else [lead ++ line, blanks lead.length ++ String.ofList (carets 0 spans)]

def lineLabel (width number : Nat) : String :=
  let digits := toString number
  blanks (width - digits.length) ++ digits ++ ": "

def throughLines (span : Span) : String :=
  "on line " ++ toString span.first.line ++ " (column " ++ toString span.first.column ++
    ") through line " ++ toString span.last.line ++ " (column " ++
    toString (span.last.column - 1) ++ ")"

/-- How many lines spans can lie on: a final line feed begins one more. -/
def lineCount (pattern : String) : Nat :=
  (Text.lines pattern).length + if pattern.toList.getLast? = some '\n' then 1 else 0

/-- The lines of the pattern, with marks under the places of the fault. -/
def marked (fault : Fault) (pattern : String) : List String :=
  let count := lineCount pattern
  let short := fault.spans.filter Span.onOneLine
  (Text.lines pattern).zipIdx.flatMap fun (line, i) =>
    let lead := if count ≤ 1 then blanks 4 else lineLabel (toString count).length (i + 1)
    showLine lead line (short.filter fun span => span.first.line == i + 1)

def divider : String := String.ofList (List.replicate 79 '~')

def render (fault : Fault) (pattern : String) : String :=
  let shown := fault.marked pattern
  let long := (fault.spans.filter fun span => !span.onOneLine).map throughLines
  "\n".intercalate <|
    if pattern.toList.contains '\n' then
      ["regex parse error:", divider] ++ shown ++ [divider] ++ long ++
        ["error: " ++ fault.problem.message]
    else "regex parse error:" :: shown ++ ["error: " ++ fault.problem.message]

end Fault
end FluentAssert.Regex
