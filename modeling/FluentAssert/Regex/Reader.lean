import FluentAssert.Regex.Bracket
import FluentAssert.Text.Alphabetic

/-! Reading patterns: groups, alternations, repetitions and single parts. -/
namespace FluentAssert.Regex.Reader

/-- What is still open: a group with what came before it, or the branches before the current
one. -/
inductive Pending where
  | group (before : List Tree) (first : Position) (span : Span) (kind : GroupKind) (verbose : Bool)
  | branches (first : Position) (before : List Tree)

structure Progress where
  cursor : Cursor
  /-- Items of the current sequence, the last one first. -/
  items : List Tree
  first : Position
  pending : List Pending
  captures : Nat
  names : List (String × Span)

def Progress.start (pattern : List Char) : Progress :=
  ⟨.start pattern, [], .start, [], 0, []⟩

namespace Progress

def sequence (p : Progress) : Tree := .ofItems (p.cursor.spanFrom p.first) p.items.reverse

def push (p : Progress) (tree : Tree) (cursor : Cursor) : Progress :=
  { p with cursor, items := tree :: p.items }

def begin (p : Progress) (cursor : Cursor) (pending : List Pending) : Progress :=
  { p with cursor, items := [], first := cursor.position, pending }

end Progress

def nextBranch (p : Progress) : Progress :=
  let pending := match p.pending with
    | .branches first before :: rest => .branches first (p.sequence :: before) :: rest
    | rest => .branches p.first [p.sequence] :: rest
  p.begin p.cursor.next pending

/-- The current sequence with the branches before it, and what is open around them. -/
def finished (p : Progress) : Tree × List Pending :=
  match p.pending with
  | .branches first before :: rest =>
    (.alternation (p.cursor.spanFrom first) (p.sequence :: before).reverse, rest)
  | rest => (p.sequence, rest)

def isNameChar (first : Bool) (c : Char) : Bool :=
  if first then c = '_' || Text.isAlphabetic c
  else c = '_' || c = '.' || c = '[' || c = ']' || Text.isAlphanumeric c

def nameChars (first : Bool) : Nat → Cursor → Except Fault (List Char × Cursor)
  | 0, cursor => .ok ([], cursor)
  | fuel + 1, cursor =>
    match cursor.rest with
    | [] => .ok ([], cursor)
    | c :: _ =>
      if c = '>' then .ok ([], cursor)
      else if !isNameChar first c then cursor.fail .nameInvalid cursor.charSpan
      else do
        let (chars, after) ← nameChars false fuel cursor.next
        return (c :: chars, after)

def groupName (names : List (String × Span)) (cursor : Cursor) :
    Except Fault (String × Span × Cursor) := do
  let (chars, after) ← nameChars true (cursor.rest.length + 1) cursor
  if after.atEnd then after.fail .nameUnexpectedEnd after.here
  else if chars.isEmpty then after.fail .nameEmpty cursor.here
  else
    let name := String.ofList chars
    let span := after.spanFrom cursor.position
    match names.lookup name with
    | some other => throw { problem := .nameDuplicate, span, other := some other }
    | none => return (name, span, after.next)

def flagLetters : List (Char × Flag) :=
  [('i', .ignoreCase), ('m', .multiLine), ('s', .dotAll), ('U', .swapGreed), ('u', .unicode),
   ('R', .crlf), ('x', .verbose)]

/-- Items of a list of flags, with their places, up to its end. -/
def flagItems : Nat → List (FlagItem × Span) → Cursor → Except Fault (List FlagItem × Cursor)
  | 0, read, cursor => .ok (read.map (·.1), cursor)
  | fuel + 1, read, cursor =>
    match cursor.rest with
    | [] => cursor.fail .flagUnexpectedEnd cursor.here
    | c :: _ =>
      if c = ':' ∨ c = ')' then
        match read.getLast? with
        | some (.negation, span) => cursor.fail .flagDanglingNegation span
        | _ => .ok (read.map (·.1), cursor)
      else do
        let span := cursor.charSpan
        let item ← if c = '-' then pure .negation else match flagLetters.lookup c with
          | some flag => pure (.flag flag)
          | none => cursor.fail .flagUnrecognized span
        match read.lookup item with
        | some other =>
          let problem := if item = .negation then .flagRepeatedNegation else .flagDuplicate
          throw { problem, span, other := some other }
        | none => flagItems fuel (read ++ [(item, span)]) cursor.next

def lookAroundSigns : List String := ["?=", "?!", "?<=", "?<!"]

def openGroup (p : Progress) (before : List Tree) (cursor : Cursor) (span : Span)
    (kind : GroupKind) : Progress :=
  let verbose := match kind with
    | .plain settings => (settings.lookup .verbose).getD p.cursor.verbose
    | .capture .. => p.cursor.verbose
  p.begin { cursor with verbose }
    (.group before p.first span kind p.cursor.verbose :: p.pending)

/-- Reads an opening parenthesis with all that says which kind of group it opens. A group that only
sets flags ends at once. -/
def enterGroup (p : Progress) : Except Fault Progress := do
  let span := p.cursor.charSpan
  let cursor := p.cursor.move
  if let some after := lookAroundSigns.findSome? cursor.accept? then
    cursor.fail .lookAround (after.spanFrom span.first)
  else if let some inside := (cursor.accept? "?P<").or (cursor.accept? "?<") then
    let index := p.captures + 1
    let (name, nameSpan, cursor) ← groupName p.names inside
    let p := { p with captures := index, names := (name, nameSpan) :: p.names }
    return openGroup p p.items cursor span (.capture index (some name))
  else if let some inside := cursor.accept? "?" then
    if inside.atEnd then inside.fail .groupUnclosed span
    else
      let (items, after) ← flagItems (inside.rest.length + 1) [] inside
      let settings := FlagItem.settings false items
      let behind := after.next
      if after.isAt ')' then
        if items.isEmpty then cursor.fail .repetitionMissing cursor.here
        else
          let verbose := (settings.lookup .verbose).getD p.cursor.verbose
          return p.push (.flags (behind.spanFrom span.first) settings) { behind with verbose }
      else return openGroup p p.items behind span (.plain settings)
  else
    let index := p.captures + 1
    return openGroup { p with captures := index } p.items cursor span (.capture index none)

def leaveGroup (p : Progress) : Except Fault Progress :=
  let (body, pending) := finished p
  match pending with
  | .group before first span kind verbose :: rest =>
    let cursor := { p.cursor.next with verbose }
    let group := Tree.group (cursor.spanFrom span.first) kind body
    .ok { p with cursor, items := group :: before, first, pending := rest }
  | _ => p.cursor.fail .groupUnopened p.cursor.charSpan

def repeated (p : Progress) : Except Fault (Tree × List Tree) :=
  match p.items with
  | item :: rest =>
    if item.isRepeatable then .ok (item, rest)
    else p.cursor.fail .repetitionMissing p.cursor.here
  | [] => p.cursor.fail .repetitionMissing p.cursor.here

/-- Adds a repetition that may be followed by the sign of the least one. -/
def pushRepetition (p : Progress) (body : Tree) (rest : List Tree) (cursor : Cursor) (min : Nat)
    (max : Option Nat) : Progress :=
  let lazy := cursor.isAt '?'
  let cursor := if lazy then cursor.next else cursor
  { p with
    cursor,
    items := .repetition (cursor.spanFrom body.span.first) min max (!lazy) body :: rest }

def repetition (p : Progress) (min : Nat) (max : Option Nat) : Except Fault Progress := do
  let (body, rest) ← repeated p
  return pushRepetition p body rest p.cursor.next min max

def bounds (cursor : Cursor) (first : Position) : Except Fault (Nat × Option Nat × Cursor) := do
  let (low, cursor) := cursor.decimal
  if cursor.atEnd then cursor.fail .countUnclosed (cursor.spanFrom first)
  else if cursor.isAt ',' then
    let cursor := cursor.move
    if cursor.atEnd then cursor.fail .countUnclosed (cursor.spanFrom first)
    else if cursor.isAt '\x7d' then return (← low, none, cursor)
    else
      let low ← low
      let (high, cursor) := cursor.decimal
      return (low, some (← high), cursor)
  else
    let low ← low
    return (low, some low, cursor)

def countedRepetition (p : Progress) : Except Fault Progress := do
  let first := p.cursor.position
  let (body, rest) ← repeated p
  let cursor := p.cursor.move
  if cursor.atEnd then cursor.fail .countUnclosed (cursor.spanFrom first)
  else
    let (min, max, cursor) ← bounds cursor first
    if !cursor.isAt '\x7d' then cursor.fail .countUnclosed (cursor.spanFrom first)
    else
      let next := pushRepetition p body rest cursor.move min max
      if max.any (· < min) then next.cursor.fail .countInvalid (next.cursor.spanFrom first)
      else return next

def step (p : Progress) : Except Fault Progress :=
  let cursor := p.cursor
  match cursor.rest with
  | [] => .ok p
  | '(' :: _ => enterGroup p
  | ')' :: _ => leaveGroup p
  | '|' :: _ => .ok (nextBranch p)
  | '[' :: _ => do
    let (tree, cursor) ← Bracket.readClass cursor
    return p.push tree cursor
  | '?' :: _ => repetition p 0 (some 1)
  | '*' :: _ => repetition p 0 none
  | '+' :: _ => repetition p 1 none
  | '\x7b' :: _ => countedRepetition p
  | '\\' :: _ => do
    let (tree, cursor) ← cursor.escape
    return p.push tree cursor
  | '.' :: _ => .ok (p.push (.dot cursor.charSpan) cursor.next)
  | '^' :: _ => .ok (p.push (.assertion cursor.charSpan .lineStart) cursor.next)
  | '$' :: _ => .ok (p.push (.assertion cursor.charSpan .lineEnd) cursor.next)
  | c :: _ => .ok (p.push (.literal ⟨cursor.charSpan, c, false⟩) cursor.next)

/-- Goes on to the end of the pattern. Every step reads a character. -/
def readParts : Nat → Progress → Except Fault Progress
  | 0, p => .ok p
  | fuel + 1, p =>
    let p := { p with cursor := p.cursor.skip }
    if p.cursor.atEnd then .ok p else do readParts fuel (← step p)

def nestLimit : Nat := 250

def read (pattern : String) : Except Fault Tree := do
  let p ← readParts (pattern.length + 1) (.start pattern.toList)
  let (tree, pending) := finished p
  match pending with
  | .group _ _ span _ _ :: _ => throw { problem := .groupUnclosed, span }
  | _ =>
    tree.checkDepth nestLimit 0
    return tree

end FluentAssert.Regex.Reader
