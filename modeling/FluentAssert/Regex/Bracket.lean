import FluentAssert.Regex.Escape

/-! Reading what stands between brackets: characters, ranges, classes, nested brackets and the
operations on them, which have one precedence and group to the left. -/
namespace FluentAssert.Regex.Bracket

/-- Items side by side, the last one first. -/
structure Side where
  span : Span
  items : List SetTree

namespace Side

def start (cursor : Cursor) : Side := ⟨cursor.here, []⟩

def push (side : Side) (item : SetTree) : Side :=
  ⟨⟨if side.items.isEmpty then item.span.first else side.span.first, item.span.last⟩,
   item :: side.items⟩

def tree (side : Side) : SetTree :=
  match side.items with
  | [] => .empty side.span
  | [item] => item
  | items => .union side.span items.reverse

end Side

/-- What is still open: a bracket with the items before it, or an operation with its left side. -/
inductive Pending where
  | bracket (before : Side) (span : Span) (negated : Bool)
  | operation (op : SetOp) (left : SetTree)

structure Progress where
  cursor : Cursor
  side : Side
  pending : List Pending

def unclosed : List Pending → Fault
  | [] => { problem := .classUnclosed, span := default }
  | .bracket _ span _ :: _ => { problem := .classUnclosed, span }
  | .operation .. :: rest => unclosed rest

def leadingHyphens (first : Position) : Nat → Side → Cursor → Except Fault (Side × Cursor)
  | 0, side, cursor => .ok (side, cursor)
  | fuel + 1, side, cursor =>
    if cursor.isAt '-' then
      let side := side.push (.literal ⟨cursor.charSpan, '-', false⟩)
      let cursor := cursor.move
      if cursor.atEnd then cursor.fail .classUnclosed (.empty first)
      else leadingHyphens first fuel side cursor
    else .ok (side, cursor)

/-- Reads an opening bracket with the sign of negation and the characters that stand for themselves
only here. -/
def openBracket (p : Progress) : Except Fault Progress := do
  let first := p.cursor.position
  let cursor := p.cursor.move
  if cursor.atEnd then cursor.fail .classUnclosed (cursor.spanFrom first)
  else
    let negated := cursor.isAt '^'
    let cursor := if negated then cursor.move else cursor
    if cursor.atEnd then cursor.fail .classUnclosed (cursor.spanFrom first)
    else
      let (side, cursor) ← leadingHyphens first cursor.rest.length (.start cursor) cursor
      let opened (side : Side) (cursor : Cursor) : Progress :=
        ⟨cursor, side, .bracket p.side (cursor.spanFrom first) negated :: p.pending⟩
      if side.items.isEmpty && cursor.isAt ']' then
        let side := side.push (.literal ⟨cursor.charSpan, ']', false⟩)
        let cursor := cursor.move
        if cursor.atEnd then cursor.fail .classUnclosed (cursor.spanFrom first)
        else return opened side cursor
      else return opened side cursor

/-- Joins the right side to an operation that waits for it. -/
def joined (right : SetTree) : List Pending → SetTree × List Pending
  | .operation op left :: rest =>
    (.binary ⟨left.span.first, right.span.last⟩ op left right, rest)
  | pending => (right, pending)

def operation (op : SetOp) (cursor : Cursor) (p : Progress) : Progress :=
  let (left, pending) := joined p.side.tree p.pending
  ⟨cursor, .start cursor, .operation op left :: pending⟩

/-- Reads a closing bracket. The whole class comes back when it was the outermost one. -/
def closeBracket (p : Progress) : Except Fault (Progress ⊕ Tree × Cursor) :=
  let (body, pending) := joined p.side.tree p.pending
  let cursor := p.cursor.next
  match pending with
  | .bracket before span negated :: rest =>
    let span := cursor.spanFrom span.first
    if rest.isEmpty then .ok (.inr (.bracket span negated body, cursor))
    else .ok (.inl ⟨cursor, before.push (.bracket span negated body), rest⟩)
  | _ => .error (unclosed pending)

def asciiNames : List (String × AsciiClass) :=
  [("alnum", .alnum), ("alpha", .alpha), ("ascii", .ascii), ("blank", .blank), ("cntrl", .cntrl),
   ("digit", .digit), ("graph", .graph), ("lower", .lower), ("print", .print), ("punct", .punct),
   ("space", .space), ("upper", .upper), ("word", .word), ("xdigit", .xdigit)]

/-- A named class such as `[:alpha:]`, if there is one here. -/
def named? (cursor : Cursor) : Option (SetTree × Cursor) := do
  let inside ← cursor.accept? "[:"
  let (negated, inside) := match inside.accept? "^" with
    | some inside => (true, inside)
    | none => (false, inside)
  let (name, after) := inside.run (· != ':')
  let behind ← after.accept? ":]"
  let kind ← asciiNames.lookup (String.ofList name)
  return (.ascii (behind.spanFrom cursor.position) negated kind, behind)

def primitive (cursor : Cursor) : Except Fault (Tree × Cursor) :=
  match cursor.rest with
  | '\\' :: _ => cursor.escape
  | c :: _ => .ok (.literal ⟨cursor.charSpan, c, false⟩, cursor.next)
  | [] => cursor.fail .classUnclosed cursor.here

/-- An escape sequence as an item; assertions are none. -/
def item (tree : Tree) : Except Fault SetTree :=
  match tree with
  | .literal l => .ok (.literal l)
  | .shorthand span negated kind => .ok (.shorthand span negated kind)
  | .property span negated name => .ok (.property span negated name)
  | other => .error { problem := .classEscapeInvalid, span := other.span }

def bound (tree : Tree) : Except Fault Literal :=
  match tree with
  | .literal l => .ok l
  | other => .error { problem := .classRangeLiteral, span := other.span }

/-- An item or a range of characters. A hyphen before a bracket or a second hyphen makes none. -/
def itemOrRange (p : Progress) : Except Fault Progress := do
  let (first, cursor) ← primitive p.cursor
  let cursor := cursor.skip
  if cursor.atEnd then throw (unclosed p.pending)
  if !cursor.isAt '-' || cursor.peekSkipping == some ']' || cursor.peekSkipping == some '-' then
    return { p with cursor, side := p.side.push (← item first) }
  let cursor := cursor.move
  if cursor.atEnd then throw (unclosed p.pending)
  let (last, cursor) ← primitive cursor
  let low ← bound first
  let high ← bound last
  let range := SetTree.range low high
  if high.char < low.char then throw { problem := .classRangeInvalid, span := range.span }
  return { p with cursor, side := p.side.push range }

def signs : List (String × SetOp) := [("&&", .inter), ("--", .diff), ("~~", .symmDiff)]

def step (p : Progress) : Except Fault (Progress ⊕ Tree × Cursor) := do
  if p.cursor.isAt '[' then
    match named? p.cursor with
    | some (named, cursor) => return .inl { p with cursor, side := p.side.push named }
    | none => return .inl (← openBracket p)
  else if p.cursor.isAt ']' then closeBracket p
  else
    match signs.findSome? fun (sign, op) => (p.cursor.accept? sign).map (op, ·) with
    | some (op, cursor) => return .inl (operation op cursor p)
    | none => return .inl (← itemOrRange p)

/-- Goes on to the end of the class. Every step reads a character. -/
def read : Nat → Progress → Except Fault (Tree × Cursor)
  | 0, p => .error (unclosed p.pending)
  | fuel + 1, p => do
    let p := { p with cursor := p.cursor.skip }
    if p.cursor.atEnd then throw (unclosed p.pending)
    match ← step p with
    | .inl p => read fuel p
    | .inr done => return done

def readClass (cursor : Cursor) : Except Fault (Tree × Cursor) := do
  let p ← openBracket ⟨cursor, .start cursor, []⟩
  read (cursor.rest.length + 1) p

end FluentAssert.Regex.Bracket
