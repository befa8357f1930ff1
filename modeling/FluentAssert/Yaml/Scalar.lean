import FluentAssert.Yaml.Token

/-! Reading scalars: plain ones, ones in quotes, and blocks of lines. Every reader is given fuel by
the characters that are left, of which every turn takes one or more. -/
namespace FluentAssert.Yaml.Cursor

/-- What lies between two words: blanks, or line breaks with the blanks around them dropped. -/
structure Gap where
  blanks : List Char := []
  broken : Bool := false
  first : List Char := []
  more : List Char := []

namespace Gap

def text (gap : Gap) : List Char :=
  if gap.broken then foldBreaks gap.first gap.more else gap.blanks

def push (gap : Gap) (blank : Char) : Gap :=
  if gap.broken then gap else { gap with blanks := gap.blanks ++ [blank] }

def pushBreak (gap : Gap) (chars : List Char) : Gap :=
  if gap.broken then { gap with more := gap.more ++ chars }
  else { gap with blanks := [], broken := true, first := chars }

end Gap

/-- Reads blanks and breaks. `check` looks at every tab. -/
def gapFrom (check : Gap → Cursor → Except Fault Unit) :
    Nat → Gap → Cursor → Except Fault (Gap × Cursor)
  | 0, gap, cursor => .ok (gap, cursor)
  | fuel + 1, gap, cursor =>
    match cursor.rest with
    | [] => .ok (gap, cursor)
    | c :: _ =>
      if isBlank c then do
        if c = '\t' then check gap cursor
        gapFrom check fuel (gap.push c) cursor.skip
      else if isBreak c then
        let (chars, cursor) := cursor.readBreak
        gapFrom check fuel (gap.pushBreak chars) cursor
      else .ok (gap, cursor)

def flowSigns : List Char := [',', '[', ']', '\x7b', '\x7d']

def endsPlain (cursor : Cursor) (inFlow : Bool) : Bool :=
  (cursor.isAt ':' && cursor.gapAhead 1) || (inFlow && cursor.ahead 0 flowSigns.contains)

/-- A colon that may neither end a scalar nor belong to it. -/
def strayColon (cursor : Cursor) (inFlow : Bool) : Bool :=
  inFlow && cursor.isAt ':' && cursor.ahead 1 ('?' :: flowSigns).contains

def plainWord (inFlow : Bool) (since : Mark) : Nat → Cursor → Except Fault (List Char × Cursor)
  | 0, cursor => .ok ([], cursor)
  | fuel + 1, cursor =>
    match cursor.rest with
    | [] => .ok ([], cursor)
    | c :: _ =>
      if isBlank c || isBreak c then .ok ([], cursor)
      else if cursor.strayColon inFlow then
        cursor.fail "while scanning a plain scalar" since "found unexpected ':'"
      else if cursor.endsPlain inFlow then .ok ([], cursor)
      else do
        let (more, behind) ← plainWord inFlow since fuel cursor.skip
        return (c :: more, behind)

/-- What was read of a plain scalar: its text, its end, and the gap behind it. -/
structure Plain where
  text : List Char
  last : Mark
  gap : Gap

/-- Words with gaps between them. A tab may not take the place of indentation, and a line that is
not indented enough ends the scalar. -/
def plainWords (inFlow : Bool) (indent : Int) (since : Mark) :
    Nat → Plain → Cursor → Except Fault (Plain × Cursor)
  | 0, plain, cursor => .ok (plain, cursor)
  | fuel + 1, plain, cursor =>
    if cursor.atDocumentIndicator || cursor.isAt '#' then .ok (plain, cursor)
    else do
      let (word, cursor) ← plainWord inFlow since cursor.rest.length cursor
      let plain : Plain :=
        if word.isEmpty then plain else ⟨plain.text ++ plain.gap.text ++ word, cursor.mark, {}⟩
      if !(cursor.atBlank || cursor.atBreak) then return (plain, cursor)
      let check (gap : Gap) (cursor : Cursor) : Except Fault Unit :=
        if gap.broken && (cursor.mark.column : Int) < indent then
          cursor.fail "while scanning a plain scalar" since
            "found a tab character that violates indentation"
        else .ok ()
      let (gap, cursor) ← gapFrom check cursor.rest.length plain.gap cursor
      let plain := { plain with gap }
      if !inFlow && (cursor.mark.column : Int) < indent then return (plain, cursor)
      plainWords inFlow indent since fuel plain cursor

/-- A plain scalar, and whether it ended with a line. -/
def plainScalar (cursor : Cursor) (inFlow : Bool) (indent : Int) :
    Except Fault (Token × Bool × Cursor) := do
  let first := cursor.mark
  let (plain, cursor) ←
    plainWords inFlow (indent + 1) first (cursor.rest.length + 1) ⟨[], first, {}⟩ cursor
  return (⟨.scalar (String.ofList plain.text) .plain, first, plain.last⟩, plain.gap.broken, cursor)

def escapes : List (Char × Nat) :=
  [('0', 0), ('a', 7), ('b', 8), ('t', 9), ('\t', 9), ('n', 10), ('v', 11), ('f', 12), ('r', 13),
   ('e', 0x1B), (' ', 0x20), ('"', 0x22), ('/', 0x2F), ('\\', 0x5C), ('N', 0x85), ('_', 0xA0),
   ('L', 0x2028), ('P', 0x2029)]

def codeWidths : List (Char × Nat) := [('x', 2), ('u', 4), ('U', 8)]

def codeFrom : Nat → Nat → List Char → Option Nat
  | 0, code, _ => some code
  | _ + 1, _, [] => none
  | width + 1, code, c :: rest =>
    match hexDigit? c with
    | some digit => codeFrom width (16 * code + digit) rest
    | none => none

def quotedEscape (cursor : Cursor) (since : Mark) : Except Fault (Char × Cursor) :=
  let context := "while parsing a quoted scalar"
  match cursor.rest with
  | _ :: c :: rest =>
    match escapes.lookup c with
    | some code => .ok (Char.ofNat code, cursor.skipMany 2)
    | none =>
      match codeWidths.lookup c with
      | none => cursor.fail context since "found unknown escape character"
      | some width =>
        let behind := cursor.skipMany 2
        match codeFrom width 0 rest with
        | none => behind.fail context since "did not find expected hexadecimal number"
        | some code =>
          if (0xD800 ≤ code && code ≤ 0xDFFF) || 0x10FFFF < code then
            behind.fail context since "found invalid Unicode character escape code"
          else .ok (Char.ofNat code, behind.skipMany width)
  | _ => cursor.fail context since "found unknown escape character"

/-- Characters without blanks, up to the closing quote. The flag tells that an escaped line break
was read. -/
def quotedWord (single : Bool) (since : Mark) :
    Nat → Cursor → Except Fault (List Char × Bool × Cursor)
  | 0, cursor => .ok ([], false, cursor)
  | fuel + 1, cursor =>
    match cursor.rest with
    | [] => .ok ([], false, cursor)
    | c :: _ =>
      if isBlank c || isBreak c then .ok ([], false, cursor)
      else if single && c == '\'' && cursor.ahead 1 (· == '\'') then do
        let (more, broken, behind) ← quotedWord single since fuel (cursor.skipMany 2)
        return ('\'' :: more, broken, behind)
      else if c == (if single then '\'' else '"') then .ok ([], false, cursor)
      else if !single && c == '\\' && cursor.ahead 1 isBreak then
        .ok ([], true, cursor.skip.skipBreak)
      else do
        let (char, cursor) ←
          if !single && c == '\\' then cursor.quotedEscape since else pure (c, cursor.skip)
        let (more, broken, behind) ← quotedWord single since fuel cursor
        return (char :: more, broken, behind)

/-- Words with gaps between them, up to the closing quote. -/
def quotedWords (single : Bool) (since : Mark) :
    Nat → List Char → Cursor → Except Fault (List Char × Cursor)
  | 0, text, cursor => .ok (text, cursor)
  | fuel + 1, text, cursor =>
    let context := "while scanning a quoted scalar"
    if cursor.atDocumentIndicator then
      cursor.fail context since "found unexpected document indicator"
    else if cursor.atEnd then cursor.fail context since "found unexpected end of stream"
    else do
      let (word, broken, cursor) ← quotedWord single since cursor.rest.length cursor
      let text := text ++ word
      if cursor.isAt (if single then '\'' else '"') then return (text, cursor.skip)
      let (gap, cursor) ← gapFrom (fun _ _ => .ok ()) cursor.rest.length { broken } cursor
      quotedWords single since fuel (text ++ gap.text) cursor

def quotedScalar (cursor : Cursor) (single : Bool) : Except Fault (Token × Cursor) := do
  let first := cursor.mark
  let (text, cursor) ← quotedWords single first (cursor.rest.length + 1) [] cursor.skip
  let style := if single then Style.singleQuoted else .doubleQuoted
  return cursor.tokenFrom first (.scalar (String.ofList text) style)

inductive Chomping where
  | strip | clip | keep
  deriving DecidableEq, Repr

def chomping? (cursor : Cursor) : Option (Chomping × Cursor) :=
  match cursor.head? with
  | some '+' => some (.keep, cursor.skip)
  | some '-' => some (.strip, cursor.skip)
  | _ => none

/-- The digit that gives the indentation, which is not zero. -/
def blockIndent (cursor : Cursor) (since : Mark) : Except Fault (Nat × Cursor) :=
  match cursor.head? with
  | some '0' =>
    cursor.fail "while scanning a block scalar" since
      "found an indentation indicator equal to 0"
  | some c => if c.isDigit then .ok (c.toNat - '0'.toNat, cursor.skip) else .ok (0, cursor)
  | none => .ok (0, cursor)

def blockHeader (cursor : Cursor) (since : Mark) : Except Fault (Chomping × Nat × Cursor) := do
  match cursor.chomping? with
  | some (chomping, cursor) =>
    let (increment, cursor) ← cursor.blockIndent since
    return (chomping, increment, cursor)
  | none =>
    let (increment, cursor) ← cursor.blockIndent since
    if increment = 0 then return (.clip, 0, cursor)
    match cursor.chomping? with
    | some (chomping, cursor) => return (chomping, increment, cursor)
    | none => return (.clip, increment, cursor)

/-- Blank lines and the indentation behind them. -/
structure Breaks where
  chars : List Char
  /-- Deepest column of a blank line. -/
  deepest : Nat
  last : Mark

/-- Reads blank lines. Without a known indentation all blanks belong to it. -/
def blockBreaks (indent : Nat) (since : Mark) :
    Nat → Breaks → Cursor → Except Fault (Breaks × Cursor)
  | 0, breaks, cursor => .ok (breaks, cursor)
  | fuel + 1, breaks, cursor =>
    let inside := fun (cursor : Cursor) => indent == 0 || cursor.mark.column < indent
    let blanks := (cursor.rest.takeWhile (· == ' ')).length
    let cursor :=
      cursor.skipMany (if indent = 0 then blanks else min blanks (indent - cursor.mark.column))
    let breaks := { breaks with deepest := max breaks.deepest cursor.mark.column }
    if inside cursor && cursor.isAt '\t' then
      cursor.fail "while scanning a block scalar" since
        "found a tab character where an indentation space is expected"
    else if cursor.atBreak then
      let (chars, cursor) := cursor.readBreak
      blockBreaks indent since fuel { breaks with chars := breaks.chars ++ chars, last := cursor.mark }
        cursor
    else .ok (breaks, cursor)

/-- What was read of a block: its text, the break behind it and the blank lines after that. -/
structure Block where
  text : List Char
  ending : List Char
  breaks : Breaks
  blank : Bool

/-- Lines of a block. In a folded block a break between two lines that begin with no blank becomes
one blank. -/
def blockLines (literal : Bool) (indent : Nat) (since : Mark) :
    Nat → Block → Cursor → Except Fault (Block × Cursor)
  | 0, block, cursor => .ok (block, cursor)
  | fuel + 1, block, cursor =>
    if cursor.mark.column != indent || cursor.atEnd then .ok (block, cursor)
    else do
      let blank := cursor.atBlank
      let folds := !literal && block.ending.head? == some '\n' && !block.blank && !blank
      let between :=
        if folds then (if block.breaks.chars.isEmpty then [' '] else block.breaks.chars)
        else block.ending ++ block.breaks.chars
      let (line, cursor) := cursor.takeWhile (!isBreak ·)
      let (ending, cursor) := cursor.readBreak
      let (breaks, cursor) ←
        blockBreaks indent since (cursor.rest.length + 1) ⟨[], 0, cursor.mark⟩ cursor
      blockLines literal indent since fuel ⟨block.text ++ between ++ line, ending, breaks, blank⟩
        cursor

def blockScalar (cursor : Cursor) (literal : Bool) (outer : Int) :
    Except Fault (Token × Cursor) := do
  let first := cursor.mark
  let (chomping, increment, cursor) ← cursor.skip.blockHeader first
  let cursor := (cursor.skipWhile isBlank).skipComment
  if !cursor.atBreakOrEnd then
    cursor.fail "while scanning a block scalar" first "did not find expected comment or line break"
  else
    let cursor := cursor.skipBreak
    let given := if increment = 0 then 0 else (max outer 0).toNat + increment
    let (breaks, cursor) ←
      blockBreaks given first (cursor.rest.length + 1) ⟨[], 0, cursor.mark⟩ cursor
    let indent := if given = 0 then max (max breaks.deepest (outer + 1).toNat) 1 else given
    let (block, cursor) ←
      blockLines literal indent first (cursor.rest.length + 1) ⟨[], [], breaks, false⟩ cursor
    let tail := match chomping with
      | .strip => []
      | .clip => block.ending
      | .keep => block.ending ++ block.breaks.chars
    let style := if literal then Style.literal else .folded
    return (⟨.scalar (String.ofList (block.text ++ tail)) style, first, block.breaks.last⟩, cursor)

end FluentAssert.Yaml.Cursor
