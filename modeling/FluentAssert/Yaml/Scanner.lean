import FluentAssert.Yaml.Scalar

/-! The stream of tokens. Indentation opens and closes blocks; what may turn out to be a key is
noted, and when a colon follows the key token is put in front of it. A token is ready only when no
key can still be put before it. -/
namespace FluentAssert.Yaml

/-- A token that may turn out to be a key. -/
structure PossibleKey where
  /-- It stands where nothing but a key can stand. -/
  required : Bool
  number : Nat
  mark : Mark

structure Scanner where
  cursor : Cursor
  /-- Tokens that were read and not taken, the next one first. -/
  tokens : List Token := []
  /-- How many tokens were taken. -/
  taken : Nat := 0
  ended : Bool := false
  /-- Column of the current block, or -1 outside of blocks. -/
  indent : Int := -1
  outer : List Int := []
  /-- A key may begin here. -/
  keyAllowed : Bool := true
  key : Option PossibleKey := none
  /-- The possible keys of the levels around it. The levels are those of flow collections. -/
  keys : List (Option PossibleKey) := []

namespace Scanner

def start (text : List Char) : Scanner := { cursor := ⟨text, .start⟩ }

def inFlow (s : Scanner) : Bool := !s.keys.isEmpty

def push (s : Scanner) (kind : TokenKind) (first last : Mark) : Scanner :=
  { s with tokens := s.tokens ++ [⟨kind, first, last⟩] }

/-- Puts a token before the one that had `number` tokens before it. -/
def insertAt (s : Scanner) (number : Nat) (kind : TokenKind) (mark : Mark) : Scanner :=
  let i := number - s.taken
  { s with tokens := s.tokens.take i ++ ⟨kind, mark, mark⟩ :: s.tokens.drop i }

def missingColon (s : Scanner) (key : PossibleKey) : Fault :=
  { problem := "could not find expected ':'", mark := s.cursor.mark,
    context := some ("while scanning a simple key", key.mark) }

/-- A key lies on one line and is not longer than this. -/
def longestKey : Nat := 1024

def isStale (s : Scanner) (key : PossibleKey) : Bool :=
  key.mark.line < s.cursor.mark.line || key.mark.index + longestKey < s.cursor.mark.index

def dropStale (s : Scanner) : Option PossibleKey → Except Fault (Option PossibleKey)
  | none => .ok none
  | some key =>
    if s.isStale key then (if key.required then .error (s.missingColon key) else .ok none)
    else .ok (some key)

def dropStaleKeys (s : Scanner) : Except Fault Scanner := do
  let keys ← s.keys.reverse.mapM s.dropStale
  let key ← s.dropStale s.key
  return { s with key, keys := keys.reverse }

/-- Forgets the possible key of this level, which must not be required. -/
def removeKey (s : Scanner) : Except Fault Scanner :=
  match s.key with
  | none => .ok s
  | some key => if key.required then .error (s.missingColon key) else .ok { s with key := none }

def saveKey (s : Scanner) : Except Fault Scanner :=
  if !s.keyAllowed then .ok s
  else do
    let s ← s.removeKey
    let required := !s.inFlow && s.indent == (s.cursor.mark.column : Int)
    return { s with key := some ⟨required, s.taken + s.tokens.length, s.cursor.mark⟩ }

/-- Opens a block if the column is further to the right than the current one. -/
def openBlock (s : Scanner) (column : Nat) (number : Option Nat) (kind : TokenKind) (mark : Mark) :
    Scanner :=
  if s.inFlow || (column : Int) ≤ s.indent then s
  else
    let s := { s with outer := s.indent :: s.outer, indent := column }
    match number with
    | some number => s.insertAt number kind mark
    | none => s.push kind mark mark

/-- Closes the blocks that are further to the right than `column`. -/
def closeBlocks (column : Int) : List Int → Scanner → Scanner
  | [], s => s
  | outer :: rest, s =>
    if column < s.indent then
      closeBlocks column rest
        { s.push .blockEnd s.cursor.mark s.cursor.mark with indent := outer, outer := rest }
    else s

def unroll (s : Scanner) (column : Int) : Scanner :=
  if s.inFlow then s else closeBlocks column s.outer s

def sign (s : Scanner) (kind : TokenKind) (size : Nat) : Scanner :=
  let cursor := s.cursor.skipMany size
  { s.push kind s.cursor.mark cursor.mark with cursor }

def lexeme (s : Scanner) (read : Cursor → Except Fault (Token × Cursor)) : Except Fault Scanner := do
  let (token, cursor) ← read s.cursor
  return { s with cursor, tokens := s.tokens ++ [token] }

def fetchEnd (s : Scanner) : Except Fault Scanner := do
  let mark := s.cursor.mark
  let mark := if mark.column = 0 then mark else { mark with line := mark.line + 1, column := 0 }
  let s := { s with cursor := { s.cursor with mark } }
  let s ← (s.unroll (-1)).removeKey
  return { s.push .streamEnd mark mark with keyAllowed := false, ended := true }

def fetchDirective (s : Scanner) : Except Fault Scanner := do
  let s ← (s.unroll (-1)).removeKey
  { s with keyAllowed := false }.lexeme Cursor.directive

def fetchIndicator (s : Scanner) (kind : TokenKind) : Except Fault Scanner := do
  let s ← (s.unroll (-1)).removeKey
  return { s with keyAllowed := false }.sign kind 3

def fetchFlowStart (s : Scanner) (kind : TokenKind) : Except Fault Scanner := do
  let s ← s.saveKey
  return { s with keys := s.key :: s.keys, key := none, keyAllowed := true }.sign kind 1

def fetchFlowEnd (s : Scanner) (kind : TokenKind) : Except Fault Scanner := do
  let s ← s.removeKey
  let s := match s.keys with
    | [] => s
    | key :: keys => { s with key, keys }
  return { s with keyAllowed := false }.sign kind 1

def fetchFlowEntry (s : Scanner) : Except Fault Scanner := do
  let s ← s.removeKey
  return { s with keyAllowed := true }.sign .flowEntry 1

/-- A sign that opens a block needs a place where a key may begin. -/
def openedBy (s : Scanner) (kind : TokenKind) (problem : String) : Except Fault Scanner :=
  if s.inFlow then .ok s
  else if !s.keyAllowed then s.cursor.refuse problem
  else .ok (s.openBlock s.cursor.mark.column none kind s.cursor.mark)

def fetchBlockEntry (s : Scanner) : Except Fault Scanner := do
  let s ← s.openedBy .blockSequenceStart "block sequence entries are not allowed in this context"
  let s ← s.removeKey
  return { s with keyAllowed := true }.sign .blockEntry 1

def fetchKey (s : Scanner) : Except Fault Scanner := do
  let s ← s.openedBy .blockMappingStart "mapping keys are not allowed in this context"
  let s ← s.removeKey
  return { s with keyAllowed := !s.inFlow }.sign .key 1

def fetchValue (s : Scanner) : Except Fault Scanner := do
  match s.key with
  | some key =>
    let s := s.insertAt key.number .key key.mark
    let s := s.openBlock key.mark.column (some key.number) .blockMappingStart key.mark
    return { s with key := none, keyAllowed := false }.sign .value 1
  | none =>
    let s ← s.openedBy .blockMappingStart "mapping values are not allowed in this context"
    return { s with keyAllowed := !s.inFlow }.sign .value 1

def fetchKeyLike (s : Scanner) (read : Cursor → Except Fault (Token × Cursor)) :
    Except Fault Scanner := do
  let s ← s.saveKey
  { s with keyAllowed := false }.lexeme read

def fetchBlockScalar (s : Scanner) (literal : Bool) : Except Fault Scanner := do
  let s ← s.removeKey
  { s with keyAllowed := true }.lexeme fun cursor => cursor.blockScalar literal s.indent

def fetchPlain (s : Scanner) : Except Fault Scanner := do
  let s ← s.saveKey
  let (token, broken, cursor) ← s.cursor.plainScalar s.inFlow s.indent
  return { s with cursor, tokens := s.tokens ++ [token], keyAllowed := broken }

def signs : List Char :=
  ['-', '?', ':', ',', '[', ']', '\x7b', '\x7d', '#', '&', '*', '!', '|', '>', '\'', '"', '%', '@',
   '\x60']

/-- Some signs begin a plain scalar if no gap follows. -/
def beginsPlain (s : Scanner) (c : Char) : Bool :=
  !(isBlank c || signs.contains c) || (c == '-' && !s.cursor.ahead 1 isBlank) ||
    (!s.inFlow && (c == '?' || c == ':') && !s.cursor.gapAhead 1)

def fetchToken (s : Scanner) (c : Char) : Except Fault Scanner :=
  let gap := s.cursor.gapAhead 1
  if s.cursor.mark.column == 0 && c == '%' then s.fetchDirective
  else if s.cursor.atIndicator '-' then s.fetchIndicator .documentStart
  else if s.cursor.atIndicator '.' then s.fetchIndicator .documentEnd
  else if c == '[' then s.fetchFlowStart .flowSequenceStart
  else if c == '\x7b' then s.fetchFlowStart .flowMappingStart
  else if c == ']' then s.fetchFlowEnd .flowSequenceEnd
  else if c == '\x7d' then s.fetchFlowEnd .flowMappingEnd
  else if c == ',' then s.fetchFlowEntry
  else if c == '-' && gap then s.fetchBlockEntry
  else if c == '?' && (s.inFlow || gap) then s.fetchKey
  else if c == ':' && (s.inFlow || gap) then s.fetchValue
  else if c == '*' then s.fetchKeyLike fun cursor => cursor.name true
  else if c == '&' then s.fetchKeyLike fun cursor => cursor.name false
  else if c == '!' then s.fetchKeyLike fun cursor => cursor.tag s.inFlow
  else if c == '|' && !s.inFlow then s.fetchBlockScalar true
  else if c == '>' && !s.inFlow then s.fetchBlockScalar false
  else if c == '\'' then s.fetchKeyLike fun cursor => cursor.quotedScalar true
  else if c == '"' then s.fetchKeyLike fun cursor => cursor.quotedScalar false
  else if s.beginsPlain c then s.fetchPlain
  else
    s.cursor.fail "while scanning for the next token" s.cursor.mark
      "found character that cannot start any token"

/-- Passes over blanks, comments and line ends. Tabs are blanks only where no key may begin; a new
line outside of flow collections may begin with a key. -/
def skipGap : Nat → Scanner → Scanner
  | 0, s => s
  | fuel + 1, s =>
    let cursor := s.cursor
    let cursor :=
      if cursor.mark.column == 0 && cursor.ahead 0 isOrderMark then cursor.skip else cursor
    let isGap := fun (c : Char) => c == ' ' || (c == '\t' && (s.inFlow || !s.keyAllowed))
    let cursor := (cursor.skipWhile isGap).skipComment
    if cursor.atBreak then
      skipGap fuel { s with cursor := cursor.skipBreak, keyAllowed := s.keyAllowed || !s.inFlow }
    else { s with cursor }

/-- Reads one more token, and those that indentation puts before it. -/
def fetch (s : Scanner) : Except Fault Scanner := do
  let s := skipGap (s.cursor.rest.length + 1) s
  let s ← s.dropStaleKeys
  let s := s.unroll s.cursor.mark.column
  match s.cursor.rest with
  | [] => s.fetchEnd
  | c :: _ => s.fetchToken c

def isWaiting (s : Scanner) : Bool :=
  (s.key :: s.keys).any fun key => key.any fun key => key.number == s.taken

/-- Reads on until the next token is ready. Every turn reads a character or the end. -/
def prepare : Nat → Scanner → Except Fault Scanner
  | 0, s => .ok s
  | fuel + 1, s =>
    if s.tokens.isEmpty then
      if s.ended then .ok s else do prepare fuel (← s.fetch)
    else do
      let s ← s.dropStaleKeys
      if s.isWaiting then prepare fuel (← s.fetch) else return s

def peek (s : Scanner) : Except Fault (Token × Scanner) := do
  let s ← prepare (s.cursor.rest.length + 3) s
  match s.tokens with
  | token :: _ => return (token, s)
  | [] => return (⟨.streamEnd, s.cursor.mark, s.cursor.mark⟩, s)

def take (s : Scanner) : Scanner := { s with tokens := s.tokens.drop 1, taken := s.taken + 1 }

end Scanner
end FluentAssert.Yaml
