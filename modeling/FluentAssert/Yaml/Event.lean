import FluentAssert.Yaml.Scanner

/-! The stream of events: documents and the nodes in them, in the order in which they begin and end.
A reader is a stack of what it has to do next. -/
namespace FluentAssert.Yaml

structure Properties where
  anchor : Option String := none
  tag : Option String := none
  deriving DecidableEq, Repr

inductive EventKind where
  | documentStart | documentEnd | streamEnd
  | alias (name : String)
  | scalar (properties : Properties) (text : String) (style : Style)
  | sequenceStart (properties : Properties)
  | sequenceEnd
  | mappingStart (properties : Properties)
  | mappingEnd
  deriving DecidableEq, Repr

structure Event where
  kind : EventKind
  mark : Mark
  deriving DecidableEq, Repr

/-- What a reader does next. Collections keep the place where they began. -/
inductive Step where
  | firstDocument | nextDocument | documentContent | documentEnd
  | blockNode
  | blockEntry (first : Bool) (since : Mark)
  | indentlessEntry
  | blockKey (first : Bool) (since : Mark)
  | blockValue (since : Mark)
  | flowEntry (first : Bool) (since : Mark)
  | flowPairKey (since : Mark)
  | flowPairValue (since : Mark)
  | flowPairEnd (since : Mark)
  | flowKey (first : Bool) (since : Mark)
  | flowValue (since : Mark)
  | flowNoValue (since : Mark)
  deriving DecidableEq, Repr

structure Reader where
  scanner : Scanner
  steps : List Step := [.firstDocument]
  /-- Handles of tags with what they stand for. -/
  handles : List (String × String) := []

namespace Reader

def start (text : List Char) : Reader := { scanner := .start text }

abbrev Result := Except Fault (Event × Reader)

def peek (r : Reader) : Except Fault (Token × Reader) := do
  let (token, scanner) ← r.scanner.peek
  return (token, { r with scanner })

def take (r : Reader) : Reader := { r with scanner := r.scanner.take }

def goOn (r : Reader) (steps : List Step) : Reader := { r with steps }

def emit (r : Reader) (kind : EventKind) (mark : Mark) : Result := .ok (⟨kind, mark⟩, r)

/-- A node that was left out is an empty plain scalar. -/
def emptyScalar (r : Reader) (mark : Mark) : Result := r.emit (.scalar {} "" .plain) mark

def fault {α : Type} (context : String) (since : Mark) (problem : String) (mark : Mark) :
    Except Fault α :=
  .error { problem, mark, context := some (context, since) }

def resolveTag (r : Reader) (handle suffix : String) (since mark : Mark) : Except Fault String :=
  if handle.isEmpty then .ok suffix
  else match r.handles.lookup handle with
    | some start => .ok (start ++ suffix)
    | none => fault "while parsing a node" since "found undefined tag handle" mark

/-- Anchor and tag in front of a node, in either order, and the place where they begin. -/
structure Front where
  anchor : Option String := none
  tag : Option (String × String × Mark) := none
  first : Mark

def readAnchor (front : Front) (token : Token) (r : Reader) :
    Except Fault (Front × Token × Reader) := do
  match token.kind with
  | .anchor name =>
    let (next, r) ← r.take.peek
    return ({ front with anchor := some name }, next, r)
  | _ => return (front, token, r)

def readTag (front : Front) (token : Token) (r : Reader) :
    Except Fault (Front × Token × Reader) := do
  match token.kind with
  | .tag handle suffix =>
    let (next, r) ← r.take.peek
    return ({ front with tag := some (handle, suffix, token.first) }, next, r)
  | _ => return (front, token, r)

def readFront (token : Token) (r : Reader) : Except Fault (Front × Token × Reader) := do
  match token.kind with
  | .anchor _ =>
    let (front, token, r) ← readAnchor { first := token.first } token r
    readTag front token r
  | _ =>
    let (front, token, r) ← readTag { first := token.first } token r
    if front.tag.isSome then readAnchor front token r else return (front, token, r)

def properties (r : Reader) (front : Front) : Except Fault Properties :=
  match front.tag with
  | none => .ok ⟨front.anchor, none⟩
  | some (handle, suffix, mark) => do
    return ⟨front.anchor, some (← r.resolveTag handle suffix front.first mark)⟩

/-- Reads a node, or its beginning if it is a collection, and then goes on with `rest`. -/
def node (r : Reader) (rest : List Step) (block indentless : Bool) : Result := do
  let (token, r) ← r.peek
  match token.kind with
  | .alias name => (r.take.goOn rest).emit (.alias name) token.first
  | _ =>
    let (front, token, r) ← readFront token r
    let properties ← r.properties front
    let first := front.first
    let opened (step : Step) (kind : EventKind) : Result := (r.goOn (step :: rest)).emit kind first
    match token.kind, block with
    | .scalar text style, _ => (r.take.goOn rest).emit (.scalar properties text style) first
    | .flowSequenceStart, _ => opened (.flowEntry true token.first) (.sequenceStart properties)
    | .flowMappingStart, _ => opened (.flowKey true token.first) (.mappingStart properties)
    | .blockSequenceStart, true => opened (.blockEntry true token.first) (.sequenceStart properties)
    | .blockMappingStart, true => opened (.blockKey true token.first) (.mappingStart properties)
    | kind, _ =>
      if indentless && kind = .blockEntry then opened .indentlessEntry (.sequenceStart properties)
      else if front.anchor.isSome || front.tag.isSome then
        (r.goOn rest).emit (.scalar properties "" .plain) first
      else
        fault (if block then "while parsing a block node" else "while parsing a flow node") first
          "did not find expected node content" token.first

/-- Reads a node unless a token follows that begins none. -/
def nodeUnless (r : Reader) (ends : List TokenKind) (step : Step) (rest : List Step)
    (block indentless : Bool) (mark : Mark) : Result := do
  let (token, r) ← r.peek
  if ends.contains token.kind then (r.goOn (step :: rest)).emptyScalar mark
  else r.node (step :: rest) block indentless

def blockEntry (r : Reader) (rest : List Step) (since : Mark) : Result := do
  let (token, r) ← r.peek
  match token.kind with
  | .blockEntry =>
    r.take.nodeUnless [.blockEntry, .blockEnd] (.blockEntry false since) rest true false token.last
  | .blockEnd => (r.take.goOn rest).emit .sequenceEnd token.first
  | _ =>
    fault "while parsing a block collection" since "did not find expected '-' indicator"
      token.first

/-- An entry of a sequence that is no further to the right than the key it belongs to. -/
def indentlessEntry (r : Reader) (rest : List Step) : Result := do
  let (token, r) ← r.peek
  match token.kind with
  | .blockEntry =>
    r.take.nodeUnless [.blockEntry, .key, .value, .blockEnd] .indentlessEntry rest true false
      token.last
  | _ => (r.goOn rest).emit .sequenceEnd token.first

def blockKey (r : Reader) (rest : List Step) (since : Mark) : Result := do
  let (token, r) ← r.peek
  match token.kind with
  | .key =>
    r.take.nodeUnless [.key, .value, .blockEnd] (.blockValue since) rest true true token.last
  | .blockEnd => (r.take.goOn rest).emit .mappingEnd token.first
  | _ => fault "while parsing a block mapping" since "did not find expected key" token.first

def blockValue (r : Reader) (rest : List Step) (since : Mark) : Result := do
  let (token, r) ← r.peek
  match token.kind with
  | .value =>
    r.take.nodeUnless [.key, .value, .blockEnd] (.blockKey false since) rest true true token.last
  | _ => (r.goOn (.blockKey false since :: rest)).emptyScalar token.first

/-- The token after the comma that must follow every entry but the first. -/
def afterComma (r : Reader) (first : Bool) (token : Token) (context : String) (since : Mark)
    (problem : String) : Except Fault (Token × Reader) :=
  if first then .ok (token, r)
  else if token.kind = .flowEntry then r.take.peek
  else fault context since problem token.first

def flowEntry (r : Reader) (rest : List Step) (first : Bool) (since : Mark) : Result := do
  let (token, r) ← r.peek
  if token.kind = .flowSequenceEnd then (r.take.goOn rest).emit .sequenceEnd token.first
  else
    let (token, r) ← r.afterComma first token "while parsing a flow sequence" since
      "did not find expected ',' or ']'"
    match token.kind with
    | .flowSequenceEnd => (r.take.goOn rest).emit .sequenceEnd token.first
    | .key => (r.take.goOn (.flowPairKey since :: rest)).emit (.mappingStart {}) token.first
    | _ => r.node (.flowEntry false since :: rest) false false

def flowPairKey (r : Reader) (rest : List Step) (since : Mark) : Result := do
  let (token, r) ← r.peek
  let ends : List TokenKind := [.value, .flowEntry, .flowSequenceEnd]
  if ends.contains token.kind then
    (r.take.goOn (.flowPairValue since :: rest)).emptyScalar token.last
  else r.node (.flowPairValue since :: rest) false false

def flowValueOr (r : Reader) (ends : List TokenKind) (rest : List Step) : Result := do
  let (token, r) ← r.peek
  if token.kind = .value then
    let (token, r) ← r.take.peek
    if ends.contains token.kind then (r.goOn rest).emptyScalar token.first
    else r.node rest false false
  else (r.goOn rest).emptyScalar token.first

def flowKey (r : Reader) (rest : List Step) (first : Bool) (since : Mark) : Result := do
  let (token, r) ← r.peek
  if token.kind = .flowMappingEnd then (r.take.goOn rest).emit .mappingEnd token.first
  else
    let (token, r) ← r.afterComma first token "while parsing a flow mapping" since
      "did not find expected ',' or '\x7d'"
    match token.kind with
    | .flowMappingEnd => (r.take.goOn rest).emit .mappingEnd token.first
    | .key =>
      let (token, r) ← r.take.peek
      let ends : List TokenKind := [.value, .flowEntry, .flowMappingEnd]
      if ends.contains token.kind then
        (r.goOn (.flowValue since :: rest)).emptyScalar token.first
      else r.node (.flowValue since :: rest) false false
    | _ => r.node (.flowNoValue since :: rest) false false

def standardHandles : List (String × String) := [("!", "!"), ("!!", "tag:yaml.org,2002:")]

def directives : Nat → (versionSeen : Bool) → List (String × String) → Token → Reader →
    Except Fault (List (String × String) × Token × Reader)
  | 0, _, handles, token, r => .ok (handles, token, r)
  | fuel + 1, versionSeen, handles, token, r => do
    match token.kind with
    | .versionDirective major minor =>
      if versionSeen then throw { problem := "found duplicate %YAML directive", mark := token.first }
      if major ≠ 1 ∨ (minor ≠ 1 ∧ minor ≠ 2) then
        throw { problem := "found incompatible YAML document", mark := token.first }
      let (next, r) ← r.take.peek
      directives fuel true handles next r
    | .tagDirective handle start =>
      if (handles.lookup handle).isSome then
        throw { problem := "found duplicate %TAG directive", mark := token.first }
      let (next, r) ← r.take.peek
      directives fuel versionSeen (handles ++ [(handle, start)]) next r
    | _ => return (handles, token, r)

def skipEnds : Nat → Token → Reader → Except Fault (Token × Reader)
  | 0, token, r => .ok (token, r)
  | fuel + 1, token, r =>
    if token.kind = .documentEnd then do
      let (next, r) ← r.take.peek
      skipEnds fuel next r
    else .ok (token, r)

def explicitDocument (r : Reader) (token : Token) : Result := do
  let first := token.first
  let (handles, token, r) ← directives (r.scanner.cursor.rest.length + 2) false [] token r
  if token.kind ≠ .documentStart then
    throw { problem := "did not find expected <document start>", mark := token.first }
  let r := { r.take with handles := handles ++ standardHandles }
  (r.goOn [.documentContent, .documentEnd]).emit .documentStart first

def nextDocument (r : Reader) : Result := do
  let (token, r) ← r.peek
  let (token, r) ← skipEnds (r.scanner.cursor.rest.length + 2) token r
  if token.kind = .streamEnd then (r.take.goOn []).emit .streamEnd token.first
  else r.explicitDocument token

def firstDocument (r : Reader) : Result := do
  let (token, r) ← r.peek
  match token.kind with
  | .streamEnd => (r.take.goOn []).emit .streamEnd token.first
  | .versionDirective .. | .tagDirective .. | .documentStart => r.explicitDocument token
  | _ =>
    ({ r with handles := standardHandles }.goOn [.blockNode, .documentEnd]).emit .documentStart
      token.first

def documentContent (r : Reader) (rest : List Step) : Result := do
  let (token, r) ← r.peek
  match token.kind with
  | .versionDirective .. | .tagDirective .. | .documentStart | .documentEnd | .streamEnd =>
    (r.goOn rest).emptyScalar token.first
  | _ => r.node rest true false

def documentEnd (r : Reader) : Result := do
  let (token, r) ← r.peek
  let r := if token.kind = .documentEnd then r.take else r
  (r.goOn [.nextDocument]).emit .documentEnd token.first

def next (r : Reader) : Result :=
  match r.steps with
  | [] => r.emit .streamEnd r.scanner.cursor.mark
  | step :: rest =>
    match step with
    | .firstDocument => r.firstDocument
    | .nextDocument => r.nextDocument
    | .documentContent => r.documentContent rest
    | .documentEnd => r.documentEnd
    | .blockNode => r.node rest true false
    | .blockEntry first since => do
      let (_, r) ← r.peek
      (if first then r.take else r).blockEntry rest since
    | .indentlessEntry => r.indentlessEntry rest
    | .blockKey first since => do
      let (_, r) ← r.peek
      (if first then r.take else r).blockKey rest since
    | .blockValue since => r.blockValue rest since
    | .flowEntry first since => do
      let (_, r) ← r.peek
      (if first then r.take else r).flowEntry rest first since
    | .flowPairKey since => r.flowPairKey rest since
    | .flowPairValue since =>
      r.flowValueOr [.flowEntry, .flowSequenceEnd] (.flowPairEnd since :: rest)
    | .flowPairEnd since => do
      let (token, r) ← r.peek
      (r.goOn (.flowEntry false since :: rest)).emit .mappingEnd token.first
    | .flowKey first since => do
      let (_, r) ← r.peek
      (if first then r.take else r).flowKey rest first since
    | .flowValue since => r.flowValueOr [.flowEntry, .flowMappingEnd] (.flowKey false since :: rest)
    | .flowNoValue since => do
      let (token, r) ← r.peek
      (r.goOn (.flowKey false since :: rest)).emptyScalar token.first

end Reader
end FluentAssert.Yaml
