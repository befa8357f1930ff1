import FluentAssert.Message.Settings
import FluentAssert.Yaml.Value

/-! Settings written as a document: a mapping from names to values, of which none is needed and
unknown ones are passed over. The reading goes part by part, so of two problems the first one
counts. -/
namespace FluentAssert

open FluentAssert.Yaml

namespace Settings

inductive Field where
  | colors | showDiff | showTestName | showPath | truncateAt
  deriving DecidableEq, Repr

namespace Field

def all : List Field := [colors, showDiff, showTestName, showPath, truncateAt]

def name : Field → String
  | colors => "colors_enabled"
  | showDiff => "show_diff"
  | showTestName => "show_test_name"
  | showPath => "show_path"
  | truncateAt => "truncate_at"

def ofName? (name : String) : Option Field := all.find? (·.name == name)

end Field

inductive Refusal where
  | content (found : Content) (wanted : String)
  | duplicate (field : Field)
  deriving DecidableEq, Repr

def Refusal.text : Refusal → String
  | .content found wanted => found.refusal wanted
  | .duplicate field => "duplicate field " ++ tick field.name

inductive DocumentError where
  | fault (fault : Fault)
  /-- Something is refused: at which path, if it is not the whole, and at which place. -/
  | refused (refusal : Refusal) (path : Option String) (mark : Mark)
  | unfinished
  | severalDocuments
  deriving DecidableEq, Repr

def DocumentError.message : DocumentError → String
  | .fault found => found.message
  | .refused refusal path mark =>
    (match path with
      | some path => path ++ ": "
      | none => "") ++ refusal.text ++ mark.suffix
  | .unfinished => "EOF while parsing a value"
  | .severalDocuments => "deserializing from YAML containing more than one document is not supported"

def setNumber (settings : Settings) (content : Content) : Except Refusal Settings :=
  match (content.typedText? "int").bind word? with
  | some n => .ok { settings with truncateAt := n }
  | none => .error (.content content "usize")

def setFlag (content : Content) (set : Bool → Settings) : Except Refusal Settings :=
  match (content.typedText? "bool").bind bool? with
  | some b => .ok (set b)
  | none => .error (.content content "a boolean")

def set (settings : Settings) (field : Field) (content : Content) : Except Refusal Settings :=
  match field with
  | .colors => setFlag content fun b => { settings with colors := b }
  | .showDiff => setFlag content fun b => { settings with showDiff := b }
  | .showTestName => setFlag content fun b => { settings with showTestName := b }
  | .showPath => setFlag content fun b => { settings with showPath := b }
  | .truncateAt => settings.setNumber content

inductive Phase where
  | root
  | key
  | value (field : Field) (path : String)
  /-- Part of a value that is passed over, inside so many collections. -/
  | passing (depth : Nat)
  | done
  deriving DecidableEq, Repr

structure Progress where
  settings : Settings := {}
  given : List Field := []
  phase : Phase := .root
  first : Mark := .start

namespace Progress

def isEmptyScalar : Content → Bool
  | .scalar _ text .plain => text.isEmpty
  | _ => false

def root (p : Progress) (head : Head) : Except DocumentError Progress :=
  if head.content = .mapping then .ok { p with phase := .key, first := head.mark }
  else if isEmptyScalar head.content then .ok { p with phase := .done }
  else .error (.refused (.content head.content "struct FormatterConfig") none head.mark)

/-- A key with the path that errors show for its value. -/
def key (p : Progress) (head : Head) (isAlias : Bool) : Except DocumentError Progress :=
  match head.content with
  | .scalar _ text _ =>
    match Field.ofName? text with
    | none => .ok { p with phase := .passing 0 }
    | some field =>
      if p.given.contains field then .error (.refused (.duplicate field) none p.first)
      else .ok { p with given := field :: p.given
                        phase := .value field (if isAlias then "?" else text) }
  | content => .error (.refused (.content content "field identifier") none head.mark)

def value (p : Progress) (field : Field) (path : String) (head : Head) :
    Except DocumentError Progress :=
  match p.settings.set field head.content with
  | .ok settings => .ok { p with settings, phase := .key }
  | .error refusal => .error (.refused refusal (some path) head.mark)

def passed (p : Progress) (depth : Nat) : Progress :=
  { p with phase := if depth = 0 then .key else .passing depth }

def pass (p : Progress) (depth : Nat) : Part → Progress
  | .again _ => p.passed depth
  | .close => p.passed (depth - 1)
  | .node head =>
    match head.content with
    | .scalar .. => p.passed depth
    | .sequence | .mapping => { p with phase := .passing (depth + 1) }

def step (p : Progress) (part : Part) : Except DocumentError Progress :=
  match p.phase, part with
  | .root, .node head => p.root head
  | .key, .node head => p.key head false
  | .key, .again head => p.key head true
  | .key, .close => .ok { p with phase := .done }
  | .value field path, .node head | .value field path, .again head => p.value field path head
  | .passing depth, part => .ok (p.pass depth part)
  | _, _ => .ok p

end Progress

/-- Settings in a document. A document that ends early holds none, nor does one of several. -/
def ofDocument (document : Document) : Except DocumentError Settings :=
  match document.parts, document.fault with
  | [], none => .ok {}
  | parts, fault => do
    let progress ← parts.foldlM Progress.step {}
    match fault with
    | some fault => throw (.fault fault)
    | none =>
      if progress.phase ≠ .done then throw .unfinished
      else if document.isFollowed then throw .severalDocuments
      else return progress.settings

def parse (text : String) : Except DocumentError Settings := ofDocument (.read text.toList)

end Settings
end FluentAssert
