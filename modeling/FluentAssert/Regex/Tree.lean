import FluentAssert.Regex.Fault

/-! Patterns as they are written, each part with its place. -/
namespace FluentAssert.Regex

/-- A single character. `isByte` tells that two hexadecimal digits stand for it. -/
structure Literal where
  span : Span
  char : Char
  isByte : Bool
  deriving DecidableEq, Repr

inductive AsciiClass where
  | alnum | alpha | ascii | blank | cntrl | digit | graph | lower | print | punct | space | upper
  | word | xdigit
  deriving DecidableEq, Repr

inductive Shorthand where
  | digit | space | word
  deriving DecidableEq, Repr

inductive PropertyName where
  | alone (name : String)
  | withValue (name value : String)
  deriving DecidableEq, Repr

inductive SetOp where
  | inter | diff | symmDiff
  deriving DecidableEq, Repr

inductive SetTree where
  | empty (span : Span)
  | literal (l : Literal)
  | range (low high : Literal)
  | ascii (span : Span) (negated : Bool) (kind : AsciiClass)
  | shorthand (span : Span) (negated : Bool) (kind : Shorthand)
  | property (span : Span) (negated : Bool) (name : PropertyName)
  | bracket (span : Span) (negated : Bool) (body : SetTree)
  | union (span : Span) (items : List SetTree)
  | binary (span : Span) (op : SetOp) (left right : SetTree)
  deriving Repr, Inhabited

def SetTree.span : SetTree → Span
  | empty span | ascii span .. | shorthand span .. | property span .. | bracket span ..
  | union span _ | binary span .. => span
  | literal l => l.span
  | range low high => ⟨low.span.first, high.span.last⟩

inductive Flag where
  | ignoreCase | multiLine | dotAll | swapGreed | unicode | crlf | verbose
  deriving DecidableEq, Repr

/-- A flag that is set or cleared, or the sign that the flags after it are cleared. -/
inductive FlagItem where
  | negation
  | flag (f : Flag)
  deriving DecidableEq, Repr

/-- Flags with the sign in front of them: set ones and cleared ones, in order. -/
def FlagItem.settings (cleared : Bool) : List FlagItem → List (Flag × Bool)
  | [] => []
  | negation :: rest => settings true rest
  | flag f :: rest => (f, !cleared) :: settings cleared rest

inductive Assertion where
  | lineStart | lineEnd | textStart | textEnd | boundary | noBoundary
  | wordStart | wordEnd | wordStartHalf | wordEndHalf
  deriving DecidableEq, Repr

inductive GroupKind where
  | capture (index : Nat) (name : Option String)
  | plain (settings : List (Flag × Bool))
  deriving DecidableEq, Repr

inductive Tree where
  | empty
  | flags (span : Span) (settings : List (Flag × Bool))
  | literal (l : Literal)
  | dot (span : Span)
  | assertion (span : Span) (kind : Assertion)
  | shorthand (span : Span) (negated : Bool) (kind : Shorthand)
  | property (span : Span) (negated : Bool) (name : PropertyName)
  | bracket (span : Span) (negated : Bool) (body : SetTree)
  | repetition (span : Span) (min : Nat) (max : Option Nat) (greedy : Bool) (body : Tree)
  | group (span : Span) (kind : GroupKind) (body : Tree)
  | alternation (span : Span) (branches : List Tree)
  | concat (span : Span) (items : List Tree)
  deriving Repr, Inhabited

namespace Tree

def span : Tree → Span
  | empty => default
  | flags span _ | dot span | assertion span _ | shorthand span .. | property span ..
  | bracket span .. | repetition span .. | group span .. | alternation span _ | concat span _ =>
    span
  | literal l => l.span

def isRepeatable : Tree → Bool
  | empty | flags .. => false
  | _ => true

def ofItems (span : Span) : List Tree → Tree
  | [] => empty
  | [item] => item
  | items => concat span items

end Tree

def descend (limit depth : Nat) (span : Span) : Except Fault Nat :=
  if depth < limit then .ok (depth + 1) else .error { problem := .nestLimitExceeded limit, span }

mutual

def SetTree.checkDepth (limit depth : Nat) : SetTree → Except Fault Unit
  | .bracket span _ body => do body.checkDepth limit (← descend limit depth span)
  | .union span items => do checkDepths limit (← descend limit depth span) items
  | .binary span _ left right => do
    let depth ← descend limit depth span
    left.checkDepth limit depth
    right.checkDepth limit depth
  | _ => .ok ()

def SetTree.checkDepths (limit depth : Nat) : List SetTree → Except Fault Unit
  | [] => .ok ()
  | item :: rest => do
    item.checkDepth limit depth
    checkDepths limit depth rest

end

mutual

def Tree.checkDepth (limit depth : Nat) : Tree → Except Fault Unit
  | .bracket span _ body => do body.checkDepth limit (← descend limit depth span)
  | .repetition span _ _ _ body => do body.checkDepth limit (← descend limit depth span)
  | .group span _ body => do body.checkDepth limit (← descend limit depth span)
  | .alternation span branches => do checkDepths limit (← descend limit depth span) branches
  | .concat span items => do checkDepths limit (← descend limit depth span) items
  | _ => .ok ()

def Tree.checkDepths (limit depth : Nat) : List Tree → Except Fault Unit
  | [] => .ok ()
  | item :: rest => do
    item.checkDepth limit depth
    checkDepths limit depth rest

end

end FluentAssert.Regex
