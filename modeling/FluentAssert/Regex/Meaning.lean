import FluentAssert.Regex.Expr
import FluentAssert.Regex.Tree
import FluentAssert.Text.Property

/-! The meaning of a pattern. Flags hold from where they are set to the end of their group. -/
namespace FluentAssert.Regex

open FluentAssert.Text

structure Flags where
  ignoreCase : Bool := false
  multiLine : Bool := false
  dotAll : Bool := false
  swapGreed : Bool := false
  unicode : Bool := true
  crlf : Bool := false

namespace Flags

def set (flags : Flags) : Flag × Bool → Flags
  | (.ignoreCase, b) => { flags with ignoreCase := b }
  | (.multiLine, b) => { flags with multiLine := b }
  | (.dotAll, b) => { flags with dotAll := b }
  | (.swapGreed, b) => { flags with swapGreed := b }
  | (.unicode, b) => { flags with unicode := b }
  | (.crlf, b) => { flags with crlf := b }
  | (.verbose, _) => flags

def apply (flags : Flags) (settings : List (Flag × Bool)) : Flags := settings.foldl set flags

def fold (flags : Flags) (chars : CharSet) : CharSet :=
  if !flags.ignoreCase then chars
  else if flags.unicode then chars.foldClosure
  else chars.foldAscii

end Flags

namespace AsciiClass

def chars : AsciiClass → CharSet
  | alnum => [(0x30, 0x39), (0x41, 0x5A), (0x61, 0x7A)]
  | alpha => [(0x41, 0x5A), (0x61, 0x7A)]
  | ascii => [(0, 0x7F)]
  | blank => [(0x9, 0x9), (0x20, 0x20)]
  | cntrl => [(0, 0x1F), (0x7F, 0x7F)]
  | digit => [(0x30, 0x39)]
  | graph => [(0x21, 0x7E)]
  | lower => [(0x61, 0x7A)]
  | print => [(0x20, 0x7E)]
  | punct => [(0x21, 0x2F), (0x3A, 0x40), (0x5B, 0x60), (0x7B, 0x7E)]
  | space => [(0x9, 0xD), (0x20, 0x20)]
  | upper => [(0x41, 0x5A)]
  | word => [(0x30, 0x39), (0x41, 0x5A), (0x5F, 0x5F), (0x61, 0x7A)]
  | xdigit => [(0x30, 0x39), (0x41, 0x46), (0x61, 0x66)]

end AsciiClass

namespace Shorthand

def chars (unicode : Bool) : Shorthand → CharSet
  | digit => if unicode then digitSet else AsciiClass.digit.chars
  | space => if unicode then blankSet else AsciiClass.space.chars
  | word => if unicode then wordSet else AsciiClass.word.chars

end Shorthand

/-- Without Unicode a class is one of bytes, of which only the ASCII ones are text. -/
def checkedClass (flags : Flags) (span : Span) (chars : CharSet) : Except Fault CharSet :=
  if flags.unicode || chars.isAscii then .ok chars
  else .error { problem := .invalidUtf8, span }

/-- The other case is added before a class is negated. -/
def foldAndNegate (flags : Flags) (span : Span) (negated : Bool) (chars : CharSet) :
    Except Fault CharSet :=
  let chars := flags.fold chars
  checkedClass flags span (if negated then chars.complement else chars)

def shorthandChars (flags : Flags) (span : Span) (negated : Bool) (kind : Shorthand) :
    Except Fault CharSet :=
  let chars := kind.chars flags.unicode
  checkedClass flags span (if negated then chars.complement else chars)

def propertyChars (flags : Flags) (span : Span) (negated : Bool) (name : PropertyName) :
    Except Fault CharSet :=
  if !flags.unicode then .error { problem := .unicodeNotAllowed, span }
  else
    let found := match name with
      | .alone name => Property.find name
      | .withValue name value => Property.findValue name value
    match found with
    | .ok chars => foldAndNegate flags span negated chars
    | .error .name => .error { problem := .propertyNotFound, span }
    | .error .value => .error { problem := .propertyValueNotFound, span }

/-- A character. Without Unicode two hexadecimal digits are a byte, which must be ASCII. -/
def literalChar (flags : Flags) (l : Literal) : Except Fault Char :=
  if !flags.unicode && l.isByte && 0x7F < l.char.toNat then
    .error { problem := .invalidUtf8, span := l.span }
  else .ok l.char

def classChar (flags : Flags) (l : Literal) : Except Fault Char := do
  let c ← literalChar flags l
  if !flags.unicode && 0x7F < c.toNat then
    .error { problem := .unicodeNotAllowed, span := l.span }
  else .ok c

def SetOp.combine : SetOp → CharSet → CharSet → CharSet
  | inter => CharSet.inter
  | diff => CharSet.diff
  | symmDiff => CharSet.symmDiff

mutual

def SetTree.chars (flags : Flags) : SetTree → Except Fault CharSet
  | .empty _ => .ok []
  | .literal l => do return CharSet.single (← classChar flags l)
  | .range low high => do
    return CharSet.ofRange (← classChar flags low).toNat (← classChar flags high).toNat
  | .ascii span negated kind => foldAndNegate flags span negated kind.chars
  | .shorthand span negated kind => shorthandChars flags span negated kind
  | .property span negated name => propertyChars flags span negated name
  | .bracket span negated body => do foldAndNegate flags span negated (← body.chars flags)
  | .union _ items => charsOfAll flags items
  | .binary _ op left right => do
    let left ← left.chars flags
    let right ← right.chars flags
    return op.combine (flags.fold left) (flags.fold right)

def SetTree.charsOfAll (flags : Flags) : List SetTree → Except Fault CharSet
  | [] => .ok []
  | item :: rest => do
    let chars ← item.chars flags
    return CharSet.union chars (← charsOfAll flags rest)

end

def lineFeed : CharSet := [(0xA, 0xA)]
def lineEnds : CharSet := [(0xA, 0xA), (0xD, 0xD)]

/-- Any character, or any but line ends. Without Unicode it would be a byte. -/
def dotExpr (flags : Flags) (span : Span) : Except Fault Expr :=
  if !flags.unicode then .error { problem := .invalidUtf8, span }
  else .ok <| .ofSet <| CharSet.complement <|
    if flags.dotAll then [] else if flags.crlf then lineEnds else lineFeed

def Assertion.look (flags : Flags) : Assertion → Look
  | lineStart =>
    if !flags.multiLine then .textStart else if flags.crlf then .crlfLineStart else .lineStart
  | lineEnd => if !flags.multiLine then .textEnd else if flags.crlf then .crlfLineEnd else .lineEnd
  | textStart => .textStart
  | textEnd => .textEnd
  | boundary => .boundary flags.unicode
  | noBoundary => .noBoundary flags.unicode
  | wordStart => .wordStart flags.unicode
  | wordEnd => .wordEnd flags.unicode
  | wordStartHalf => .wordStartHalf flags.unicode
  | wordEndHalf => .wordEndHalf flags.unicode

mutual

/-- The meaning of a part, and the flags that hold behind it. -/
def Tree.expr (flags : Flags) : Tree → Except Fault (Expr × Flags)
  | .empty => .ok (.empty, flags)
  | .flags _ settings => .ok (.empty, flags.apply settings)
  | .literal l => do return (.ofSet (flags.fold (.single (← literalChar flags l))), flags)
  | .dot span => do return (← dotExpr flags span, flags)
  | .assertion _ kind => .ok (.look (kind.look flags), flags)
  | .shorthand span negated kind => do return (.ofSet (← shorthandChars flags span negated kind), flags)
  | .property span negated name => do return (.ofSet (← propertyChars flags span negated name), flags)
  | .bracket span negated body => do
    return (.ofSet (← foldAndNegate flags span negated (← body.chars flags)), flags)
  | .repetition _ min max greedy body => do
    let (body, flags) ← body.expr flags
    return (Expr.repeated min max (greedy != flags.swapGreed) body, flags)
  | .group _ (.plain settings) body => do
    let (body, _) ← body.expr (flags.apply settings)
    return (body, flags)
  | .group _ (.capture index name) body => do
    let (body, _) ← body.expr flags
    return (.group index name body, flags)
  | .alternation _ branches => do
    let (branches, flags) ← exprs flags branches
    return (Expr.ofBranches branches, flags)
  | .concat _ items => do
    let (items, flags) ← exprs flags items
    return (Expr.ofItems items, flags)

def Tree.exprs (flags : Flags) : List Tree → Except Fault (List Expr × Flags)
  | [] => .ok ([], flags)
  | part :: rest => do
    let (part, flags) ← part.expr flags
    let (rest, flags) ← exprs flags rest
    return (part :: rest, flags)

end

def Tree.meaning (tree : Tree) : Except Fault Expr := do return (← tree.expr {}).1

end FluentAssert.Regex
