import FluentAssert.Node
import FluentAssert.Regex

/-! Matches: the texts of all groups, by number and by name. -/
namespace FluentAssert

/-- Texts of the groups, the whole match first, and their names. Groups that took no part have the
empty text. A match that failed has no groups at all. -/
structure Captures where
  texts : List String
  names : List (Option String)
  deriving DecidableEq, Repr

def Captures.none : Captures := ⟨[], []⟩

abbrev MatchNode := Node Captures

namespace MatchNode

variable {ω : Type}

open FluentAssert.Text

def textArray (texts : List String) : Canonical := .array (texts.map .text)

def actual (node : MatchNode) : Canonical := textArray node.value.texts

def groups (node : MatchNode) : List String := node.value.texts.drop 1

def length (node : MatchNode) : Run ω NumberNode :=
  node.step "length()" (Node.spawn node.chain (Double.ofNat node.value.texts.length))

/-- The text of a group by number; a number without a group is a failure. -/
def index (node : MatchNode) (index : Nat) : Run ω TextNode :=
  node.step ("index(" ++ toString index ++ ")") <|
    match node.value.texts[index]? with
    | some text => Node.spawn node.chain text
    | none =>
      Node.spawnFailed node.chain
        ((Finding.failure .inBounds
          ("expected: submatch index " ++ toString index ++ " is within bounds [0; " ++
            toString node.value.texts.length ++ ")")).withActual (.ofNat index))
        ""

def named? (captures : Captures) (name : String) : Option String := do
  captures.texts[← captures.names.findIdx? (· == some name)]?

def name (node : MatchNode) (name : String) : Run ω TextNode :=
  node.step ("name(" ++ quoted name ++ ")") <|
    match named? node.value name with
    | some text => Node.spawn node.chain text
    | none =>
      Node.spawnFailed node.chain
        ((Finding.failure .containsKey
          ("expected: regex has group named " ++ quoted name)).withActual
          (textArray (node.value.names.filterMap id)))
        ""

def isEmpty (node : MatchNode) : Run ω Unit :=
  node.check "is_empty()"
    ((Finding.check .empty node.value.texts.isEmpty "expected: match is empty").withActual
      node.actual)

def notEmpty (node : MatchNode) : Run ω Unit :=
  node.check "not_empty()"
    ((Finding.check .notEmpty (!node.value.texts.isEmpty) "expected: match is not empty").withActual
      node.actual)

def values (node : MatchNode) (expected : List String) : Run ω Unit :=
  node.check "values()"
    (((Finding.check .equal (node.groups == expected) "expected: submatches are equal").withActual
      (textArray node.groups)).withExpected (textArray expected))

def notValues (node : MatchNode) (expected : List String) : Run ω Unit :=
  node.check "not_values()"
    (((Finding.check .notEqual (node.groups != expected)
      "expected: submatches are not equal").withActual (textArray node.groups)).withExpected
      (textArray expected))

end MatchNode
end FluentAssert
