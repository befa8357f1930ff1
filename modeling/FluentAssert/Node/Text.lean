import FluentAssert.Node.Match
import FluentAssert.Number.Literal
import FluentAssert.Text.Lowercase

/-! Strings: comparisons with and without regard to case, conversions, and matches of patterns. -/
namespace FluentAssert

namespace Text

def occursIn (part : List Char) : List Char → Bool
  | [] => part.isEmpty
  | c :: rest => part.isPrefixOf (c :: rest) || occursIn part rest

def containsText (text part : String) : Bool := occursIn part.toList text.toList

def beginsWith (text start : String) : Bool := start.toList.isPrefixOf text.toList

def endsWith (text ending : String) : Bool := ending.toList.isSuffixOf text.toList

def isAscii (text : String) : Bool := text.toList.all fun c => c.toNat < 0x80

end Text

namespace TextNode

variable {ω : Type}

open FluentAssert.Text

def actual (node : TextNode) : Canonical := .text node.value

def length (node : TextNode) : Run ω NumberNode :=
  node.step "length()" (Node.spawn node.chain (Double.ofNat node.value.length))

def asNumber (node : TextNode) : Run ω NumberNode :=
  node.step "as_number()" <|
    match Double.parse (trim node.value) with
    | .ok x => Node.spawn node.chain x
    | .error e =>
      Node.spawnFailed node.chain
        ((Finding.failure .valid
          ("expected: string can be parsed as a number: " ++ e.message)).withActual node.actual)
        (.zero false)

def asBoolean (node : TextNode) : Run ω BooleanNode :=
  node.step "as_boolean()" <|
    if node.value = "true" then Node.spawn node.chain true
    else if node.value = "false" then Node.spawn node.chain false
    else
      Node.spawnFailed node.chain
        ((Finding.failure .valid "expected: string is \"true\" or \"false\"").withActual node.actual)
        false

def badPattern (pattern : String) (error : Regex.CompileError) : Finding :=
  .failure .valid
    ("unexpected value: invalid regex " ++ quoted pattern ++ ": " ++ error.message)

/-- The first match of a pattern. A pattern that is none, and having no match, are failures. -/
def reMatch (node : TextNode) (pattern : String) : Run ω MatchNode :=
  node.step ("re_match(" ++ quoted pattern ++ ")") <|
    match Regex.compile pattern with
    | .error e => Node.spawnFailed node.chain (badPattern pattern e) .none
    | .ok regex =>
      match regex.captures? node.value with
      | some texts => Node.spawn node.chain ⟨texts, regex.names⟩
      | none =>
        Node.spawnFailed node.chain
          (((Finding.failure .isMatch "expected: string matches regex").withActual
            node.actual).withExpected (.text pattern))
          .none

def notMatch (node : TextNode) (pattern : String) : Run ω Unit :=
  node.checkLive ("not_match(" ++ quoted pattern ++ ")") <|
    node.chain.report <|
      match Regex.compile pattern with
      | .error e => badPattern pattern e
      | .ok regex =>
        ((Finding.check .notMatch (!regex.isMatch node.value)
          "expected: string does not match regex").withActual node.actual).withExpected
          (.text pattern)

def isEmpty (node : TextNode) : Run ω Unit :=
  node.check "is_empty()"
    ((Finding.check .empty node.value.isEmpty "expected: string is empty").withActual node.actual)

def notEmpty (node : TextNode) : Run ω Unit :=
  node.check "not_empty()"
    ((Finding.check .notEmpty (!node.value.isEmpty) "expected: string is not empty").withActual
      node.actual)

def isAscii (node : TextNode) : Run ω Unit :=
  node.check "is_ascii()"
    ((Finding.check .valid (Text.isAscii node.value)
      "expected: string contains only ASCII characters").withActual node.actual)

def compare (node : TextNode) (label : String) (kind : Kind) (holds : Bool) (error : String)
    (expected : String) : Run ω Unit :=
  node.check label
    (((Finding.check kind holds error).withActual node.actual).withExpected (.text expected))

def isEqual (node : TextNode) (expected : String) : Run ω Unit :=
  node.compare "is_equal()" .equal (node.value == expected) "expected: strings are equal" expected

def notEqual (node : TextNode) (expected : String) : Run ω Unit :=
  node.compare "not_equal()" .notEqual (node.value != expected) "expected: strings are not equal"
    expected

def isEqualFold (node : TextNode) (expected : String) : Run ω Unit :=
  node.compare "is_equal_fold()" .equalFold (lowercase node.value == lowercase expected)
    "expected: strings are equal ignoring case" expected

def notEqualFold (node : TextNode) (expected : String) : Run ω Unit :=
  node.compare "not_equal_fold()" .notEqualFold (lowercase node.value != lowercase expected)
    "expected: strings are not equal ignoring case" expected

def contains (node : TextNode) (part : String) : Run ω Unit :=
  node.compare "contains()" .containsElement (containsText node.value part)
    "expected: string contains substring" part

def notContains (node : TextNode) (part : String) : Run ω Unit :=
  node.compare "not_contains()" .notContainsElement (!containsText node.value part)
    "expected: string does not contain substring" part

def containsFold (node : TextNode) (part : String) : Run ω Unit :=
  node.compare "contains_fold()" .containsElement
    (containsText (lowercase node.value) (lowercase part))
    "expected: string contains substring ignoring case" part

def hasPrefix (node : TextNode) (start : String) : Run ω Unit :=
  node.compare "has_prefix()" .hasPrefix (beginsWith node.value start)
    "expected: string has prefix" start

def notHasPrefix (node : TextNode) (start : String) : Run ω Unit :=
  node.compare "not_has_prefix()" .notHasPrefix (!beginsWith node.value start)
    "expected: string does not have prefix" start

def hasSuffix (node : TextNode) (ending : String) : Run ω Unit :=
  node.compare "has_suffix()" .hasSuffix (endsWith node.value ending)
    "expected: string has suffix" ending

def notHasSuffix (node : TextNode) (ending : String) : Run ω Unit :=
  node.compare "not_has_suffix()" .notHasSuffix (!endsWith node.value ending)
    "expected: string does not have suffix" ending

def inList (node : TextNode) (values : List String) : Run ω Unit :=
  node.checkLive "in_list()" <| node.chain.unlessEmpty values <|
    node.chain.report <|
      ((Finding.check .inList (values.contains node.value)
        "expected: string is equal to one of the values").withActual
        node.actual).withExpectedList (values.map .text)

end TextNode
end FluentAssert
