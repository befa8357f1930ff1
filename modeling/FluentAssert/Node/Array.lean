import FluentAssert.Node

/-! Arrays: their elements by position, and comparisons with and without regard to order. -/
namespace FluentAssert

namespace Canonical

/-- The first place that is not in use and holds an equal of `value`. -/
def freePlace? (value : Canonical) (expected : List Canonical) (used : List Bool) : Option Nat :=
  (expected.zip used).findIdx? fun spot => !spot.2 && spot.1 == value

/-- Every item takes the first place that is free for it, and marks it as used. -/
def takePlaces (expected : List Canonical) : List Canonical → List Bool → Bool
  | [], _ => true
  | item :: rest, used =>
    match freePlace? item expected used with
    | some place => takePlaces expected rest (used.set place true)
    | none => false

/-- Both lists hold the same values, each as often. Items are paired greedily. -/
def sameMultiset (actual expected : List Canonical) : Bool :=
  actual.length == expected.length &&
    takePlaces expected actual (List.replicate expected.length false)

end Canonical

namespace ArrayNode

variable {ω : Type}

def actual (node : ArrayNode) : Canonical := .array node.value

def outOfBounds (node : ArrayNode) (index : Nat) : Finding :=
  (Finding.failure .inBounds
    ("expected: index " ++ toString index ++ " is within bounds [0; " ++
      toString node.value.length ++ ")")).withActual (.ofNat index)

def length (node : ArrayNode) : Run ω NumberNode :=
  node.step "length()" (Node.spawn node.chain (Double.ofNat node.value.length))

/-- The element at a position; a position out of bounds is a failure. -/
def element (node : ArrayNode) (index : Nat) : Run ω ValueNode :=
  node.step ("element(" ++ toString index ++ ")") <|
    match node.value[index]? with
    | some value => Node.spawn node.chain value
    | none => Node.spawnFailed node.chain (node.outOfBounds index) .null

/-- An element at one of the ends, which an empty array lacks. -/
def endElement (node : ArrayNode) : Option Canonical → Run ω ValueNode
  | some value => Node.spawn node.chain value
  | none =>
    Node.spawnFailed node.chain
      ((Finding.failure .notEmpty "expected: array is not empty").withActual node.actual) .null

def first (node : ArrayNode) : Run ω ValueNode :=
  node.step "first()" (node.endElement node.value.head?)

def last (node : ArrayNode) : Run ω ValueNode :=
  node.step "last()" (node.endElement node.value.getLast?)

/-- Calls `visit` for every element, each inside a scope of its own. -/
def each (node : ArrayNode) (visit : Nat → ValueNode → Run ω Unit) : Run ω Unit :=
  node.value.zipIdx.forM fun (value, index) =>
    node.chain.within ("each()[" ++ toString index ++ "]") do
      visit index (← Node.spawn node.chain value)

def iter (node : ArrayNode) : Run ω (List ValueNode) :=
  node.value.zipIdx.mapM fun (value, index) =>
    node.chain.within ("iter()[" ++ toString index ++ "]") (Node.spawn node.chain value)

def isEmpty (node : ArrayNode) : Run ω Unit :=
  node.check "is_empty()"
    ((Finding.check .empty node.value.isEmpty "expected: array is empty").withActual node.actual)

def notEmpty (node : ArrayNode) : Run ω Unit :=
  node.check "not_empty()"
    ((Finding.check .notEmpty (!node.value.isEmpty) "expected: array is not empty").withActual
      node.actual)

def isEqual (node : ArrayNode) (expected : Native) : Run ω Unit :=
  node.checkLive "is_equal()" <| node.chain.withArgument expected fun expected =>
    node.chain.report <|
      ((Finding.check .equal (node.actual == expected) "expected: arrays are equal").withActual
        node.actual).withExpected expected

def notEqual (node : ArrayNode) (expected : Native) : Run ω Unit :=
  node.checkLive "not_equal()" <| node.chain.withArgument expected fun expected =>
    node.chain.report <|
      ((Finding.check .notEqual (!(node.actual == expected))
        "expected: arrays are not equal").withActual node.actual).withExpected expected

def isEqualUnordered (node : ArrayNode) (expected : List Native) : Run ω Unit :=
  node.checkLive "is_equal_unordered()" <| node.chain.withArguments expected fun expected =>
    node.chain.report <|
      ((Finding.check .equal (Canonical.sameMultiset node.value expected)
        "expected: arrays are equal ignoring order").withActual node.actual).withExpected
        (.array expected)

def missingElement (value : Canonical) : String :=
  "expected: array contains element " ++ value.toText

def presentElement (value : Canonical) : String :=
  "expected: array does not contain element " ++ value.toText

/-- A finding with one error for every value at fault. -/
def naming (node : ArrayNode) (kind : Kind) (errors : List String) (values : List Canonical) :
    Finding :=
  ((errors.foldl Finding.withError (Finding.ofKind kind)).withActual node.actual).withExpectedList
    values

/-- Every value is an element; each that is not has an error of its own. -/
def containsAll (node : ArrayNode) (values : List Native) : Run ω Unit :=
  node.checkLive "contains_all()" <| node.chain.unlessEmpty values <|
    node.chain.withArguments values fun values =>
      let missing := values.filter fun value => !value.isMember node.value
      node.chain.report (node.naming .containsElement (missing.map missingElement) values)

/-- No value is an element; each that is one has an error of its own. -/
def notContainsAll (node : ArrayNode) (values : List Native) : Run ω Unit :=
  node.checkLive "not_contains_all()" <| node.chain.unlessEmpty values <|
    node.chain.withArguments values fun values =>
      let present := values.filter fun value => value.isMember node.value
      node.chain.report (node.naming .notContainsElement (present.map presentElement) values)

def containsAny (node : ArrayNode) (values : List Native) : Run ω Unit :=
  node.checkLive "contains_any()" <| node.chain.unlessEmpty values <|
    node.chain.withArguments values fun values =>
      node.chain.report <|
        ((Finding.check .containsElement (values.any fun value => value.isMember node.value)
          "expected: array contains at least one of the elements").withActual
          node.actual).withExpectedList values

def notContainsAny (node : ArrayNode) (values : List Native) : Run ω Unit :=
  node.checkLive "not_contains_any()" <| node.chain.unlessEmpty values <|
    node.chain.withArguments values fun values =>
      node.chain.report <|
        ((Finding.check .notContainsElement (!values.all fun value => value.isMember node.value)
          "expected: array is missing at least one of the elements").withActual
          node.actual).withExpectedList values

/-- Elements and values are the same, without regard to order and repetition. -/
def containsOnly (node : ArrayNode) (values : List Native) : Run ω Unit :=
  node.checkLive "contains_only()" <| node.chain.withArguments values fun values =>
    let holds := node.value.all (fun value => value.isMember values) &&
      values.all fun value => value.isMember node.value
    node.chain.report <|
      ((Finding.check .containsOnly holds
        "expected: array contains only the given elements").withActual
        node.actual).withExpectedList values

def hasValue (node : ArrayNode) (index : Nat) (expected : Native) : Run ω Unit :=
  node.checkLive ("has_value(" ++ toString index ++ ")") <|
    node.chain.withArgument expected fun expected =>
      node.chain.report <|
        match node.value[index]? with
        | some value =>
          ((Finding.check .equal (value == expected)
            ("expected: element " ++ toString index ++ " is equal")).withActual
            value).withExpected expected
        | none => node.outOfBounds index

def notHasValue (node : ArrayNode) (index : Nat) (expected : Native) : Run ω Unit :=
  node.checkLive ("not_has_value(" ++ toString index ++ ")") <|
    node.chain.withArgument expected fun expected =>
      node.chain.report <|
        match node.value[index]? with
        | some value =>
          ((Finding.check .notEqual (!(value == expected))
            ("expected: element " ++ toString index ++ " is not equal")).withActual
            value).withExpected expected
        | none => node.outOfBounds index

end ArrayNode
end FluentAssert
