import FluentAssert.Node

/-! Objects: their fields by key, in ascending order of keys. -/
namespace FluentAssert.ObjectNode

variable {ω : Type}

open FluentAssert.Text

def actual (node : ObjectNode) : Canonical := .object node.value

def length (node : ObjectNode) : Run ω NumberNode :=
  node.step "length()" (Node.spawn node.chain (Double.ofNat node.value.length))

def keys (node : ObjectNode) : Run ω ArrayNode :=
  node.step "keys()" (Node.spawn node.chain ((Fields.keys node.value).map .text))

def values (node : ObjectNode) : Run ω ArrayNode :=
  node.step "values()" (Node.spawn node.chain (Fields.values node.value))

def noKey (node : ObjectNode) (key : String) : Finding :=
  (Finding.failure .containsKey ("expected: object contains key " ++ quoted key)).withActual
    node.actual

def field (node : ObjectNode) (key : String) : Run ω ValueNode :=
  node.step ("value(" ++ quoted key ++ ")") <|
    match Fields.get? node.value key with
    | some value => Node.spawn node.chain value
    | none => Node.spawnFailed node.chain ((node.noKey key).withExpected (.text key)) .null

def each (node : ObjectNode) (visit : String → ValueNode → Run ω Unit) : Run ω Unit :=
  node.value.forM fun (key, value) =>
    node.chain.within ("each()[" ++ quoted key ++ "]") do
      visit key (← Node.spawn node.chain value)

def isEmpty (node : ObjectNode) : Run ω Unit :=
  node.check "is_empty()"
    ((Finding.check .empty node.value.isEmpty "expected: object is empty").withActual node.actual)

def notEmpty (node : ObjectNode) : Run ω Unit :=
  node.check "not_empty()"
    ((Finding.check .notEmpty (!node.value.isEmpty) "expected: object is not empty").withActual
      node.actual)

def containsKey (node : ObjectNode) (key : String) : Run ω Unit :=
  node.check ("contains_key(" ++ quoted key ++ ")")
    (((Finding.check .containsKey (Fields.has node.value key)
      ("expected: object contains key " ++ quoted key)).withActual node.actual).withExpected
      (.text key))

def notContainsKey (node : ObjectNode) (key : String) : Run ω Unit :=
  node.check ("not_contains_key(" ++ quoted key ++ ")")
    (((Finding.check .notContainsKey (!Fields.has node.value key)
      ("expected: object does not contain key " ++ quoted key)).withActual
      node.actual).withExpected (.text key))

def holds (node : ObjectNode) (value : Canonical) : Bool :=
  (Fields.values node.value).any fun held => held == value

def containsValue (node : ObjectNode) (expected : Native) : Run ω Unit :=
  node.checkLive "contains_value()" <| node.chain.withArgument expected fun expected =>
    node.chain.report <|
      ((Finding.check .containsElement (node.holds expected)
        "expected: object contains value").withActual node.actual).withExpected expected

def notContainsValue (node : ObjectNode) (expected : Native) : Run ω Unit :=
  node.checkLive "not_contains_value()" <| node.chain.withArgument expected fun expected =>
    node.chain.report <|
      ((Finding.check .notContainsElement (!node.holds expected)
        "expected: object does not contain value").withActual node.actual).withExpected expected

def hasValue (node : ObjectNode) (key : String) (expected : Native) : Run ω Unit :=
  node.checkLive ("has_value(" ++ quoted key ++ ")") <|
    node.chain.withArgument expected fun expected =>
      node.chain.report <|
        match Fields.get? node.value key with
        | some value =>
          ((Finding.check .equal (value == expected)
            ("expected: value under key " ++ quoted key ++ " is equal")).withActual
            value).withExpected expected
        | none => node.noKey key

def notHasValue (node : ObjectNode) (key : String) (expected : Native) : Run ω Unit :=
  node.checkLive ("not_has_value(" ++ quoted key ++ ")") <|
    node.chain.withArgument expected fun expected =>
      node.chain.report <|
        match Fields.get? node.value key with
        | some value =>
          ((Finding.check .notEqual (!(value == expected))
            ("expected: value under key " ++ quoted key ++ " is not equal")).withActual
            value).withExpected expected
        | none => node.noKey key

def containsSubset (node : ObjectNode) (subset : Native) : Run ω Unit :=
  node.checkLive "contains_subset()" <| node.chain.withArgument subset fun subset =>
    node.chain.report <|
      ((Finding.check .containsSubset (node.actual.containsSubset subset)
        "expected: object contains subset").withActual node.actual).withExpected subset

def notContainsSubset (node : ObjectNode) (subset : Native) : Run ω Unit :=
  node.checkLive "not_contains_subset()" <| node.chain.withArgument subset fun subset =>
    node.chain.report <|
      ((Finding.check .notContainsSubset (!node.actual.containsSubset subset)
        "expected: object does not contain subset").withActual node.actual).withExpected subset

def isEqual (node : ObjectNode) (expected : Native) : Run ω Unit :=
  node.checkLive "is_equal()" <| node.chain.withArgument expected fun expected =>
    node.chain.report <|
      ((Finding.check .equal (node.actual == expected) "expected: objects are equal").withActual
        node.actual).withExpected expected

def notEqual (node : ObjectNode) (expected : Native) : Run ω Unit :=
  node.checkLive "not_equal()" <| node.chain.withArgument expected fun expected =>
    node.chain.report <|
      ((Finding.check .notEqual (!(node.actual == expected))
        "expected: objects are not equal").withActual node.actual).withExpected expected

end FluentAssert.ObjectNode
