import FluentAssert.Node

/-! Values of any type: conversions to the typed nodes, and comparisons. -/
namespace FluentAssert.ValueNode

variable {ω : Type}

def object (node : ValueNode) : Run ω ObjectNode :=
  node.step "object()" (node.chain.asObject node.value)

def array (node : ValueNode) : Run ω ArrayNode :=
  node.step "array()" (node.chain.asArray node.value)

def string (node : ValueNode) : Run ω TextNode :=
  node.step "string()" (node.chain.asText node.value)

def number (node : ValueNode) : Run ω NumberNode :=
  node.step "number()" (node.chain.asNumber node.value)

def boolean (node : ValueNode) : Run ω BooleanNode :=
  node.step "boolean()" (node.chain.asBoolean node.value)

def isNull (node : ValueNode) : Run ω Unit :=
  node.check "is_null()"
    ((Finding.check .null node.value.isNull "expected: value is null").withActual node.value)

def notNull (node : ValueNode) : Run ω Unit :=
  node.check "not_null()"
    ((Finding.check .notNull (!node.value.isNull) "expected: value is not null").withActual
      node.value)

def isEqual (node : ValueNode) (expected : Native) : Run ω Unit :=
  node.checkLive "is_equal()" <| node.chain.withArgument expected fun expected =>
    node.chain.report <|
      ((Finding.check .equal (node.value == expected) "expected: values are equal").withActual
        node.value).withExpected expected

def notEqual (node : ValueNode) (expected : Native) : Run ω Unit :=
  node.checkLive "not_equal()" <| node.chain.withArgument expected fun expected =>
    node.chain.report <|
      ((Finding.check .notEqual (!(node.value == expected))
        "expected: values are not equal").withActual node.value).withExpected expected

def inList (node : ValueNode) (values : List Native) : Run ω Unit :=
  node.checkLive "in_list()" <| node.chain.unlessEmpty values <|
    node.chain.withArguments values fun values =>
      node.chain.report <|
        ((Finding.check .inList (node.value.isMember values)
          "expected: value is equal to one of the values").withActual node.value).withExpectedList
          values

def notInList (node : ValueNode) (values : List Native) : Run ω Unit :=
  node.checkLive "not_in_list()" <| node.chain.unlessEmpty values <|
    node.chain.withArguments values fun values =>
      node.chain.report <|
        ((Finding.check .notInList (!node.value.isMember values)
          "expected: value is not equal to any of the values").withActual
          node.value).withExpectedList values

end FluentAssert.ValueNode
