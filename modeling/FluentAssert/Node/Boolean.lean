import FluentAssert.Node

/-! Booleans. -/
namespace FluentAssert.BooleanNode

variable {ω : Type}

def equalTo (node : BooleanNode) (label : String) (expected : Bool) : Run ω Unit :=
  node.check label
    (((Finding.check .equal (node.value == expected)
      ("expected: boolean is " ++ toString expected)).withActual (.bool node.value)).withExpected
      (.bool expected))

def isTrue (node : BooleanNode) : Run ω Unit := node.equalTo "is_true()" true

def isFalse (node : BooleanNode) : Run ω Unit := node.equalTo "is_false()" false

def isEqual (node : BooleanNode) (expected : Bool) : Run ω Unit :=
  node.equalTo "is_equal()" expected

def notEqual (node : BooleanNode) (expected : Bool) : Run ω Unit :=
  node.check "not_equal()"
    (((Finding.check .notEqual (node.value != expected)
      "expected: booleans are not equal").withActual (.bool node.value)).withExpected
      (.bool expected))

end FluentAssert.BooleanNode
