import FluentAssert.Node

/-! Numbers: comparisons with arguments of any numeric type, deviations and ranges. -/
namespace FluentAssert.NumberNode

variable {ω : Type}

def actual (node : NumberNode) : Canonical := .number node.value

def compare (node : NumberNode) (label : String) (kind : Kind) (expected : Native)
    (related : Double → Double → Bool) (error : String) : Run ω Unit :=
  node.checkLive label do
    match ← node.chain.numberArgument expected with
    | none => return ()
    | some expected =>
      node.chain.report <|
        ((Finding.check kind (related node.value expected) error).withActual
          node.actual).withExpected (.number expected)

def isEqual (node : NumberNode) (expected : Native) : Run ω Unit :=
  node.compare "is_equal()" .equal expected Binary.equal "expected: numbers are equal"

def notEqual (node : NumberNode) (expected : Native) : Run ω Unit :=
  node.compare "not_equal()" .notEqual expected (fun x y => !x.equal y)
    "expected: numbers are not equal"

def greater (node : NumberNode) (expected : Native) : Run ω Unit :=
  node.compare "gt()" .greater expected (fun x y => y.less x)
    "expected: number is greater than value"

def atLeast (node : NumberNode) (expected : Native) : Run ω Unit :=
  node.compare "ge()" .greaterOrEqual expected (fun x y => y.atMost x)
    "expected: number is greater than or equal to value"

def less (node : NumberNode) (expected : Native) : Run ω Unit :=
  node.compare "lt()" .less expected Binary.less "expected: number is less than value"

def atMost (node : NumberNode) (expected : Native) : Run ω Unit :=
  node.compare "le()" .lessOrEqual expected Binary.atMost
    "expected: number is less than or equal to value"

/-- Deviations that are allowed at all: zero and more. -/
def isDeviation (delta : Double) : Bool := !delta.isNaN && !delta.less (.zero false)

def badDelta (delta : Double) : Finding :=
  .failure .valid
    ("unexpected value: delta " ++ Layout.plain.write delta ++ " is not a non-negative number")

/-- Checks on which side of a deviation the number lies. -/
def compareDelta (node : NumberNode) (label : String) (kind : Kind) (expected : Native)
    (delta : Double) (inside : Bool) (error : String) : Run ω Unit :=
  node.checkLive label do
    if !isDeviation delta then node.chain.report (badDelta delta)
    else match ← node.chain.numberArgument expected with
      | none => return ()
      | some expected =>
        let within := (node.value.sub expected).abs.atMost delta
        node.chain.report <|
          (((Finding.check kind (within == inside) error).withActual
            node.actual).withExpected (.number expected)).withDelta delta

def inDelta (node : NumberNode) (expected : Native) (delta : Double) : Run ω Unit :=
  node.compareDelta "in_delta()" .inDelta expected delta true
    "expected: number is within delta of value"

def notInDelta (node : NumberNode) (expected : Native) (delta : Double) : Run ω Unit :=
  node.compareDelta "not_in_delta()" .notInDelta expected delta false
    "expected: number is not within delta of value"

/-- Checks on which side of a range the number lies. Both bounds are looked at first. -/
def compareRange (node : NumberNode) (label : String) (kind : Kind) (low high : Native)
    (inside : Bool) (error : String) : Run ω Unit :=
  node.checkLive label do
    let low? ← node.chain.numberArgument low
    let high? ← node.chain.numberArgument high
    match low?, high? with
    | some low, some high =>
      let within := low.atMost node.value && node.value.atMost high
      node.chain.report <|
        (((Finding.check kind (within == inside) error).withActual
          node.actual).withExpected (.number low)).withExpected (.number high)
    | _, _ => return ()

def inRange (node : NumberNode) (low high : Native) : Run ω Unit :=
  node.compareRange "in_range()" .inRange low high true "expected: number is within range"

def notInRange (node : NumberNode) (low high : Native) : Run ω Unit :=
  node.compareRange "not_in_range()" .notInRange low high false
    "expected: number is not within range"

def inList (node : NumberNode) (values : List Native) : Run ω Unit :=
  node.checkLive "in_list()" <| node.chain.unlessEmpty values do
    match ← node.chain.numberArguments values with
    | none => return ()
    | some values =>
      node.chain.report <|
        ((Finding.check .inList (values.any fun x => x.equal node.value)
          "expected: number is equal to one of the values").withActual
          node.actual).withExpectedList (values.map .number)

def isInteger (node : NumberNode) : Run ω Unit :=
  node.check "is_integer()"
    ((Finding.check .valid node.value.isIntegral "expected: number is an integer").withActual
      node.actual)

def isFinite (node : NumberNode) : Run ω Unit :=
  node.check "is_finite()"
    ((Finding.check .valid node.value.isFinite
      ("expected: number is finite, but it is " ++ Layout.plain.write node.value)).withActual
      node.actual)

end FluentAssert.NumberNode
