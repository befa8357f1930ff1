/-! Settings of the built-in formatter. -/
namespace FluentAssert

structure Settings where
  colors : Bool := false
  showDiff : Bool := true
  showTestName : Bool := true
  showPath : Bool := true
  truncateAt : Nat := 1000
  deriving DecidableEq, Repr

def Settings.plain : Settings := { showDiff := false }

end FluentAssert
