import FluentAssert.Finding
import FluentAssert.Http.Message

/-! The journal of a run: everything that left it, in order. -/
namespace FluentAssert

inductive Level where
  | trace | debug | info | warn | error
  deriving DecidableEq, Repr

def Level.name : Level → String
  | .trace => "TRACE"
  | .debug => "DEBUG"
  | .info => "INFO"
  | .warn => "WARN"
  | .error => "ERROR"

inductive Entry where
  | report (recorder : Nat) (message : String)
  | log (recorder : Nat) (message : String)
  /-- An outcome that was audited, with the keys of its store at that time. -/
  | audit (passed : Bool) (outcome : Outcome) (keys : List String)
  | sent (request : Http.Request)
  | event (level : Level) (message : String) (fields : List (String × String))

abbrev Journal := Array Entry

end FluentAssert
