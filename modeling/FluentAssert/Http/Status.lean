/-! Classes of status codes. -/
namespace FluentAssert.Http

inductive StatusRange where
  | informational | success | redirect | clientError | serverError
  deriving DecidableEq, Repr

namespace StatusRange

def bounds : StatusRange → Nat × Nat
  | informational => (100, 199)
  | success => (200, 299)
  | redirect => (300, 399)
  | clientError => (400, 499)
  | serverError => (500, 599)

def contains (range : StatusRange) (status : Nat) : Bool :=
  decide (range.bounds.1 ≤ status ∧ status ≤ range.bounds.2)

def title : StatusRange → String
  | informational => "1xx informational"
  | success => "2xx success"
  | redirect => "3xx redirect"
  | clientError => "4xx client error"
  | serverError => "5xx server error"

def name : StatusRange → String
  | informational => "Informational"
  | success => "Success"
  | redirect => "Redirect"
  | clientError => "ClientError"
  | serverError => "ServerError"

end StatusRange
end FluentAssert.Http
