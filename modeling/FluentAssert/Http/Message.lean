import FluentAssert.Duration
import FluentAssert.Native.Json
import FluentAssert.Text.Lowercase

/-! Requests and responses. Header names compare without regard to the case of ASCII letters, and
repeated headers keep their order. -/
namespace FluentAssert.Http

open FluentAssert.Text

abbrev Headers := List (String × String)

namespace Headers

def values (headers : Headers) (name : String) : List String :=
  (headers.filter fun (n, _) => equalIgnoringAsciiCase n name).map (·.2)

def first? (headers : Headers) (name : String) : Option String :=
  (headers.find? fun (n, _) => equalIgnoringAsciiCase n name).map (·.2)

end Headers

def contentTypeName : String := "Content-Type"

/-- The content type of bodies that are made from values. -/
def jsonContentType : String := "application/json; charset=utf-8"

structure Request where
  method : String
  url : String
  headers : Headers := []
  body : Bytes := []
  deriving DecidableEq

structure Response where
  status : Nat := 0
  headers : Headers := []
  body : Bytes := []
  deriving DecidableEq

namespace Request

def withHeader (request : Request) (name value : String) : Request :=
  { request with headers := request.headers ++ [(name, value)] }

/-- Puts the JSON text of a value into the body and sets the content type. -/
def withJson (request : Request) (value : Native) : Except Native.EncodeError Request :=
  value.toJson.map fun body => { request.withHeader contentTypeName jsonContentType with body }

def header? (request : Request) (name : String) : Option String := request.headers.first? name

end Request

namespace Response

def withHeader (response : Response) (name value : String) : Response :=
  { response with headers := response.headers ++ [(name, value)] }

def withJson (response : Response) (value : Native) : Except Native.EncodeError Response :=
  value.toJson.map fun body => { response.withHeader contentTypeName jsonContentType with body }

def header? (response : Response) (name : String) : Option String := response.headers.first? name

def headerValues (response : Response) (name : String) : List String :=
  response.headers.values name

end Response

inductive TransportError where
  | timeout (after : Duration)
  | connection (reason : String)
  | encode (error : Native.EncodeError)
  | other (reason : String)
  deriving DecidableEq

def TransportError.message : TransportError → String
  | .timeout after => "request timed out after " ++ after.text
  | .connection reason => "connection failed: " ++ reason
  | .encode error => "failed to encode request body: " ++ error.message
  | .other reason => reason

end FluentAssert.Http
