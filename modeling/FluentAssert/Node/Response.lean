import FluentAssert.Canonical.OfNative
import FluentAssert.Http.ContentType
import FluentAssert.Http.Message
import FluentAssert.Http.Status
import FluentAssert.Json.Reader
import FluentAssert.Node

/-! Responses: their status, headers and content. -/
namespace FluentAssert

open FluentAssert.Http FluentAssert.Text

namespace Http.Response

/-- Puts a value at the end of the list under a name, or begins a list with it. -/
def addHeader (fields : Fields Canonical) (name value : String) : Fields Canonical :=
  match Fields.get? fields name with
  | none => Fields.insert name (.array [.text value]) fields
  | some (.array values) => Fields.insert name (.array (values ++ [.text value])) fields
  | some _ => fields

/-- Headers by lowercase name, each with all its values in order. -/
def headerFields (response : Response) : Fields Canonical :=
  response.headers.foldl (fun fields (name, value) => addHeader fields (lowercaseAscii name) value)
    []

/-- Why the content type is another one, if it is. -/
def contentTypeFault? (response : Response) (media : String) (charset : Option String) :
    Option String :=
  match response.header? contentTypeName with
  | none =>
    some ("expected: content type is " ++ quoted media ++ ", but the header is missing")
  | some header =>
    let found := ContentType.parse header
    if !equalIgnoringAsciiCase found.media media then
      some ("expected: content type is " ++ quoted media ++ ", but it is " ++ quoted found.media)
    else match charset, found.charset with
      | none, _ => none
      | some wanted, some actual =>
        if equalIgnoringAsciiCase actual wanted then none
        else some ("expected: charset is " ++ quoted wanted ++ ", but it is " ++ quoted actual)
      | some wanted, none =>
        some ("expected: charset is " ++ quoted wanted ++ ", but none is given")

/-- Why the content is not UTF-8 text of a media type, as far as the header tells. -/
def textContentFault? (response : Response) (media : String) : Option String :=
  match response.contentTypeFault? media none with
  | some fault => some fault
  | none =>
    match (ContentType.parse ((response.header? contentTypeName).getD "")).charset with
    | some charset =>
      if equalIgnoringAsciiCase charset "utf-8" then none
      else some ("expected: charset is \"utf-8\", but it is " ++ quoted charset)
    | none => none

def plainText (response : Response) : Except String String :=
  match response.textContentFault? "text/plain" with
  | some fault => .error fault
  | none =>
    match decodeUtf8 response.body with
    | .ok text => .ok text
    | .error e => .error ("expected: body is valid UTF-8: " ++ e.message)

def jsonValue (response : Response) : Except String Canonical :=
  match response.textContentFault? "application/json" with
  | some fault => .error fault
  | none =>
    match Json.read response.body with
    | .ok document => .ok (.ofJson document)
    | .error e => .error ("expected: body is valid JSON: " ++ e.message)

def contentFaults (response : Response) : List String :=
  (if response.body.isEmpty then []
    else ["expected: body is empty, but it has " ++ toString response.body.length ++ " bytes"]) ++
  match response.header? contentTypeName with
  | some header => ["expected: no content type, but it is " ++ quoted header]
  | none => []

end Http.Response

abbrev ResponseNode := Node Response

namespace ResponseNode

variable {ω : Type}

def actualStatus (node : ResponseNode) : Canonical := .ofNat node.value.status

def headers (node : ResponseNode) : Run ω ObjectNode :=
  node.step "headers()" (Node.spawn node.chain node.value.headerFields)

def header (node : ResponseNode) (name : String) : Run ω TextNode :=
  node.step ("header(" ++ quoted name ++ ")") <|
    match node.value.header? name with
    | some value => Node.spawn node.chain value
    | none =>
      Node.spawnFailed node.chain
        (.failure .containsKey ("expected: response has header " ++ quoted name)) ""

/-- The body as text, with a sign in place of what is no text. -/
def body (node : ResponseNode) : Run ω TextNode :=
  node.step "body()" (Node.spawn node.chain (decodeUtf8Lossy node.value.body))

/-- Content that could be read, or a failure and the neutral value. -/
def content {α : Type} (node : ResponseNode) (read : Except String α) (neutral : α) :
    Run ω (Node α) :=
  match read with
  | .ok value => Node.spawn node.chain value
  | .error error => Node.spawnFailed node.chain (.failure .valid error) neutral

def text (node : ResponseNode) : Run ω TextNode :=
  node.step "text()" (node.content node.value.plainText "")

def json (node : ResponseNode) : Run ω ValueNode :=
  node.step "json()" (node.content node.value.jsonValue .null)

def status (node : ResponseNode) (code : Nat) : Run ω Unit :=
  node.check ("status(" ++ toString code ++ ")")
    (((Finding.check .equal (node.value.status == code)
      ("expected: status is " ++ toString code)).withActual node.actualStatus).withExpected
      (.ofNat code))

def statusRange (node : ResponseNode) (range : StatusRange) : Run ω Unit :=
  node.check ("status_range(" ++ range.name ++ ")")
    ((((Finding.check .inRange (range.contains node.value.status)
      ("expected: status is " ++ range.title)).withActual node.actualStatus).withExpected
      (.ofNat range.bounds.1)).withExpected (.ofNat range.bounds.2))

def hasContentType (node : ResponseNode) (media : String) (charset : Option String) : Run ω Unit :=
  node.check ("has_content_type(" ++ quoted media ++ ")")
    ((node.value.contentTypeFault? media charset).toList.foldl Finding.withError
      (Finding.ofKind .equal))

/-- The response has neither a body nor a content type. -/
def noContent (node : ResponseNode) : Run ω Unit :=
  node.check "no_content()"
    (node.value.contentFaults.foldl Finding.withError (Finding.ofKind .empty))

end ResponseNode
end FluentAssert
