import FluentAssert.Text.Blank
import FluentAssert.Text.Lowercase

/-! Content types: a media type and parameters, separated by semicolons. Of the parameters only the
character set is read. -/
namespace FluentAssert.Http

open FluentAssert.Text

structure ContentType where
  media : String
  charset : Option String
  deriving DecidableEq, Repr

namespace ContentType

/-- Name and value of a parameter, which the first equals sign separates. -/
def splitParameter (parameter : List Char) : Option (List Char × List Char) :=
  match parameter.dropWhile (· != '=') with
  | [] => none
  | _ :: value => some (parameter.takeWhile (· != '='), value)

/-- The character set, if the parameter names one. -/
def charsetOf (parameter : List Char) : Option String :=
  match splitParameter parameter with
  | none => none
  | some (name, value) =>
    if equalIgnoringAsciiCase (String.ofList (trimBy isBlank name)) "charset" then
      some (String.ofList (trimBy (· == '"') (trimBy isBlank value)))
    else none

def parse (header : String) : ContentType :=
  match header.toList.splitOn ';' with
  | [] => ⟨"", none⟩
  | media :: parameters =>
    ⟨String.ofList (trimBy isBlank media), parameters.findSome? charsetOf⟩

end ContentType
end FluentAssert.Http
