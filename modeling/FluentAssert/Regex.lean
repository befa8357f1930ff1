import FluentAssert.Regex.Meaning
import FluentAssert.Regex.Memory
import FluentAssert.Regex.Reader
import FluentAssert.Regex.Search

/-! Regular expressions: compiling a pattern, and matching it against a text. -/
namespace FluentAssert

/-- A compiled pattern: its program, and the names of its groups by number. Group zero is the whole
match and has no name. -/
structure Regex where
  program : Regex.Program
  names : List (Option String)
  deriving Inhabited

namespace Regex

inductive CompileError where
  | badPattern (pattern : String) (fault : Fault)
  | tooLarge (limit : Nat)
  deriving DecidableEq, Repr

def CompileError.message : CompileError → String
  | badPattern pattern fault => fault.render pattern
  | tooLarge limit => "Compiled regex exceeds size limit of " ++ toString limit ++ " bytes."

/-- Names by number, up to the last group that is left in the expression. -/
def groupNames (expr : Expr) : List (Option String) :=
  let named := expr.names
  let last := named.foldl (fun n (index, _) => max n index) 0
  (List.range (last + 1)).map fun index => (named.lookup index).getD none

def compile (pattern : String) : Except CompileError Regex :=
  match Reader.read pattern >>= Tree.meaning with
  | .error fault => .error (.badPattern pattern fault)
  | .ok expr =>
    if expr.fits then .ok ⟨.ofExpr expr, groupNames expr⟩ else .error (.tooLarge Memory.limit)

/-- The text between the two slots of a group; a group that took no part has the empty text. -/
def captured (text : Subject) (slots : Slots) (group : Nat) : String :=
  match slots.getD (2 * group) none, slots.getD (2 * group + 1) none with
  | some first, some last => String.ofList (text.extract first last).toList
  | _, _ => ""

def captures? (regex : Regex) (text : String) : Option (List String) :=
  let subject := text.toList.toArray
  (search regex.program regex.names.length subject).map fun slots =>
    (List.range regex.names.length).map (captured subject slots)

def isMatch (regex : Regex) (text : String) : Bool := (regex.captures? text).isSome

end Regex
end FluentAssert
