import FluentAssert.Canonical.OfNative
import FluentAssert.Environment

/-! Nodes hold one value and one chain. A check looks at the value and reports what it finds inside
its own scope; a step makes a new node on a child chain under the scope of the step. -/
namespace FluentAssert

structure Node (α : Type) where
  chain : ChainId
  value : α

namespace Node

variable {ω α β : Type}

def clone (node : Node α) : Run ω (Node α) := do return ⟨← node.chain.spawn, node.value⟩

def env (node : Node α) : Handle := ⟨node.chain⟩

def spawn (chain : ChainId) (value : α) : Run ω (Node α) := do return ⟨← chain.spawn, value⟩

/-- Reports a failure, and goes on with the neutral value. -/
def spawnFailed (chain : ChainId) (finding : Finding) (neutral : α) : Run ω (Node α) := do
  chain.report finding
  spawn chain neutral

/-- A check that needs no arguments from outside: it always reports. -/
def check (node : Node α) (label : String) (finding : Finding) : Run ω Unit :=
  node.chain.within label (node.chain.report finding)

/-- A check with arguments, which are looked at only while the node is live. -/
def checkLive (node : Node α) (label : String) (body : Run ω Unit) : Run ω Unit :=
  node.chain.within label (node.chain.whileLive body)

def step (node : Node α) (label : String) (body : Run ω (Node β)) : Run ω (Node β) :=
  node.chain.within label body

end Node

namespace ChainId

variable {ω : Type}

def badArgument (error : CanonicalError) : Finding :=
  .failure .valid ("unexpected value: cannot canonicalize argument: " ++ error.message)

def notNumber (value : Canonical) : Finding :=
  .failure .valid ("unexpected value: argument is " ++ value.typeName ++ ", expected a number")

def noArguments : Finding := .failure .valid "unexpected value: argument list is empty"

/-- The canonical form of an argument; having none is a failure. -/
def argument (chain : ChainId) (value : Native) : Run ω (Option Canonical) :=
  match Canonical.ofNative value with
  | .ok value => return some value
  | .error e => do
    chain.report (badArgument e)
    return none

/-- Canonical forms of a list of arguments, up to the first that has none. -/
def arguments (chain : ChainId) : List Native → Run ω (Option (List Canonical))
  | [] => return some []
  | value :: rest => do
    match ← chain.argument value with
    | none => return none
    | some value =>
      match ← chain.arguments rest with
      | none => return none
      | some values => return some (value :: values)

/-- An argument that must be a number. -/
def numberArgument (chain : ChainId) (value : Native) : Run ω (Option Double) := do
  match ← chain.argument value with
  | none => return none
  | some (.number x) => return some x
  | some other =>
    chain.report (notNumber other)
    return none

/-- Number arguments, up to the first that is none. -/
def numberArguments (chain : ChainId) : List Native → Run ω (Option (List Double))
  | [] => return some []
  | value :: rest => do
    match ← chain.numberArgument value with
    | none => return none
    | some x =>
      match ← chain.numberArguments rest with
      | none => return none
      | some xs => return some (x :: xs)

/-- Goes on with an argument that has a canonical form. -/
def withArgument (chain : ChainId) (value : Native) (use : Canonical → Run ω Unit) :
    Run ω Unit := do
  match ← chain.argument value with
  | some value => use value
  | none => return ()

def withArguments (chain : ChainId) (values : List Native) (use : List Canonical → Run ω Unit) :
    Run ω Unit := do
  match ← chain.arguments values with
  | some values => use values
  | none => return ()

/-- Goes on unless the list of arguments is empty, which is a failure. -/
def unlessEmpty {α : Type} (chain : ChainId) (values : List α) (body : Run ω Unit) : Run ω Unit :=
  if values.isEmpty then chain.report noArguments else body

end ChainId

abbrev ValueNode := Node Canonical
abbrev ObjectNode := Node (Fields Canonical)
abbrev ArrayNode := Node (List Canonical)
abbrev TextNode := Node String
abbrev NumberNode := Node Double
abbrev BooleanNode := Node Bool

namespace ChainId

variable {ω : Type}

def asObject (chain : ChainId) : Canonical → Run ω ObjectNode
  | .object fields => Node.spawn chain fields
  | other => Node.spawnFailed chain (.mismatch "object" other) []

def asArray (chain : ChainId) : Canonical → Run ω ArrayNode
  | .array items => Node.spawn chain items
  | other => Node.spawnFailed chain (.mismatch "array" other) []

def asText (chain : ChainId) : Canonical → Run ω TextNode
  | .text s => Node.spawn chain s
  | other => Node.spawnFailed chain (.mismatch "string" other) ""

def asNumber (chain : ChainId) : Canonical → Run ω NumberNode
  | .number x => Node.spawn chain x
  | other => Node.spawnFailed chain (.mismatch "number" other) (.zero false)

def asBoolean (chain : ChainId) : Canonical → Run ω BooleanNode
  | .bool b => Node.spawn chain b
  | other => Node.spawnFailed chain (.mismatch "boolean" other) false

end ChainId
end FluentAssert
