import FluentAssert.Run
import FluentAssert.Text.Quoted

/-! Chains carry failure. A failing outcome marks its chain before the handler is called, and from
then on nothing of that chain is delivered. A child starts as a copy; afterwards the two are
independent. -/
namespace FluentAssert

namespace Run

variable {ω : Type}

def newHandler (handler : Handler) : Run ω HandlerId := fun world =>
  (.ok ⟨world.handlers.size⟩, { world with handlers := world.handlers.push handler })

def newChain (chain : Chain) : Run ω ChainId := do
  let id : ChainId := ⟨(← world).chains.size⟩
  happen (.began chain)
  return id

def newStore : Run ω StoreId := do
  let id : StoreId := ⟨(← world).stores.size⟩
  happen .opened
  return id

end Run

namespace ChainId

variable {ω α : Type}

def state (id : ChainId) : Run ω Chain := do return (← Run.world).chain id

def isFailed (id : ChainId) : Run ω Bool := do return (← id.state).failed

def path (id : ChainId) : Run ω (List String) := do return (← id.state).path

def enter (id : ChainId) (label : String) : Run ω Unit := Run.happen (.entered id label)

def leave (id : ChainId) : Run ω Unit := Run.happen (.left id)

/-- Runs inside a scope, which is closed however the run ends. -/
def within (id : ChainId) (label : String) (body : Run ω α) : Run ω α := do
  id.enter label
  let ending ← Run.observe body
  id.leave
  Run.conclude ending

def spawn (id : ChainId) : Run ω ChainId := do
  let child : ChainId := ⟨(← Run.world).chains.size⟩
  Run.happen (.spawned id)
  return child

def suppressed (chain : Chain) (finding : Finding) : Entry :=
  .event .trace "assertion suppressed on failed chain"
    [("kind", finding.kind.title), ("path", chain.place.pathText)]

def deliver (id : ChainId) (outcome : Outcome) : Run ω Unit := do
  Run.happen (.called id outcome)
  let world ← Run.world
  let handler := world.handler (world.chain id).handler
  Run.callOut (handler.receive outcome (world.store outcome.place.store))

/-- Delivers a finding to the handler, unless the chain has failed. -/
def report (id : ChainId) (finding : Finding) : Run ω Unit := do
  let chain ← id.state
  if chain.failed then Run.record (suppressed chain finding)
  else
    if !finding.passed then Run.happen (.failed id)
    id.deliver ⟨chain.place, finding⟩

def whileLive (id : ChainId) (body : Run ω Unit) : Run ω Unit := do
  if ← id.isFailed then return () else body

end ChainId

def describeOption {α : Type} (describe : α → String) : Option α → String
  | none => "None"
  | some a => "Some(" ++ describe a ++ ")"

def describeList (items : List String) : String :=
  "[" ++ ", ".intercalate (items.map Text.quoted) ++ "]"

def describeRecord (name : String) (fields : List (String × String)) : String :=
  name ++ " \x7b " ++ ", ".intercalate (fields.map fun (field, value) => field ++ ": " ++ value) ++
    " \x7d"

def Chain.describe (chain : Chain) : String :=
  describeRecord "Chain"
    [("test_name", describeOption Text.quoted chain.testName), ("path", describeList chain.path),
     ("failed", toString chain.failed)]

def Store.describe (store : Store) : String :=
  describeRecord "Environment" [("keys", describeList (Fields.keys store))]

end FluentAssert
