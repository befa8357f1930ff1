import FluentAssert.Handler

/-! Runs of assertions. A run changes a world and either returns or unwinds; a world keeps what was
done to it in both cases. Chains and stores change by events only, and a world remembers them. The
host part of a world belongs to the code that surrounds the assertions. -/
namespace FluentAssert

structure ChainId where
  index : Nat
  deriving DecidableEq, Repr

structure HandlerId where
  index : Nat
  deriving DecidableEq, Repr

/-- The state that one node owns: its breadcrumb, outermost scope first, and whether it failed. -/
structure Chain where
  testName : Option String
  path : List String
  failed : Bool
  handler : HandlerId
  store : StoreId
  deriving DecidableEq, Repr

/-- Where there is no chain, nothing is delivered. -/
instance : Inhabited Chain := ⟨none, [], true, ⟨0⟩, ⟨0⟩⟩

def Chain.place (chain : Chain) : Place := ⟨chain.testName, chain.path, chain.store⟩

/-- What happens in a run: changes of chains and stores, and calls of handlers. -/
inductive Event where
  | began (chain : Chain)
  | spawned (parent : ChainId)
  | entered (chain : ChainId) (label : String)
  | left (chain : ChainId)
  | failed (chain : ChainId)
  | called (chain : ChainId) (outcome : Outcome)
  | opened
  | stored (store : StoreId) (contents : Store)

/-- Chains and stores, each under its number. -/
structure Stage where
  chains : Array Chain
  stores : Array Store

namespace Stage

def chain (stage : Stage) (id : ChainId) : Chain := stage.chains.getD id.index default

def store (stage : Stage) (id : StoreId) : Store := stage.stores.getD id.index []

def changeChain (id : ChainId) (change : Chain → Chain) (stage : Stage) : Stage :=
  { stage with chains := stage.chains.modify id.index change }

def pushChain (chain : Chain) (stage : Stage) : Stage :=
  { stage with chains := stage.chains.push chain }

/-- The stage that an event leaves. -/
def after (stage : Stage) : Event → Stage
  | .began chain => stage.pushChain chain
  | .spawned parent => stage.pushChain (stage.chain parent)
  | .entered id label =>
    stage.changeChain id fun chain => { chain with path := chain.path ++ [label] }
  | .left id => stage.changeChain id fun chain => { chain with path := chain.path.dropLast }
  | .failed id => stage.changeChain id fun chain => { chain with failed := true }
  | .called _ _ => stage
  | .opened => { stage with stores := stage.stores.push [] }
  | .stored id contents => { stage with stores := stage.stores.modify id.index fun _ => contents }

end Stage

structure World (ω : Type) extends Stage where
  handlers : Array Handler
  journal : Journal
  host : ω
  /-- Every event so far. Nothing reads it. -/
  history : Array Event

namespace World

variable {ω : Type}

def start (host : ω) : World ω := ⟨⟨#[], #[]⟩, #[], #[], host, #[]⟩

def handler (world : World ω) (id : HandlerId) : Handler := world.handlers.getD id.index .audit

end World

/-- The result, or the reason for unwinding, and the world that is left. -/
def Run (ω α : Type) : Type := World ω → Except String α × World ω

namespace Run

variable {ω ν α β : Type}

def bind (run : Run ω α) (next : α → Run ω β) : Run ω β := fun world =>
  match run world with
  | (.ok a, world) => next a world
  | (.error reason, world) => (.error reason, world)

instance : Monad (Run ω) where
  pure a := fun world => (.ok a, world)
  bind := bind

def world : Run ω (World ω) := fun world => (.ok world, world)

def modify (change : World ω → World ω) : Run ω Unit := fun world => (.ok (), change world)

def unwind (reason : String) : Run ω α := fun world => (.error reason, world)

/-- Runs to the end, whichever it is. -/
def observe (run : Run ω α) : Run ω (Except String α) := fun world =>
  let (ending, world) := run world
  (.ok ending, world)

/-- Ends as a run that was observed. -/
def conclude (ending : Except String α) : Run ω α := fun world => (ending, world)

/-- Runs with a part of the host in place of the whole. -/
def onPart (part : ω → ν) (replace : ω → ν → ω) (run : Run ν α) : Run ω α := fun world =>
  let (ending, after) := run { world with host := part world.host }
  (ending, { after with host := replace world.host after.host })

def happen (event : Event) : Run ω Unit :=
  modify fun world =>
    { world with toStage := world.toStage.after event, history := world.history.push event }

def record (entry : Entry) : Run ω Unit :=
  modify fun world => { world with journal := world.journal.push entry }

/-- A call to the outside. -/
def callOut (call : Journal → Aftermath) : Run ω Unit := fun world =>
  let after := call world.journal
  let world := { world with journal := after.journal }
  match after.unwound with
  | none => (.ok (), world)
  | some reason => (.error reason, world)

end Run
end FluentAssert
