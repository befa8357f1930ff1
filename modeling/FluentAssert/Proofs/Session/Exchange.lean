import FluentAssert.Proofs.Chain.Calls

/-! Requests and responses in closed form. What a session shows without builders and matchers
depends on its client, on the state and the handler of its root, on the contents of its store and on
the journal, and on nothing else. -/
namespace FluentAssert

open FluentAssert.Http

variable {ω : Type}

/-- The response and the chain of the node, or why there is none; the outcomes that were delivered;
and the journal. -/
structure Showing where
  ending : Except String (Response × Chain)
  delivered : List Outcome
  journal : Journal

def Run.shows (run : Run ω ResponseNode) (world : World ω) : Showing where
  ending := (run world).1.map fun node => (node.value, (run world).2.chain node.chain)
  delivered := ((run world).2.calls.drop world.calls.length).map (·.2)
  journal := (run world).2.journal

namespace Session

def bare (session : Session ω) : Session ω := { session with builders := [], matchers := [] }

def answer (session : Session ω) (request : Request) : Except TransportError Response :=
  match session.client with
  | none => .error (.other "no client is configured")
  | some client => withinTime session.requestTimeout (client.reply request)

/-- What the client receives, if there is one. -/
def receipts (session : Session ω) (request : Request) : List FluentAssert.Entry :=
  session.client.toList.map fun _ => .sent request

def noResponse (e : TransportError) : Finding :=
  .failure .valid ("expected: request succeeds, but " ++ e.message)

def failureNote (e : TransportError) : FluentAssert.Entry :=
  .event .debug "request failed" [("error", e.message)]

def sendLabel (request : Request) : String :=
  "send(" ++ request.method ++ " " ++ request.url ++ ")"

section

variable (root : ChainId) (world : World ω) (label : String)

/-- The world with a child of the root inside one scope. -/
def opened : World ω :=
  (Run.happen (.entered world.fresh label) (Run.happen (.spawned root) world).2).2

theorem opened_has : (opened root world label).Has world.fresh :=
  Stage.has_after _ Stage.has_pushChain

theorem opened_child :
    (opened root world label).chain world.fresh = (world.chain root).inside label := by
  have has : (Run.happen (.spawned root) world).2.Has world.fresh := Stage.has_pushChain
  have copy : (Run.happen (.spawned root) world).2.chain world.fresh = world.chain root :=
    Stage.chain_pushChain_fresh
  have inside : (opened root world label).chain world.fresh =
      ((Run.happen (.spawned root) world).2.chain world.fresh).inside label :=
    Stage.chain_changeChain has
  rw [inside, copy]

end

theorem bare_runMatchers (session : Session ω) (run : Run ω ResponseNode) :
    (run >>= fun node => session.bare.runMatchers node) = run := runMatchers_nil session.bare run

section

variable {world : World ω} {child : ChainId}

end

/-- What is done with an answer inside the scope of the request. -/
def settle (child : ChainId) : Except TransportError Response → Run ω ResponseNode
  | .ok reply => Node.spawn child reply
  | .error e => do
    Run.record (failureNote e)
    Node.spawnFailed child (noResponse e) {}

def received (session : Session ω) (request : Request) (world : World ω) : World ω :=
  { opened session.chain world (sendLabel request) with
    journal := world.journal ++ (session.receipts request).toArray }

section

variable {session : Session ω} {request : Request} {world : World ω} {e : TransportError}

def noted (session : Session ω) (request : Request) (e : TransportError) (world : World ω) :
    World ω :=
  { session.received request world with
    journal := (session.received request world).journal.push (failureNote e) }

end

end Session
end FluentAssert
