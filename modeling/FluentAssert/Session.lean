import FluentAssert.Config

/-! Sessions: the entry points of assertions. Every entry starts a chain of its own under the root,
so that a failure under one entry stops nothing under another. -/
namespace FluentAssert

open FluentAssert.Http

structure Session (ω : Type) where
  chain : ChainId
  client : Option Client
  requestTimeout : Option Duration
  builders : List (Request → Request)
  matchers : List (ResponseNode → Run ω Unit)

namespace Session

variable {ω α : Type}

/-- A session, unless its configuration is refused. -/
def start? (config : Config ω) : Run ω (Except ConfigError (Session ω)) := do
  match ← config.root with
  | .error e => return .error e
  | .ok chain =>
    return .ok ⟨chain, config.client, config.requestTimeout, config.builders, config.matchers⟩

/-- A session; a configuration that is refused unwinds. -/
def start (config : Config ω) : Run ω (Session ω) := do
  match ← start? config with
  | .ok session => return session
  | .error e => Run.unwind ("invalid session configuration: " ++ e.message)

def withReporter (reporter : Sink) : Run ω (Session ω) := start { reporter := some reporter }

/-- The same session under another name for its root, which starts in the same state. -/
def clone (session : Session ω) : Run ω (Session ω) := do
  return { session with chain := ← session.chain.spawn }

/-- A copy that also changes requests with `builder`. -/
def builder (session : Session ω) (builder : Request → Request) : Run ω (Session ω) := do
  let copy ← session.clone
  return { copy with builders := copy.builders ++ [builder] }

/-- A copy that also checks responses with `matcher`. -/
def matcher (session : Session ω) (matcher : ResponseNode → Run ω Unit) : Run ω (Session ω) := do
  let copy ← session.clone
  return { copy with matchers := copy.matchers ++ [matcher] }

def env (session : Session ω) : Run ω Handle := do return ⟨← session.chain.spawn⟩

/-- Opens a chain and its first scope. -/
def enter (session : Session ω) (label : String) (build : ChainId → Run ω (Node α)) :
    Run ω (Node α) := do
  let chain ← session.chain.spawn
  chain.within label (build chain)

/-- The canonical form of a value; having none is a failure. -/
def input (chain : ChainId) (value : Native) : Run ω Canonical :=
  match Canonical.ofNative value with
  | .ok value => return value
  | .error e => do
    chain.report
      (.failure .valid ("unexpected value: cannot canonicalize input: " ++ e.message))
    return .null

def value (session : Session ω) (value : Native) : Run ω ValueNode :=
  session.enter "value()" fun chain => do Node.spawn chain (← input chain value)

def object (session : Session ω) (value : Native) : Run ω ObjectNode :=
  session.enter "object()" fun chain => do chain.asObject (← input chain value)

def array (session : Session ω) (value : Native) : Run ω ArrayNode :=
  session.enter "array()" fun chain => do chain.asArray (← input chain value)

def string (session : Session ω) (value : String) : Run ω TextNode :=
  session.enter "string()" fun chain => Node.spawn chain value

/-- A number as it is, be it finite or not. -/
def number (session : Session ω) (value : Double) : Run ω NumberNode :=
  session.enter "number()" fun chain => Node.spawn chain value

def boolean (session : Session ω) (value : Bool) : Run ω BooleanNode :=
  session.enter "boolean()" fun chain => Node.spawn chain value

def runMatchers (session : Session ω) (node : ResponseNode) : Run ω ResponseNode := do
  session.matchers.forM fun matcher => matcher node
  return node

def response (session : Session ω) (response : Response) : Run ω ResponseNode := do
  session.runMatchers (← session.enter "response()" fun chain => Node.spawn chain response)

/-- What comes of a reply within a limit of time. -/
def withinTime (timeout : Option Duration) (reply : Reply) : Except TransportError Response :=
  match timeout with
  | some timeout => if reply.delay.total ≤ timeout.total then reply.result else .error (.timeout timeout)
  | none => reply.result

def dispatch (session : Session ω) (request : Request) :
    Run ω (Except TransportError Response) :=
  match session.client with
  | none => return .error (.other "no client is configured")
  | some client => do
    Run.record (.sent request)
    return withinTime session.requestTimeout (client.reply request)

def build (session : Session ω) (request : Request) : Request :=
  session.builders.foldl (fun request change => change request) request

/-- Sends a request. Having no response is a failure, and the node holds an empty one. -/
def send (session : Session ω) (request : Request) : Run ω ResponseNode := do
  let request := session.build request
  let label := "send(" ++ request.method ++ " " ++ request.url ++ ")"
  session.runMatchers <| ← session.enter label fun chain => do
    match ← session.dispatch request with
    | .ok response => Node.spawn chain response
    | .error e =>
      Run.record (.event .debug "request failed" [("error", e.message)])
      Node.spawnFailed chain (.failure .valid ("expected: request succeeds, but " ++ e.message)) {}

def describe (session : Session ω) : Run ω String := do
  return describeRecord "Session"
    [("chain", (← session.chain.state).describe),
     ("client", toString session.client.isSome),
     ("request_timeout", describeOption Duration.text session.requestTimeout),
     ("builders", toString session.builders.length),
     ("matchers", toString session.matchers.length)]

end Session

/-- An assertion whose failures unwind. -/
def expect {ω : Type} (value : Native) : Run ω ValueNode := do
  (← Session.withReporter .fatal).value value

end FluentAssert
