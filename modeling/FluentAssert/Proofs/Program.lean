import FluentAssert.Proofs.Operation
import FluentAssert.Proofs.Run.Laws

/-! Programs: what the code around the assertions does with them. A program may start sessions,
branch on every answer, keep state of its own, open scopes, unwind, and catch what unwinds. It knows
configurations by name only, so one program can be run with several. Callbacks and matchers are
programs too. -/
namespace FluentAssert

open FluentAssert.Http

inductive Action (ω : Type) : Type → Type 1 where
  | copy (session : Session ω) : Action ω (Session ω)
  | handle (session : Session ω) : Action ω Handle
  | entry {kind : NodeKind} (session : Session ω) (entry : Session.Entry kind) :
    Action ω (Node (Held kind))
  | response (session : Session ω) (response : Response) : Action ω ResponseNode
  | send (session : Session ω) (request : Request) : Action ω ResponseNode
  | check {kind : NodeKind} (node : Node (Held kind)) (check : Check kind) : Action ω Unit
  | step {kind target : NodeKind} (node : Node (Held kind)) (step : Step kind target) :
    Action ω (Node (Held target))
  | iter (node : ArrayNode) : Action ω (List ValueNode)
  | clone {kind : NodeKind} (node : Node (Held kind)) : Action ω (Node (Held kind))
  | read {α : Type} (handle : Handle) (read : Read α) : Action ω α
  | use {α : Type} (handle : Handle) (use : Use α) : Action ω α
  | newStore : Action ω StoreId
  | useStore {α : Type} (store : StoreId) (use : Use α) : Action ω α
  | contents (store : StoreId) : Action ω Store
  | state (chain : ChainId) : Action ω Chain
  | spawn (chain : ChainId) : Action ω ChainId
  | report (chain : ChainId) (finding : Finding) : Action ω Unit
  | enter (chain : ChainId) (label : String) : Action ω Unit
  | leave (chain : ChainId) : Action ω Unit

universe u

variable {ω κ α β : Type}

def Action.run : Action ω α → Run ω α
  | .copy session => session.clone
  | .handle session => session.env
  | .entry session what => what.perform session
  | .response session reply => { session with matchers := [] }.response reply
  | .send session request => { session with matchers := [] }.send request
  | .check node what => what.perform node
  | .step node what => what.perform node
  | .iter node => node.iter
  | .clone node => node.clone
  | .read account what => what.perform account
  | .use account what => what.through account
  | .newStore => Run.newStore
  | .useStore store what => what.perform store
  | .contents store => store.contents
  | .state chain => chain.state
  | .spawn chain => chain.spawn
  | .report chain finding => chain.report finding
  | .enter chain label => chain.enter label
  | .leave chain => chain.leave

inductive Program (ω κ : Type) : Type → Type 1 where
  | done {α : Type} (a : α) : Program ω κ α
  | andThen {α β : Type} (first : Program ω κ α) (next : α → Program ω κ β) : Program ω κ β
  | start (name : κ) : Program ω κ (Except ConfigError (Session ω))
  | act {α : Type} (action : Action ω α) : Program ω κ α
  | host {α : Type} (change : ω → α × ω) : Program ω κ α
  | within {α : Type} (chain : ChainId) (label : String) (body : Program ω κ α) : Program ω κ α
  | unwind {α : Type} (reason : String) : Program ω κ α
  | observe {α : Type} (body : Program ω κ α) : Program ω κ (Except String α)

def Run.onHost (change : ω → α × ω) : Run ω α := fun world =>
  (.ok (change world.host).1, { world with host := (change world.host).2 })

namespace Program

def run (configs : κ → Config ω) {α : Type} : Program ω κ α → Run ω α
  | .done a => return a
  | .andThen first next => first.run configs >>= fun a => (next a).run configs
  | .start name => Session.start? (configs name)
  | .act action => action.run
  | .host change => Run.onHost change
  | .within chain label body => chain.within label (body.run configs)
  | .unwind reason => Run.unwind reason
  | .observe body => Run.observe (body.run configs)

def forEach {ι : Type u} (items : List ι) (visit : ι → Program ω κ Unit) : Program ω κ Unit :=
  match items with
  | [] => .done ()
  | item :: rest => .andThen (visit item) fun _ => forEach rest visit

theorem run_forEach {ι : Type u} (configs : κ → Config ω) (items : List ι)
    (visit : ι → Program ω κ Unit) :
    (forEach items visit).run configs = items.forM fun item => (visit item).run configs := by
  induction items with
  | nil => rfl
  | cons item rest ih => simp only [forEach, run, ih, List.forM_eq_forM, List.forM_cons]

def eachItem (node : ArrayNode) (visit : Nat → ValueNode → Program ω κ Unit) : Program ω κ Unit :=
  forEach node.value.zipIdx fun (value, index) =>
    .within node.chain ("each()[" ++ toString index ++ "]") <|
      .andThen (.act (.spawn node.chain)) fun child => visit index ⟨child, value⟩

theorem run_eachItem (configs : κ → Config ω) (node : ArrayNode)
    (visit : Nat → ValueNode → Program ω κ Unit) :
    (eachItem node visit).run configs =
      node.each fun index item => (visit index item).run configs := by
  simp only [eachItem, run_forEach, ArrayNode.each, run, Action.run, Node.spawn, bind_assoc,
    pure_bind]

def eachField (node : ObjectNode) (visit : String → ValueNode → Program ω κ Unit) :
    Program ω κ Unit :=
  forEach node.value fun (key, value) =>
    .within node.chain ("each()[" ++ Text.quoted key ++ "]") <|
      .andThen (.act (.spawn node.chain)) fun child => visit key ⟨child, value⟩

theorem run_eachField (configs : κ → Config ω) (node : ObjectNode)
    (visit : String → ValueNode → Program ω κ Unit) :
    (eachField node visit).run configs =
      node.each fun key item => (visit key item).run configs := by
  simp only [eachField, run_forEach, ObjectNode.each, run, Action.run, Node.spawn, bind_assoc,
    pure_bind]

def withMatchers (configs : κ → Config ω) (session : Session ω)
    (matchers : List (ResponseNode → Program ω κ Unit)) : Session ω :=
  { session with matchers := matchers.map fun matcher node => (matcher node).run configs }

def matched (node : ResponseNode) (matchers : List (ResponseNode → Program ω κ Unit)) :
    Program ω κ ResponseNode :=
  .andThen (forEach matchers fun matcher => matcher node) fun _ => .done node

def response (session : Session ω) (matchers : List (ResponseNode → Program ω κ Unit))
    (response : Response) : Program ω κ ResponseNode :=
  .andThen (.act (.response session response)) fun node => matched node matchers

def send (session : Session ω) (matchers : List (ResponseNode → Program ω κ Unit))
    (request : Request) : Program ω κ ResponseNode :=
  .andThen (.act (.send session request)) fun node => matched node matchers

/-- A response that matchers look at is a program when the matchers are. -/
theorem run_response (configs : κ → Config ω) (session : Session ω)
    (matchers : List (ResponseNode → Program ω κ Unit)) (reply : Response) :
    (response session matchers reply).run configs =
      (withMatchers configs session matchers).response reply := by
  simp only [response, matched, run, run_forEach, Action.run, Session.response, Session.runMatchers,
    withMatchers, List.forM_eq_forM, List.forM_map, List.forM_nil, bind_assoc, pure_bind]
  rfl

theorem run_send (configs : κ → Config ω) (session : Session ω)
    (matchers : List (ResponseNode → Program ω κ Unit)) (request : Request) :
    (send session matchers request).run configs =
      (withMatchers configs session matchers).send request := by
  simp only [send, matched, run, run_forEach, Action.run, Session.send, Session.runMatchers,
    withMatchers, List.forM_eq_forM, List.forM_map, List.forM_nil, bind_assoc, pure_bind]
  rfl

end Program
end FluentAssert
