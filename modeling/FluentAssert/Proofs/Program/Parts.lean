import FluentAssert.Proofs.Program
import FluentAssert.Proofs.Run.Local

/-! The parts of actions. An action moves a scope, uses a store, or is local: to the chain that it
is called on, or to a child that it spawns there first. -/
namespace FluentAssert

open FluentAssert.Http

variable {ω κ α : Type}

/-- The chain that an action is called on, if the action may touch it. Looking at a chain and using
a store do not. -/
def Action.subject : Action ω α → Option ChainId
  | .copy session => some session.chain
  | .handle session => some session.chain
  | .entry session _ => some session.chain
  | .response session _ => some session.chain
  | .send session _ => some session.chain
  | .check node _ => some node.chain
  | .step node _ => some node.chain
  | .iter node => some node.chain
  | .clone node => some node.chain
  | .read account _ => some account.chain
  | .use _ _ => none
  | .newStore => none
  | .useStore _ _ => none
  | .contents _ => none
  | .state _ => none
  | .spawn chain => some chain
  | .report chain _ => some chain
  | .enter chain _ => some chain
  | .leave chain => some chain

/-- Nothing is put into a store that unwinds once it leaves. -/
def Use.Harmless : Use α → Prop
  | .put _ value => value.alarm? = none
  | _ => True

/-- An action that leaves every scope that it enters, and leaves no other. -/
def Action.Nested : Action ω α → Prop
  | .enter _ _ => False
  | .leave _ => False
  | _ => True

/-- A program that opens scopes only for as long as a body runs. It may unwind, and may notice when
something does. -/
def Program.Nested {α : Type} : Program ω κ α → Prop
  | .andThen first next => first.Nested ∧ ∀ a, (next a).Nested
  | .act action => action.Nested
  | .within _ _ body => body.Nested
  | .observe body => body.Nested
  | .done _ | .start _ | .host _ | .unwind _ => True

/-- An action that unwinds only where a handler does, and that leaves every scope that it enters. -/
def Action.Plain : Action ω α → Prop
  | .use _ what => what.Harmless
  | .useStore _ what => what.Harmless
  | .enter _ _ => False
  | .leave _ => False
  | _ => True

/-- A program of sessions, actions and scopes, which neither unwinds by itself nor notices when
something does. -/
def Program.Plain {α : Type} : Program ω κ α → Prop
  | .done _ => True
  | .andThen first next => first.Plain ∧ ∀ a, (next a).Plain
  | .start _ => True
  | .act action => action.Plain
  | .host _ => True
  | .within _ _ body => body.Plain
  | .unwind _ => False
  | .observe _ => False

theorem Action.Plain.nested {action : Action ω α} (plain : action.Plain) : action.Nested := by
  cases action with
  | enter | leave => exact plain.elim
  | _ => trivial

theorem Program.Plain.nested {α : Type} {program : Program ω κ α} (plain : program.Plain) :
    program.Nested := by
  induction program with
  | andThen _ _ ihFirst ihNext => exact ⟨ihFirst plain.1, fun a => ihNext a (plain.2 a)⟩
  | act action => exact Action.Plain.nested plain
  | within _ _ _ ih => exact ih plain
  | done | start | host => trivial
  | unwind | observe => exact plain.elim

namespace Program

universe u

theorem nested_forEach {ι : Type u} {items : List ι} {visit : ι → Program ω κ Unit}
    (h : ∀ item, (visit item).Nested) : (forEach items visit).Nested := by
  induction items with
  | nil => trivial
  | cons item rest ih => exact ⟨h item, fun _ => ih⟩

theorem nested_eachItem {node : ArrayNode} {visit : Nat → ValueNode → Program ω κ Unit}
    (h : ∀ index item, (visit index item).Nested) : (eachItem node visit).Nested :=
  nested_forEach fun (_, index) => ⟨trivial, fun _ => h index _⟩

theorem nested_eachField {node : ObjectNode} {visit : String → ValueNode → Program ω κ Unit}
    (h : ∀ key item, (visit key item).Nested) : (eachField node visit).Nested :=
  nested_forEach fun (key, _) => ⟨trivial, fun _ => h key _⟩

end Program

/-- What runs of actions are made of: whether they are nested and plain, and the chain they are
called on. -/
inductive Parts : Prop → Prop → Option ChainId → {α : Type} → Run ω α → Prop where
  | on {own : ChainId} {α : Type} {run : Run ω α} : Local own run → Parts True True (some own) run
  | child {chain : ChainId} {α : Type} {body : ChainId → Run ω α} :
    (∀ child, Local child (body child)) → Parts True True (some chain) (chain.spawn >>= body)
  | free {α : Type} {run : Run ω α} : (∀ own, Local own run) → Parts True True none run
  | state (chain : ChainId) : Parts True True none chain.state
  | through {α : Type} (chain : ChainId) (use : Use α) :
    Parts True use.Harmless none (chain.state >>= fun state => use.perform state.store)
  | use {α : Type} (store : StoreId) (use : Use α) :
    Parts True use.Harmless none (use.perform store)
  | enter (chain : ChainId) (label : String) : Parts False False (some chain) (chain.enter label)
  | leave (chain : ChainId) : Parts False False (some chain) chain.leave

theorem Local.dispatch {own : ChainId} (session : Session ω) (request : Request) :
    Local own (session.dispatch request) := by
  unfold Session.dispatch
  cases session.client with
  | none => exact .pure _
  | some client => exact .bind (.record _ trivial) fun _ => .pure _

theorem runMatchers_nil (session : Session ω) (run : Run ω ResponseNode) :
    (run >>= fun node => { session with matchers := [] }.runMatchers node) = run := by
  simp only [Session.runMatchers, List.forM_eq_forM, List.forM_nil, pure_bind, bind_pure]

/-- An action that takes its chain only to make a child, and goes on with the child. -/
def Action.OfSession : Action ω α → Prop
  | .copy _ | .handle _ | .entry _ _ | .response _ _ | .send _ _ => True
  | _ => False

theorem Action.branches {action : Action ω α} (h : action.OfSession) :
    ∃ (root : ChainId) (body : ChainId → Run ω α), action.subject = some root ∧
      action.run = (root.spawn >>= body) ∧ ∀ child, Local child (body child) := by
  cases action with
  | copy session => exact ⟨session.chain, _, rfl, rfl, fun _ => .pure _⟩
  | handle session => exact ⟨session.chain, _, rfl, rfl, fun _ => .pure _⟩
  | entry session what =>
    obtain ⟨landing, h⟩ := Session.charted_perform what
    exact ⟨session.chain, _, rfl, h ω session, fun _ => .landing landing⟩
  | response session reply =>
    refine ⟨session.chain, _, rfl, runMatchers_nil session _, ?_⟩
    exact fun child => .within "response()" (.spawnNode reply)
  | send session request =>
    refine ⟨session.chain, _, rfl, runMatchers_nil session _, ?_⟩
    refine fun child => .within _ (.bind (.dispatch _ _) fun reply => ?_)
    cases reply with
    | ok reply => exact .spawnNode _
    | error e =>
      exact .bind (.record _ trivial) fun _ => .bind (.report _) fun _ => .spawnNode _
  | check | step | iter | clone | read | use | newStore | useStore | contents | state | spawn
  | report | enter | leave => exact h.elim

theorem Action.parts_branches (action : Action ω α) (h : action.OfSession) :
    Parts True True action.subject action.run := by
  obtain ⟨root, body, subject, whole, own⟩ := action.branches h
  rw [subject, whole]
  exact .child own

theorem Action.parts (action : Action ω α) :
    Parts action.Nested action.Plain action.subject action.run := by
  cases action with
  | copy session => exact parts_branches (.copy session) trivial
  | handle session => exact parts_branches (.handle session) trivial
  | entry session what => exact parts_branches (.entry session what) trivial
  | response session reply => exact parts_branches (.response session reply) trivial
  | send session request => exact parts_branches (.send session request) trivial
  | check node what => exact .on (.check node what)
  | step node what => exact .on (.step node what)
  | iter node => exact .on (.iter node)
  | clone node => exact .on (.clone node)
  | read account what => exact .on (.read account what)
  | use account what =>
    have whole : what.through (ω := ω) account =
        (account.chain.state >>= fun chain => what.perform chain.store) := by
      cases what <;> rfl
    show Parts True what.Harmless none (what.through account)
    rw [whole]
    exact .through account.chain what
  | newStore => exact .free fun _ => .newStore
  | useStore store what => exact .use store what
  | contents store => exact .free fun _ => .contents store
  | state chain => exact .state chain
  | spawn chain => exact .on .spawn
  | report chain finding => exact .on (.report finding)
  | enter chain label => exact .enter chain label
  | leave chain => exact .leave chain

theorem Composed.storeOf {about : ChainId → Prop} {P : {α : Type} → Run ω α → Prop}
    (composed : Composed about P) (config : Config ω) : P config.storeOf := by
  unfold Config.storeOf
  cases config.environment with
  | some store => exact composed.pure store
  | none => exact composed.newStore

theorem Composed.use {about : ChainId → Prop} {P : {α : Type} → Run ω α → Prop}
    (composed : Composed about P) {store : StoreId}
    (change : ∀ new leaving, P (store.change new leaving)) (use : Use α) :
    P (use.perform store) := by
  have contents : P store.contents := composed.contents store
  cases use with
  | put key value => exact composed.bind contents fun _ => change _ _
  | has key => exact composed.bind contents fun _ => composed.pure _
  | delete key =>
    apply composed.bind contents
    intro contents
    exact composed.bind (change _ _) fun _ => composed.pure _
  | clear => exact composed.bind contents fun _ => change _ _
  | keys => exact composed.bind contents fun _ => composed.pure _

/-- A property of runs that single steps have, and that runs keep which are put together from
others. Chains may be touched where `about` holds of them. -/
structure Closed (about : ChainId → Prop) (P : {α : Type} → Run ω α → Prop) : Prop where
  pure : ∀ {α : Type} (a : α), P (Pure.pure a)
  bind : ∀ {α β : Type} {first : Run ω α} {next : α → Run ω β},
    P first → (∀ a, P (next a)) → P (first >>= next)
  unwind : ∀ {α : Type} (reason : String), P (Run.unwind reason : Run ω α)
  world : P Run.world
  record : ∀ entry : Entry, entry.Own → P (Run.record entry)
  newHandler : ∀ handler, P (Run.newHandler handler)
  began : ∀ chain, P (Run.happen (.began chain))
  opened : P (Run.happen .opened)
  stored : ∀ store contents, P (Run.happen (.stored store contents))
  spawned : ∀ own, about own → P (Run.happen (.spawned own))
  report : ∀ own finding, about own → P (own.report finding)
  within : ∀ {α : Type} own label {body : Run ω α}, about own → P body → P (own.within label body)

namespace Closed

variable {about : ChainId → Prop} {P : {α : Type} → Run ω α → Prop}

theorem spawn (closed : Closed about P) {own : ChainId} (allowed : about own) : P own.spawn := by
  apply closed.bind closed.world
  intro world
  exact closed.bind (closed.spawned own allowed) fun _ => closed.pure _

theorem state (closed : Closed about P) (own : ChainId) : P own.state :=
  closed.bind closed.world fun _ => closed.pure _

theorem contents (closed : Closed about P) (store : StoreId) : P store.contents :=
  closed.bind closed.world fun _ => closed.pure _

theorem newStore (closed : Closed about P) : P Run.newStore := by
  apply closed.bind closed.world
  intro world
  exact closed.bind closed.opened fun _ => closed.pure _

theorem composed (closed : Closed about P) : Composed about P where
  pure := closed.pure
  bind := closed.bind
  within := closed.within
  state := closed.state
  spawn _ allowed := closed.spawn allowed
  report := closed.report
  newStore := closed.newStore
  contents := closed.contents
  record := closed.record

theorem of_local (closed : Closed about P) {own : ChainId} (allowed : about own) {run : Run ω α}
    (h : Local own run) : P run := closed.composed.of_local allowed h

theorem use (closed : Closed about P) (store : StoreId) (use : Use α) : P (use.perform store) := by
  apply closed.composed.use
  intro new leaving
  apply closed.bind (closed.stored store new)
  intro _
  cases Store.alarm? leaving with
  | none => exact closed.pure _
  | some reason => exact closed.unwind reason

theorem start (closed : Closed about P) (config : Config ω) : P (Session.start? config) := by
  have newChain (chain : Chain) : P (Run.newChain chain) := by
    apply closed.bind closed.world
    intro world
    exact closed.bind (closed.began chain) fun _ => closed.pure _
  have root : P config.root := by
    unfold Config.root
    cases config.handlerOf with
    | error e => exact closed.pure _
    | ok handler =>
      apply closed.bind (closed.composed.storeOf config)
      intro store
      apply closed.bind (closed.newHandler handler)
      intro id
      exact closed.bind (newChain _) fun _ => closed.pure _
  apply closed.bind root
  intro result
  cases result with
  | error e => exact closed.pure _
  | ok chain => exact closed.pure _

theorem of_parts (closed : Closed (fun _ => True) P) {nested plain : Prop}
    {subject : Option ChainId} {run : Run ω α} (h : Parts nested plain subject run)
    (holds : nested) : P run := by
  cases h with
  | on h => exact closed.of_local trivial h
  | child h =>
    apply closed.bind (closed.spawn trivial)
    intro child
    exact closed.of_local trivial (h child)
  | free h => exact closed.of_local trivial (h ⟨0⟩)
  | state chain => exact closed.state chain
  | through chain use => exact closed.bind (closed.state chain) fun _ => closed.use _ use
  | use store use => exact closed.use store use
  | enter | leave => exact holds.elim

end Closed
end FluentAssert
