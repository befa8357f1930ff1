import FluentAssert.Proofs.Node.Calls
import FluentAssert.Proofs.Program.Scopes

/-! Truthful breadcrumbs. In a nested program the path of a chain is at every moment made of the
scopes that are open on it, and every outcome carries the path of that moment, with the label of the
operation at its end, and the test and store of the session it comes from. -/
namespace FluentAssert

open FluentAssert.Http

variable {ω κ α β : Type} {own : ChainId} {label : String}

/-- Events of one chain that open and close no scope, and say where they are. -/
structure Plainly (own : ChainId) (stage : Stage) (events : List Event) : Prop where
  flat : ∀ event ∈ events, event.Flat
  about : ∀ event ∈ events, ∀ id, event.chain? = some id → id = own
  placed : Placed stage events

/-- A run on one chain that opens and closes no scope. -/
def FlatRun (own : ChainId) (run : Run ω α) : Prop := Traces (Plainly own) run

theorem Plainly.append {stage : Stage} {first rest : List Event} (h : Plainly own stage first)
    (h' : Plainly own (stage.replay first) rest) : Plainly own stage (first ++ rest) where
  flat event member := (List.mem_append.mp member).elim (h.flat event) (h'.flat event)
  about event member := (List.mem_append.mp member).elim (h.about event) (h'.about event)
  placed := h.placed.append h'.placed

namespace FlatRun

theorem still {run : Run ω α} (h : ∀ world, Follows world [] (run world).2) : FlatRun own run :=
  Traces.still (fun _ => ⟨by simp, by simp, trivial⟩) h

theorem pure (a : α) : FlatRun (ω := ω) own (Pure.pure a) := still .refl

theorem bind {first : Run ω α} {next : α → Run ω β} (hf : FlatRun own first)
    (hn : ∀ a, FlatRun own (next a)) : FlatRun own (first >>= next) :=
  Traces.bind .append hf hn

theorem report (finding : Finding) : FlatRun (ω := ω) own (own.report finding) :=
  Traces.report fun stage =>
    ⟨Event.flat_ofReport, fun _ member _ => Event.about_ofReport member, .report stage own finding⟩

theorem spawnNode (value : α) : FlatRun (ω := ω) own (Node.spawn own value) := by
  have spawned : FlatRun (ω := ω) own own.spawn := by
    intro world
    refine ⟨[.spawned own], .happen world trivial, ?_, ?_, .one trivial⟩
    · exact fun event member => List.mem_singleton.mp member ▸ trivial
    · intro event member id same
      cases List.mem_singleton.mp member
      exact (Option.some.inj same).symm
  exact bind spawned fun _ => pure _

theorem reportAll (findings : List Finding) : FlatRun (ω := ω) own (own.reportAll findings) := by
  induction findings with
  | nil => exact pure ()
  | cons finding rest ih => exact bind (report finding) fun _ => ih

theorem ifLive {neutral : α} {body : Run ω α} (h : FlatRun own body) :
    FlatRun own (own.isFailed >>= fun failed => if failed then Pure.pure neutral else body) := by
  apply bind (still .refl)
  intro failed
  cases failed with
  | true => exact pure neutral
  | false => exact h

theorem send (session : Session ω) (request : Request) :
    FlatRun own (session.dispatch request >>= fun
      | .ok response => Node.spawn own response
      | .error e => do
        Run.record (.event .debug "request failed" [("error", e.message)])
        Node.spawnFailed own (.failure .valid ("expected: request succeeds, but " ++ e.message))
          {}) := by
  have record (entry : Entry) (mine : entry.Own) : FlatRun (ω := ω) own (Run.record entry) :=
    still fun world => .still rfl (.one (.entry entry world mine))
  apply bind
  · unfold Session.dispatch
    cases session.client with
    | none => exact pure _
    | some client => exact bind (record _ trivial) fun _ => pure _
  · intro reply
    cases reply with
    | ok response => exact spawnNode response
    | error e => exact bind (record _ trivial) fun _ => bind (report _) fun _ => spawnNode _

end FlatRun

/-- A run of one scope on a chain, in which no other scope is opened or closed. -/
def Headed (own : ChainId) (label : String) (run : Run ω α) : Prop :=
  Traces (fun stage events => ∃ flat, events = .entered own label :: (flat ++ [.left own]) ∧
    Plainly own (stage.after (.entered own label)) flat) run

namespace Headed

theorem within {body : Run ω α} (h : FlatRun own body) :
    Headed own label (own.within label body) :=
  Traces.within label (fun flat => ⟨_, rfl, flat⟩) h

theorem landing (landing : Landing β) : Headed (ω := ω) own landing.label (landing.perform own) :=
  within (.bind (.reportAll _) fun _ => .spawnNode _)

theorem check {kind : NodeKind} (node : Node (Held kind)) (what : Check kind) :
    ∃ label, Headed (ω := ω) node.chain label (what.perform node) := by
  obtain ⟨plan, same⟩ := what.planned node.value
  have whole : what.perform node = plan.perform node.chain := same ω node.chain
  refine ⟨plan.label, ?_⟩
  rw [whole]
  apply within
  cases plan.live with
  | true => exact .ifLive (.reportAll _)
  | false => exact .reportAll _

theorem step {kind target : NodeKind} (node : Node (Held kind)) (what : Step kind target) :
    ∃ label, Headed (ω := ω) node.chain label (what.perform node) := by
  obtain ⟨scheme, same⟩ := what.charted node.value
  have whole : what.perform node = scheme.perform node.chain := same ω node.chain
  exact ⟨scheme.label, whole ▸ landing scheme⟩

theorem read (handle : Handle) (what : Read α) :
    ∃ label, Headed (ω := ω) handle.chain label (what.perform handle) := by
  let inquiry := what.inquiry
  have whole : what.perform handle = inquiry.perform (ω := ω) handle := what.perform_inquiry handle
  have look : FlatRun (ω := ω) handle.chain (handle.store >>= StoreId.contents) := .still .refl
  have settled := look.bind fun contents =>
    (FlatRun.reportAll (inquiry.findings contents)).bind fun _ => .pure (inquiry.answer contents)
  refine ⟨inquiry.label, ?_⟩
  rw [whole]
  apply within
  apply FlatRun.ifLive
  rwa [bind_assoc] at settled

theorem moment {stage : Stage} {flat before after : List Event} {outcome : Outcome}
    (calm : ∀ event ∈ flat, event.Flat) (has : stage.Has own)
    (split : .entered own label :: (flat ++ [.left own]) = before ++ .called own outcome :: after) :
    openScopes own [] before = some [label] ∧
      ((stage.replay before).chain own).path = (stage.chain own).path ++ [label] := by
  have scopes : openScopes own [] before = some [label] := by
    cases before with
    | nil => cases split
    | cons first before =>
      obtain ⟨rfl, tail⟩ := List.cons.inj split
      -- The call is not the last event, which closes the scope, so all before it is inside.
      have inside : ∀ event ∈ before, event ∈ flat := by
        rcases List.append_eq_append_iff.mp tail with ⟨rest, rfl, last⟩ | ⟨rest, rfl, _⟩
        · cases rest with
          | nil => cases last
          | cons event rest => cases rest <;> cases last
        · exact fun event member => List.mem_append_left _ member
      rw [openScopes, Event.scopes, if_pos rfl, Option.bind_some]
      exact openScopes_flat fun event member => calm event (inside event member)
  exact ⟨scopes, Stage.path_replay has scopes (List.append_nil _).symm⟩

end Headed

/-- Whatever an operation calls a handler with is signed: it carries the path of the chain that the
operation is called on, followed by the label of the one scope that the calling chain has open. -/
def Signed (subject : Option ChainId) (label : String) (run : Run ω α) : Prop :=
  ∀ (world : World ω) (events : List Event), Follows world events (run world).2 →
    (∀ chain, subject = some chain → world.Has chain) →
    ∀ before id outcome after, events = before ++ .called id outcome :: after →
      openScopes id [] before = some [label] ∧
        ∃ chain, subject = some chain ∧
          outcome.place.path = (world.chain chain).path ++ [label]

theorem Follows.unique {first last : World ω} {events others : List Event}
    (h : Follows first events last) (h' : Follows first others last) : events = others :=
  List.append_cancel_left (h.history.symm.trans h'.history)

namespace Signed

theorem headed {run : Run ω α} (headed : Headed own label run) : Signed (some own) label run := by
  intro world events follows has before id outcome after split
  obtain ⟨_, follows', flat, rfl, plainly⟩ := headed world
  cases follows'.unique follows
  have placed : Placed world.toStage (.entered own label :: (flat ++ [.left own])) :=
    ⟨trivial, plainly.placed.append (.one trivial)⟩
  have mine : id = own := by
    have member : Event.called id outcome ∈ Event.entered own label :: (flat ++ [.left own]) := by
      simp [split]
    rcases List.mem_cons.mp member with first | member
    · cases first
    · rcases List.mem_append.mp member with inner | last
      · exact plainly.about _ inner id rfl
      · cases List.mem_singleton.mp last
  cases mine
  obtain ⟨scopes, path⟩ := Headed.moment plainly.flat (has _ rfl) split
  have place := (split ▸ placed).moment
  exact ⟨scopes, _, rfl, (congrArg Place.path place).trans path⟩

theorem child {chain : ChainId} {body : ChainId → Run ω α}
    (h : ∀ child, Headed child label (body child)) :
    Signed (some chain) label (chain.spawn >>= body) := by
  intro world events follows has before id outcome after split
  obtain ⟨later, follows', _⟩ := h world.fresh (Run.happen (.spawned chain) world).2
  have spawned : Follows world [.spawned chain] (Run.happen (.spawned chain) world).2 :=
    .happen world trivial
  cases (spawned.trans follows').unique follows
  cases before with
  | nil => cases split
  | cons first before =>
    -- What is left after the spawning is the operation of the child, in the world it starts from.
    obtain ⟨rfl, tail⟩ := List.cons.inj split
    have there : ∀ child, some world.fresh = some child →
        (Run.happen (.spawned chain) world).2.Has child := by
      intro child same
      cases same
      exact Stage.has_pushChain
    obtain ⟨scopes, child, same, path⟩ :=
      headed (h world.fresh) _ later follows' there before id outcome after tail
    have copy : (Run.happen (.spawned chain) world).2.chain world.fresh = world.chain chain :=
      Stage.chain_pushChain_fresh
    cases same
    exact ⟨scopes, chain, rfl, copy ▸ path⟩

theorem silent {subject : Option ChainId} {run : Run ω α}
    (h : ∀ world, (run world).2.calls = world.calls) : Signed subject label run := by
  intro world events follows _ before id outcome after split
  have quiet : events.filterMap Event.call? = [] := by
    have calls := follows.transitions.calls.symm.trans (h world)
    exact List.append_right_eq_self.mp calls
  have member : Event.called id outcome ∈ events := by simp [split]
  have heard := List.filterMap_eq_nil_iff.mp quiet _ member
  cases heard

theorem unheard {subject : Option ChainId} {run : Run ω α}
    (h : ∀ world, Tells own world run []) : Signed subject label run :=
  silent fun world => (h world).heard.quiet

theorem happen {subject : Option ChainId} {event : Event} (h : event.call? = none) :
    Signed (ω := ω) subject label (Run.happen event) := by
  refine silent fun world => ?_
  rw [Heard.calls_happen, h]
  exact List.append_nil _

end Signed

/-- An operation of a node, a session or an environment; a bare report has no label of its own. -/
def Action.Labelled : Action ω α → Prop
  | .report _ _ => False
  | _ => True

theorem Action.signed (action : Action ω α) (labelled : action.Labelled) :
    ∃ label, Signed action.subject label action.run := by
  cases action with
  | check node what => exact (Headed.check node what).imp fun _ => .headed
  | step node what => exact (Headed.step node what).imp fun _ => .headed
  | read account what => exact (Headed.read account what).imp fun _ => .headed
  | entry session what =>
    obtain ⟨landing, same⟩ := Session.charted_perform what
    refine ⟨landing.label, ?_⟩
    show Signed (some session.chain) _ (what.perform session)
    rw [same ω session]
    exact .child fun _ => .landing landing
  | response session reply =>
    refine ⟨"response()", ?_⟩
    simp only [Action.run, Session.response, runMatchers_nil]
    exact .child fun _ => .within (.spawnNode reply)
  | send session request =>
    let sent := session.build request
    refine ⟨"send(" ++ sent.method ++ " " ++ sent.url ++ ")", ?_⟩
    simp only [Action.run, Session.send, runMatchers_nil]
    exact .child fun _ => .within (.send _ _)
  | copy session => exact ⟨"", .unheard fun world => .map _ .spawn⟩
  | handle session => exact ⟨"", .unheard fun world => .map _ .spawn⟩
  | clone node => exact ⟨"", .unheard fun world => .map _ .spawn⟩
  | iter node => exact ⟨"", .unheard fun world => .iter _⟩
  | spawn chain => exact ⟨"", .unheard fun world => .spawn⟩
  | enter chain label => exact ⟨"", .happen rfl⟩
  | leave chain => exact ⟨"", .happen rfl⟩
  | use account what => exact ⟨"", .silent fun world => (Heard.through account what world).quiet⟩
  | useStore store what => exact ⟨"", .silent fun world => (Heard.use ⟨0⟩ store what world).quiet⟩
  | newStore =>
    have quiet (world : World ω) : (Run.happen .opened world).2.calls = world.calls :=
      (Heard.calls_happen .opened world).trans (List.append_nil _)
    exact ⟨"", .silent quiet⟩
  | contents store => exact ⟨"", .silent fun _ => rfl⟩
  | state chain => exact ⟨"", .silent fun _ => rfl⟩
  | report => exact labelled.elim

/-- The root of a session is a new chain outside of all scopes, with the test and the store of the
configuration, or with a new store. -/
structure Rooted (config : Config ω) (world last : World ω) (root : ChainId) : Prop where
  new : root = world.fresh ∧ last.Has root
  path : (last.chain root).path = []
  testName : (last.chain root).testName = config.testName
  shared : ∀ store, config.environment = some store → (last.chain root).store = store
  own : config.environment = none → (last.chain root).store = ⟨world.stores.size⟩

theorem Config.root_chain {config : Config ω} {world last : World ω} {root : ChainId}
    (returns : config.root world = (.ok (.ok root), last)) :
    root = world.fresh ∧ last.Has root ∧ ∃ handler store,
      last.chain root = ⟨config.testName, [], false, handler, store⟩ ∧
      store = config.environment.getD ⟨world.stores.size⟩ := by
  have begin (chain : Chain) (before : World ω) (same : before.chains = world.chains) :
      (Run.happen (.began chain) before).2.Has world.fresh ∧
        (Run.happen (.began chain) before).2.chain world.fresh = chain := by
    have fresh : world.fresh = before.fresh := by
      rw [Stage.fresh, Stage.fresh, same]
    rw [fresh]
    exact ⟨Stage.has_pushChain, Stage.chain_pushChain_fresh⟩
  unfold Config.root at returns
  cases chosen : config.handlerOf with
  | error e =>
    rw [chosen] at returns
    cases returns
  | ok handler =>
    rw [chosen] at returns
    cases environment : config.environment with
    | some store =>
      simp only [Config.storeOf, environment, pure_bind] at returns
      cases returns
      obtain ⟨has, chain⟩ := begin ⟨config.testName, [], false, ⟨world.handlers.size⟩, store⟩
        { world with handlers := world.handlers.push handler } rfl
      exact ⟨rfl, has, _, _, chain, rfl⟩
    | none =>
      simp only [Config.storeOf, environment] at returns
      cases returns
      obtain ⟨has, chain⟩ := begin
        ⟨config.testName, [], false, ⟨world.handlers.size⟩, ⟨world.stores.size⟩⟩
        { (Run.happen .opened world).2 with handlers := world.handlers.push handler } rfl
      exact ⟨rfl, has, _, _, chain, rfl⟩

theorem Session.start?_root {config : Config ω} {world last : World ω} {session : Session ω}
    (returns : start? config world = (.ok (.ok session), last)) :
    config.root world = (.ok (.ok session.chain), last) ∧ session =
      ⟨session.chain, config.client, config.requestTimeout, config.builders, config.matchers⟩ := by
  unfold start? at returns
  rw [Run.bind_apply] at returns
  rcases root : config.root world with ⟨ending, middle⟩
  rw [root] at returns
  rcases ending with reason | (e | chain)
  · cases returns
  · cases returns
  · cases returns
    exact ⟨rfl, rfl⟩

theorem Session.start?_rooted {config : Config ω} {world last : World ω} {session : Session ω}
    (returns : start? config world = (.ok (.ok session), last)) :
    Rooted config world last session.chain := by
  obtain ⟨new, has, handler, store, chain, same⟩ := Config.root_chain (start?_root returns).1
  have own : (last.chain session.chain).store = config.environment.getD ⟨world.stores.size⟩ := by
    rw [chain, same]
  refine ⟨⟨new, has⟩, by rw [chain], by rw [chain], ?_, ?_⟩
  · intro store shared
    rw [own, shared]
    rfl
  · intro none
    rw [own, none]
    rfl

/-- How the paths of chains and the places of outcomes go with the scopes that events open. -/
structure Truthful (stage : Stage) (events : List Event) : Prop where
  /-- From a moment when no scope is open on a chain, its path grows by the scopes that are open on
  it, outermost first, at every later moment. -/
  path : ∀ before between after id, events = before ++ between ++ after →
    (stage.replay before).Has id → openScopes id [] before = some [] →
    ∃ labels, openScopes id [] between = some labels ∧
      ((stage.replay (before ++ between)).chain id).path =
        ((stage.replay before).chain id).path ++ labels
  /-- So it does from the moment when the chain is made. -/
  created : ∀ before creation between after id,
    events = before ++ creation :: between ++ after →
    (∀ event ∈ before, event.chain? ≠ some id) → ¬ (stage.replay before).Has id →
    (stage.replay (before ++ [creation])).Has id →
    ∃ labels, openScopes id [] between = some labels ∧
      ((stage.replay (before ++ creation :: between)).chain id).path =
        ((stage.replay (before ++ [creation])).chain id).path ++ labels
  /-- In the end every scope is closed, and the paths are what they were. -/
  balance : ∀ id, openScopes id [] events = some [] ∧
    (stage.Has id → ((stage.replay events).chain id).path = (stage.chain id).path)
  /-- An outcome carries the test, the path and the store that its chain has at the moment. -/
  place : ∀ before id outcome after, events = before ++ .called id outcome :: after →
    outcome.place = ((stage.replay before).chain id).place
  /-- The test and the store, and the handler too, are those of every chain that this one comes
  from. -/
  origin : ∀ before between after root id, events = before ++ between ++ after →
    (stage.replay before).Has root → id ∈ (stage.replay before).lineage [root] between →
    ((stage.replay (before ++ between)).chain id).origin =
      ((stage.replay before).chain root).origin

theorem Closing.from {stage : Stage} {before between after : List Event} {id : ChainId}
    (closing : Closing (before ++ between ++ after)) (has : (stage.replay before).Has id)
    (clear : openScopes id [] before = some []) : ∃ labels,
      openScopes id [] between = some labels ∧ ((stage.replay (before ++ between)).chain id).path =
        ((stage.replay before).chain id).path ++ labels := by
  obtain ⟨labels, scopes⟩ := closing.moment clear
  refine ⟨labels, scopes, ?_⟩
  rw [Stage.replay_append]
  exact Stage.path_replay has scopes (List.append_nil _).symm

theorem openScopes_creation {stage : Stage} {before : List Event} {creation : Event} {id : ChainId}
    (foreign : ∀ event ∈ before, event.chain? ≠ some id) (new : ¬ (stage.replay before).Has id)
    (has : (stage.replay (before ++ [creation])).Has id) :
    openScopes id [] (before ++ [creation]) = some [] := by
  have flat : creation.Flat := by
    rw [Stage.replay_append, Stage.replay_cons, Stage.replay_nil] at has
    cases creation with
    | entered | left => exact new (by simpa [Stage.Has, Stage.after, Stage.changeChain] using has)
    | began | spawned | failed | called | opened | stored => trivial
  rw [openScopes_append, openScopes_foreign foreign, Option.bind_some, openScopes,
    Event.scopes_flat flat]
  rfl

theorem Closing.truthful {stage : Stage} {events : List Event} (closing : Closing events)
    (placed : Placed stage events) : Truthful stage events where
  path before between after id split has clear := (split ▸ closing).from has clear
  created before creation between after id split foreign new has := by
    have moved : before ++ creation :: between = before ++ [creation] ++ between := by simp
    rw [moved] at split ⊢
    exact (split ▸ closing).from has (openScopes_creation foreign new has)
  balance id := ⟨closing id, fun has => closing.path has⟩
  place before id outcome after split := (split ▸ placed).moment
  origin before between after root id _ has member := by
    rw [Stage.replay_append]
    have start : ∀ id ∈ [root], (stage.replay before).Has id ∧
        ((stage.replay before).chain id).origin = ((stage.replay before).chain root).origin := by
      intro id single
      cases List.mem_singleton.mp single
      exact ⟨has, rfl⟩
    refine (Stage.forall_lineage (P := fun chain => chain.origin = _) ?_ start between id member).2
    exact fun event has same => (Stage.origin_after has event).trans same

/-- Breadcrumbs are truthful in every nested program, whatever the handlers do and wherever it
unwinds. What an operation reports is signed with the path of its chain and with its own label, and
sessions begin with the test and the store of their configuration. -/
theorem Program.breadcrumbs (configs : κ → Config ω) (program : Program ω κ α)
    (nested : program.Nested) (world : World ω) :
    (∃ events, Follows world events (program.run configs world).2 ∧
      Truthful world.toStage events) ∧
    (∀ (γ : Type) (action : Action ω γ), action.Labelled →
      ∃ label, Signed action.subject label action.run) ∧
    ∀ (config : Config ω) (first last : World ω) (session : Session ω),
      Session.start? config first = (.ok (.ok session), last) →
      Rooted config first last session.chain := by
  obtain ⟨events, follows, closing⟩ := program.closing configs nested world
  obtain ⟨_, follows', placed⟩ := program.placed configs world
  cases follows'.unique follows
  refine ⟨⟨events, follows, closing.truthful placed⟩, ?_, ?_⟩
  · exact fun γ action labelled => action.signed labelled
  · exact fun config first last session returns => Session.start?_rooted returns

/-- Calls back for the elements of an array, checks the array itself there, and unwinds. -/
def Program.revisiting (node : ArrayNode) : Program Unit Unit (Except String Unit) :=
  .observe <| eachItem node fun _ _ =>
    .andThen (.act (@Action.check Unit .array node .isEmpty)) fun _ => .unwind "enough"

theorem Program.breadcrumbs_revisiting :
    (revisiting ⟨⟨0⟩, [.null]⟩).Nested ∧
    (((revisiting ⟨⟨0⟩, [.null]⟩).run (fun _ => {})
      { World.start () with chains := #[⟨none, ["array()"], false, ⟨0⟩, ⟨0⟩⟩] }).2.chain ⟨0⟩).path =
      ["array()"] := by
  have nested : (revisiting ⟨⟨0⟩, [.null]⟩).Nested :=
    nested_eachItem fun _ _ => ⟨trivial, fun _ => trivial⟩
  obtain ⟨events, follows, truthful⟩ := (breadcrumbs (fun _ => {}) _ nested
    { World.start () with chains := #[⟨none, ["array()"], false, ⟨0⟩, ⟨0⟩⟩] }).1
  refine ⟨nested, ?_⟩
  rw [follows.stage]
  exact (truthful.balance ⟨0⟩).2 (by decide)

end FluentAssert
