import FluentAssert.Proofs.Program.Breadcrumbs

/-! What programs have in hand. A program calls the sessions, nodes and handles that it got before,
and gets others from every call that returns. Roots of sessions are out of its reach: all that
happens to a root, whatever the program does, is that children are spawned from it. -/
namespace FluentAssert

variable {ω κ α β : Type}

/-- Roots of sessions, and chains of nodes and of handles. -/
structure HeldChains where
  roots : List ChainId
  chains : List ChainId

namespace HeldChains

def empty : HeldChains := ⟨[], []⟩

def plus (held more : HeldChains) : HeldChains := ⟨held.roots ++ more.roots, held.chains ++ more.chains⟩

theorem roots_plus {held more : HeldChains} {id : ChainId} (member : id ∈ held.roots) :
    id ∈ (held.plus more).roots := List.mem_append_left _ member

@[simp] theorem plus_empty (held : HeldChains) : held.plus empty = held := by
  simp [plus, empty]

/-- What a call brings: if it unwinds, nothing. -/
def of (brings : α → HeldChains) : Except String α → HeldChains
  | .ok a => brings a
  | .error _ => empty

end HeldChains

/-- A call that makes a child of its chain, and goes on with the child. -/
def Action.Branching : Action ω α → Prop
  | .spawn _ => True
  | action => action.OfSession

theorem Action.branching {action : Action ω α} (h : action.Branching) :
    ∃ (root : ChainId) (body : ChainId → Run ω α), action.subject = some root ∧
      action.run = (root.spawn >>= body) ∧ ∀ child, Local child (body child) := by
  by_cases ofSession : action.OfSession
  · exact action.branches ofSession
  · cases action with
    | spawn chain => exact ⟨chain, pure, rfl, (bind_pure chain.spawn).symm, fun _ => .pure _⟩
    | _ => exact (ofSession h).elim

/-- On roots in hand there are calls that branch, and everything that is no call of a session is
called on other chains in hand. So calls of sessions may overlap: a send that waits has done what it
does on the root, and what it does later is done on its own child. -/
def HeldChains.Allows (held : HeldChains) (action : Action ω α) : Prop :=
  ∀ id, action.subject = some id →
    action.Branching ∧ id ∈ held.roots ∨ ¬ action.OfSession ∧ id ∈ held.chains

namespace HeldChains.Allows

variable {held : HeldChains} {action : Action ω α} {id : ChainId}

theorem on_root (branching : action.Branching) (subject : action.subject = some id)
    (member : id ∈ held.roots) : held.Allows action := by
  intro other same
  cases subject.symm.trans same
  exact .inl ⟨branching, member⟩

theorem on_chain (other : ¬ action.OfSession) (subject : action.subject = some id)
    (member : id ∈ held.chains) : held.Allows action := by
  intro id' same
  cases subject.symm.trans same
  exact .inr ⟨other, member⟩

end HeldChains.Allows

def Action.brings : Action ω α → α → HeldChains
  | .copy _, session => ⟨[session.chain], []⟩
  | .handle _, account => ⟨[], [account.chain]⟩
  | .entry _ _, node => ⟨[], [node.chain]⟩
  | .response _ _, node => ⟨[], [node.chain]⟩
  | .send _ _, node => ⟨[], [node.chain]⟩
  | .step _ _, node => ⟨[], [node.chain]⟩
  | .iter _, nodes => ⟨[], nodes.map (·.chain)⟩
  | .clone _, node => ⟨[], [node.chain]⟩
  | .spawn _, child => ⟨[], [child]⟩
  | .check _ _, _ | .read _ _, _ | .use _ _, _ | .newStore, _ | .useStore _ _, _
  | .contents _, _ | .state _, _ | .report _ _, _ | .enter _ _, _ | .leave _, _ => .empty

def Session.brought : Except ConfigError (Session ω) → HeldChains
  | .ok session => ⟨[session.chain], []⟩
  | .error _ => .empty

/-- Run in this world, the program makes do with what it has in hand, and comes to have more. -/
inductive Program.Works (configs : κ → Config ω) :
    {α : Type} → Program ω κ α → HeldChains → World ω → HeldChains → Prop where
  | done {α : Type} {held : HeldChains} {world : World ω} (a : α) :
    Works configs (.done a) held world held
  | andThen {α β : Type} {first : Program ω κ α} {next : α → Program ω κ β}
    {held middle after : HeldChains} {world last : World ω} {a : α} :
    Works configs first held world middle → first.run configs world = (.ok a, last) →
    Works configs (next a) middle last after → Works configs (.andThen first next) held world after
  /-- A program that unwinds before it is through. -/
  | cut {α β : Type} {first : Program ω κ α} {next : α → Program ω κ β} {held middle : HeldChains}
    {world last : World ω} {reason : String} :
    Works configs first held world middle → first.run configs world = (.error reason, last) →
    Works configs (.andThen first next) held world middle
  | start {held : HeldChains} {world : World ω} (name : κ) : Works configs (.start name) held world
    (held.plus (.of Session.brought (Session.start? (configs name) world).1))
  | act {α : Type} {held : HeldChains} {world : World ω} {action : Action ω α} : held.Allows action →
    Works configs (.act action) held world (held.plus (.of action.brings (action.run world).1))
  | host {α : Type} {held : HeldChains} {world : World ω} (change : ω → α × ω) :
    Works configs (.host change) held world held
  | within {α : Type} {chain : ChainId} (label : String) {body : Program ω κ α}
    {held after : HeldChains} {world : World ω} : chain ∈ held.chains →
    Works configs body held (Run.happen (.entered chain label) world).2 after →
    Works configs (.within chain label body) held world after
  | unwind {α : Type} {held : HeldChains} {world : World ω} (reason : String) :
    Works configs (.unwind reason : Program ω κ α) held world held
  | observe {α : Type} {body : Program ω κ α} {held after : HeldChains} {world : World ω} :
    Works configs body held world after → Works configs (.observe body) held world after

/-- If the run returns, these chains are new, and they are there. -/
def Fresh (ids : α → List ChainId) (run : Run ω α) : Prop :=
  ∀ world a last, run world = (.ok a, last) → ∀ id ∈ ids a, ¬ world.Has id ∧ last.Has id

namespace Fresh

variable {ids : α → List ChainId} {own : ChainId}

theorem none {run : Run ω α} (h : ∀ a, ids a = []) : Fresh ids run := by
  intro world a last _ id member
  rw [h a] at member
  cases member

theorem spawn (own : ChainId) : Fresh (ω := ω) (fun child => [child]) own.spawn := by
  intro world child last returns id member
  cases returns
  cases List.mem_singleton.mp member
  exact ⟨Nat.lt_irrefl _, Stage.has_pushChain⟩

theorem map {run : Run ω β} {f : β → α} (h : Fresh (fun b => ids (f b)) run) :
    Fresh ids (do return f (← run)) := by
  intro world a last returns id member
  rw [Run.bind_apply] at returns
  rcases same : run world with ⟨ending, middle⟩
  rw [same] at returns
  cases ending with
  | error reason => cases returns
  | ok b =>
    cases returns
    exact h world b _ same id member

theorem after (own : ChainId) {first : Run ω β} {next : β → Run ω α} (earlier : Local own first)
    (h : ∀ b, Fresh ids (next b)) : Fresh ids (first >>= next) := by
  intro world a last returns id member
  obtain ⟨events, follows, -⟩ := earlier.orderly world
  rw [Run.bind_apply] at returns
  generalize first world = result at returns follows
  obtain ⟨ending, middle⟩ := result
  cases ending with
  | error reason => cases returns
  | ok b =>
    obtain ⟨new, has⟩ := h b middle a last returns id member
    exact ⟨fun known => new (follows.has known), has⟩

theorem within (label : String) {body : Run ω α} (h : Fresh ids body) :
    Fresh ids (own.within label body) := by
  intro world a last returns id member
  rw [ChainId.within_apply] at returns
  rcases same : body (Run.happen (.entered own label) world).2 with ⟨ending, middle⟩
  rw [same] at returns
  cases returns
  obtain ⟨new, has⟩ := h _ a middle same id member
  exact ⟨fun known => new (Stage.has_after _ known), Stage.has_after (.left own) has⟩

theorem spawnNode (own : ChainId) (value : β) :
    Fresh (ω := ω) (fun node => [node.chain]) (Node.spawn own value) := map (spawn own)

theorem landing (landing : Landing β) :
    Fresh (ω := ω) (fun node => [node.chain]) (landing.perform own) :=
  within _ (after own (.reportAll landing.findings) fun _ => spawnNode own landing.held)

theorem cons {first : Run ω (Node β)} {rest : Run ω (List (Node β))} (head : Local own first)
    (tail : Local own rest) (hf : Fresh (fun node => [node.chain]) first)
    (hr : Fresh (List.map (·.chain)) rest) :
    Fresh (List.map (·.chain)) (first >>= fun node => rest >>= fun nodes => return node :: nodes) := by
  intro world nodes last returns id member
  obtain ⟨events, follows, -⟩ := head.orderly world
  rw [Run.bind_apply] at returns
  rcases one : first world with ⟨ending, middle⟩
  rw [one] at returns follows
  cases ending with
  | error reason => cases returns
  | ok node =>
    obtain ⟨events', follows', -⟩ := tail.orderly middle
    simp only [Run.bind_apply] at returns
    rcases more : rest middle with ⟨ending, end'⟩
    rw [more] at returns follows'
    cases ending with
    | error reason => cases returns
    | ok others =>
      cases returns
      rcases List.mem_cons.mp member with rfl | later
      · -- The rest leaves the first node where it is.
        obtain ⟨new, has⟩ := hf world node middle one node.chain List.mem_cons_self
        exact ⟨new, follows'.has has⟩
      · obtain ⟨new, has⟩ := hr middle others _ more id later
        exact ⟨fun known => new (follows.has known), has⟩

theorem iter (items : List (Canonical × Nat)) : Fresh (ω := ω) (List.map (·.chain))
    (items.mapM fun (value, index) =>
      own.within ("iter()[" ++ toString index ++ "]") (Node.spawn own value)) := by
  induction items with
  | nil =>
    intro world nodes last returns id member
    cases returns
    cases member
  | cons item rest ih =>
    rw [List.mapM_cons]
    apply cons
    · exact .within _ (.spawnNode _)
    · exact .mapM _ fun _ => .within _ (.spawnNode _)
    · exact within _ (spawnNode _ _)
    · exact ih

end Fresh

theorem Action.fresh (action : Action ω α) :
    Fresh (fun a => (action.brings a).roots ++ (action.brings a).chains) action.run := by
  cases action with
  | copy session => exact .map (.spawn session.chain)
  | handle session => exact .map (.spawn session.chain)
  | entry session what =>
    obtain ⟨landing, same⟩ := Session.charted_perform what
    show Fresh _ (what.perform session)
    rw [same ω session]
    exact .after session.chain .spawn fun child => .landing landing
  | response session reply =>
    simp only [Action.run, Session.response, runMatchers_nil]
    exact .after session.chain .spawn fun child => .within _ (.spawnNode child reply)
  | send session request =>
    simp only [Action.run, Session.send, runMatchers_nil]
    refine .after session.chain .spawn fun child => .within _ ?_
    refine .after child (.dispatch _ _) fun reply => ?_
    cases reply with
    | ok reply => exact .spawnNode child reply
    | error e =>
      refine .after child (.record _ trivial) fun _ => ?_
      exact .after child (.report _) fun _ => .spawnNode child _
  | step node what =>
    obtain ⟨landing, same⟩ := what.charted node.value
    have whole : what.perform (ω := ω) node = landing.perform node.chain := same ω node.chain
    show Fresh _ (what.perform node)
    rw [whole]
    exact .landing landing
  | iter node => exact .iter _
  | clone node => exact .map (.spawn node.chain)
  | spawn chain => exact .spawn chain
  | check | read | use | newStore | useStore | contents | state | report | enter | leave =>
    exact .none fun _ => rfl

/-- Live, and outside of all scopes. -/
def Stage.Clean (stage : Stage) (id : ChainId) : Prop :=
  (stage.chain id).failed = false ∧ (stage.chain id).path = []

/-- Roots in hand are clean, and no chain in hand is one. -/
structure Tidy (held : HeldChains) (stage : Stage) : Prop where
  roots : ∀ id ∈ held.roots, stage.Has id ∧ stage.Clean id
  chains : ∀ id ∈ held.chains, stage.Has id ∧ id ∉ held.roots

namespace Stage

variable {stage : Stage} {id : ChainId} {event : Event} {events first rest : List Event}
  {P Q : Stage → Prop}

/-- It holds now and after each of the events. -/
def Always (P : Stage → Prop) (stage : Stage) : List Event → Prop
  | [] => P stage
  | event :: rest => P stage ∧ (stage.after event).Always P rest

theorem Always.here (h : stage.Always P events) : P stage := by
  cases events with
  | nil => exact h
  | cons event rest => exact h.1

theorem Always.append (h : stage.Always P first) (h' : (stage.replay first).Always P rest) :
    stage.Always P (first ++ rest) := by
  induction first generalizing stage with
  | nil => exact h'
  | cons event first ih => exact ⟨h.1, ih h.2 h'⟩

theorem Always.moment (h : stage.Always P events) {before after : List Event}
    (split : events = before ++ after) : P (stage.replay before) := by
  induction before generalizing stage events with
  | nil => exact h.here
  | cons event before ih =>
    cases split
    exact ih h.2 rfl

theorem Always.mono (h : stage.Always P events)
    (step : ∀ moment : Stage, (∀ id, moment.Has id → (stage.replay events).Has id) →
      P moment → Q moment) : stage.Always Q events := by
  induction events generalizing stage with
  | nil => exact step stage (fun _ has => has) h
  | cons event rest ih =>
    exact ⟨step stage (fun _ has => has_replay has) h.1, ih h.2 step⟩

theorem chain_spawning (has : stage.Has id)
    (only : ∀ event ∈ events, event.chain? = some id → event = .spawned id) :
    (stage.replay events).chain id = stage.chain id := by
  induction events generalizing stage with
  | nil => rfl
  | cons event events ih =>
    have later := ih (has_after event has) fun other member =>
      only other (List.mem_cons_of_mem _ member)
    rw [replay_cons, later]
    by_cases about : event.chain? = some id
    · rw [only event List.mem_cons_self about]
      exact chain_pushChain has
    · exact chain_after has about

theorem always_clean {ids : List ChainId}
    (only : ∀ event ∈ events, ∀ id ∈ ids, event.chain? = some id → event = .spawned id)
    (clean : ∀ id ∈ ids, (stage.replay events).Clean id) :
    stage.Always (fun moment => ∀ id ∈ ids, moment.Has id → moment.Clean id) events := by
  induction events generalizing stage with
  | nil => exact fun id member _ => clean id member
  | cons event events ih =>
    refine ⟨fun id member has => ?_, ih (fun other later => only other (.tail _ later)) clean⟩
    have same := chain_spawning has fun other inside => only other inside id member
    unfold Clean
    rw [← same]
    exact clean id member

end Stage

/-- What a run that had these held before and has those afterwards leaves of roots: they are clean
from the moment when they are there. -/
structure Kept (held after : HeldChains) (stage : Stage) (events : List Event) : Prop where
  tidy : Tidy after (stage.replay events)
  roots : ∀ id ∈ held.roots, id ∈ after.roots
  chains : ∀ id ∈ held.chains, id ∈ after.chains
  new : ∀ id ∈ after.roots, id ∈ held.roots ∨ ¬ stage.Has id
  always : stage.Always (fun moment => ∀ id ∈ after.roots, moment.Has id → moment.Clean id) events

namespace Kept

variable {held middle after more : HeldChains} {stage : Stage} {first rest events : List Event}
  {event : Event} {chain : ChainId}

theorem trans (h : Kept held middle stage first) (h' : Kept middle after (stage.replay first) rest) :
    Kept held after stage (first ++ rest) where
  tidy := by
    rw [Stage.replay_append]
    exact h'.tidy
  roots id member := h'.roots id (h.roots id member)
  chains id member := h'.chains id (h.chains id member)
  new id member := by
    rcases h'.new id member with old | new
    · exact h.new id old
    · exact .inr fun has => new (Stage.has_replay has)
  always := by
    -- A root that comes into hand in the rest is not there at any moment of the first part.
    refine .append (h.always.mono fun moment grown clean id member has => ?_) h'.always
    rcases h'.new id member with old | new
    · exact clean id old has
    · exact (new (grown id has)).elim

theorem gain (tidy : Tidy held stage)
    (only : ∀ event ∈ events, ∀ id ∈ held.roots ++ more.roots,
      event.chain? = some id → event = .spawned id)
    (fresh : ∀ id ∈ more.roots ++ more.chains, ¬ stage.Has id ∧ (stage.replay events).Has id)
    (clean : ∀ id ∈ more.roots, (stage.replay events).Clean id)
    (apart : ∀ id ∈ more.chains, id ∉ more.roots) : Kept held (held.plus more) stage events := by
  have roots : ∀ id ∈ held.roots ++ more.roots,
      (stage.replay events).Has id ∧ (stage.replay events).Clean id := by
    intro id member
    rcases List.mem_append.mp member with old | new
    · obtain ⟨has, before⟩ := tidy.roots id old
      have same := Stage.chain_spawning has fun event inside => only event inside id member
      refine ⟨Stage.has_replay has, ?_⟩
      unfold Stage.Clean
      rw [same]
      exact before
    · exact ⟨(fresh id (List.mem_append_left _ new)).2, clean id new⟩
  refine ⟨⟨roots, ?_⟩, fun _ => HeldChains.roots_plus, fun _ => List.mem_append_left _, ?_, ?_⟩
  · intro id member
    rcases List.mem_append.mp member with old | new
    · obtain ⟨has, other⟩ := tidy.chains id old
      refine ⟨Stage.has_replay has, fun root => ?_⟩
      -- What comes into hand was not there before, so it is no chain that was in hand.
      rcases List.mem_append.mp root with root | root
      · exact other root
      · exact (fresh id (List.mem_append_left _ root)).1 has
    · obtain ⟨absent, has⟩ := fresh id (List.mem_append_right _ new)
      refine ⟨has, fun root => ?_⟩
      rcases List.mem_append.mp root with root | root
      · exact absent (tidy.roots id root).1
      · exact apart id new root
  · intro id member
    rcases List.mem_append.mp member with old | new
    · exact .inl old
    · exact .inr (fresh id (List.mem_append_left _ new)).1
  · exact Stage.always_clean only fun id member => (roots id member).2

theorem idle (tidy : Tidy held stage)
    (only : ∀ event ∈ events, ∀ id ∈ held.roots, event.chain? = some id → event = .spawned id) :
    Kept held held stage events := by
  have kept : Kept held (held.plus .empty) stage events := by
    apply gain tidy
    · simpa [HeldChains.empty] using only
    · simp [HeldChains.empty]
    · simp [HeldChains.empty]
    · simp [HeldChains.empty]
  rwa [HeldChains.plus_empty] at kept

theorem refl (tidy : Tidy held stage) : Kept held held stage [] :=
  idle tidy (List.forall_mem_nil _)

theorem one (tidy : Tidy held stage) (about : event.chain? = some chain)
    (inside : chain ∈ held.chains) : Kept held held stage [event] := by
  apply idle tidy
  intro other member id root about'
  cases List.mem_singleton.mp member
  cases Option.some.inj (about.symm.trans about')
  exact ((tidy.chains chain inside).2 root).elim

end Kept

theorem Action.spawning (action : Action ω α) (world : World ω) : ∃ events,
    Follows world events (action.run world).2 ∧
      ∀ event ∈ events, ∀ id, world.Has id → event.chain? = some id →
        action.subject = some id ∧ (action.Branching → event = .spawned id) := by
  by_cases branching : action.Branching
  · obtain ⟨root, body, subject, whole, own⟩ := action.branching branching
    obtain ⟨events, follows, about⟩ :=
      (own world.fresh).orderly (Run.happen (.spawned root) world).2
    have spawned : Follows world [.spawned root] (Run.happen (.spawned root) world).2 :=
      .happen world trivial
    rw [whole, subject]
    refine ⟨.spawned root :: events, spawned.trans follows, fun event member id has same => ?_⟩
    rcases List.mem_cons.mp member with rfl | later
    · cases same
      exact ⟨rfl, fun _ => rfl⟩
    · -- The body runs on the child, which was not there before.
      have fresh : id = world.fresh := about event later id same
      exact (Nat.lt_irrefl _ (fresh ▸ has)).elim
  · obtain ⟨events, follows, about⟩ := action.parts.orderly world
    refine ⟨events, follows, fun event member id has same => ⟨?_, fun h => (branching h).elim⟩⟩
    exact (about event member id same).resolve_right fun new => new has

namespace Kept

variable {held after : HeldChains} {world : World ω}

theorem copy (session : Session ω) (tidy : Tidy held world.toStage)
    (member : session.chain ∈ held.roots) :
    Kept held (held.plus ⟨[world.fresh], []⟩) world.toStage [.spawned session.chain] := by
  apply gain tidy
  · intro event inside id _ about
    cases List.mem_singleton.mp inside
    cases about
    rfl
  · intro id inside
    cases List.mem_singleton.mp inside
    exact ⟨Nat.lt_irrefl _, Stage.has_pushChain⟩
  · intro id inside
    cases List.mem_singleton.mp inside
    have copied : (world.after (.spawned session.chain)).chain world.fresh =
        world.chain session.chain := Stage.chain_pushChain_fresh
    rw [Stage.replay_cons, Stage.replay_nil, Stage.Clean, copied]
    exact (tidy.roots session.chain member).2
  · exact fun _ inside => nomatch inside

theorem rootless {action : Action ω α} (none : ∀ a, (action.brings a).roots = [])
    (tidy : Tidy held world.toStage) (allowed : held.Allows action) : ∃ events,
    Follows world events (action.run world).2 ∧
      Kept held (held.plus (.of action.brings (action.run world).1)) world.toStage events := by
  obtain ⟨events, follows, spawning⟩ := action.spawning world
  have only : ∀ event ∈ events, ∀ id ∈ held.roots,
      event.chain? = some id → event = .spawned id := by
    intro event member id root about
    obtain ⟨subject, spawned⟩ := spawning event member id (tidy.roots id root).1 about
    rcases allowed id subject with ⟨branching, -⟩ | ⟨-, chain⟩
    · exact spawned branching
    · exact ((tidy.chains id chain).2 root).elim
  refine ⟨events, follows, ?_⟩
  rcases returns : action.run world with ⟨ending, last⟩
  rw [returns] at follows
  cases ending with
  | error reason =>
    rw [HeldChains.of, HeldChains.plus_empty]
    exact idle tidy only
  | ok a =>
    have fresh : ∀ id ∈ (action.brings a).roots ++ (action.brings a).chains,
        ¬ world.Has id ∧ last.Has id := action.fresh world a last returns
    rw [none a, List.nil_append] at fresh
    apply gain tidy
    · rw [HeldChains.of, none a, List.append_nil]
      exact only
    · rw [HeldChains.of, none a, List.nil_append, ← follows.stage]
      exact fresh
    · rw [HeldChains.of, none a]
      exact List.forall_mem_nil _
    · rw [HeldChains.of, none a]
      exact fun _ _ => List.not_mem_nil

theorem act {action : Action ω α} (tidy : Tidy held world.toStage) (allowed : held.Allows action) :
    ∃ events, Follows world events (action.run world).2 ∧
      Kept held (held.plus (.of action.brings (action.run world).1)) world.toStage events := by
  cases action with
  | copy session =>
    have member : session.chain ∈ held.roots := by
      rcases allowed session.chain rfl with ⟨-, root⟩ | ⟨other, -⟩
      · exact root
      · exact (other trivial).elim
    exact ⟨_, .happen world trivial, copy session tidy member⟩
  | _ => exact rootless (fun _ => rfl) tidy allowed

theorem start (config : Config ω) (tidy : Tidy held world.toStage) : ∃ events,
    Follows world events (Session.start? config world).2 ∧
      Kept held (held.plus (.of Session.brought (Session.start? config world).1)) world.toStage
        events := by
  have orderly : Orderly (fun _ => False) (Session.start? config) := .start config
  obtain ⟨events, follows, about⟩ := orderly world
  refine ⟨events, follows, ?_⟩
  have only (ids : List ChainId) : ∀ event ∈ events, ∀ id ∈ ids,
      event.chain? = some id → event = .spawned id :=
    fun event member id _ same => (about event member id same).elim
  rcases returns : Session.start? config world with ⟨ending, last⟩
  rw [returns] at follows
  rcases ending with reason | (e | session)
  · rw [HeldChains.of, HeldChains.plus_empty]
    exact idle tidy (only _)
  · rw [HeldChains.of, Session.brought, HeldChains.plus_empty]
    exact idle tidy (only _)
  · obtain ⟨new, has, handler, store, chain, -⟩ :=
      Config.root_chain (Session.start?_root returns).1
    apply gain tidy (only _)
    · intro id member
      cases List.mem_singleton.mp member
      rw [← follows.stage]
      exact ⟨new ▸ Nat.lt_irrefl _, has⟩
    · intro id member
      cases List.mem_singleton.mp member
      rw [← follows.stage, Stage.Clean, chain]
      exact ⟨rfl, rfl⟩
    · exact fun _ inside => nomatch inside

theorem within {chain : ChainId} {label : String} {events : List Event} {stage : Stage}
    (inside : chain ∈ held.chains) (entered : Kept held held stage [.entered chain label])
    (body : Kept held after (stage.after (.entered chain label)) events) :
    Kept held after stage (.entered chain label :: (events ++ [.left chain])) := by
  have left : Kept after after ((stage.after (.entered chain label)).replay events) [.left chain] :=
    one body.tidy rfl (body.chains chain inside)
  exact entered.trans (body.trans left)

end Kept

/-- However a program runs, it keeps off the roots that it has in hand and comes to have. -/
theorem Program.Works.kept {configs : κ → Config ω} {program : Program ω κ α} {held after : HeldChains}
    {world : World ω} (works : program.Works configs held world after)
    (tidy : Tidy held world.toStage) : ∃ events,
      Follows world events (program.run configs world).2 ∧ Kept held after world.toStage events := by
  -- Each case leaves held that are tidy in the world that the next one starts from.
  induction works with
  | @host _ _ world => exact ⟨[], .still rfl (.one (.host _ world)), .refl tidy⟩
  | done | unwind => exact ⟨[], .refl _, .refl tidy⟩
  | andThen _ returns _ ihFirst ihNext =>
    obtain ⟨events, follows, kept⟩ := ihFirst tidy
    rw [returns] at follows
    obtain ⟨events', follows', kept'⟩ := ihNext (follows.stage ▸ kept.tidy)
    refine ⟨events ++ events', ?_, kept.trans (follows.stage ▸ kept')⟩
    rw [Program.run, Run.bind_apply, returns]
    exact follows.trans follows'
  | cut _ returns ih =>
    obtain ⟨events, follows, kept⟩ := ih tidy
    rw [returns] at follows
    refine ⟨events, ?_, kept⟩
    rw [Program.run, Run.bind_apply, returns]
    exact follows
  | start name => exact Kept.start (configs name) tidy
  | act allowed => exact Kept.act tidy allowed
  | @within α chain label body held after world inside _ ih =>
    have entered : Kept held held world.toStage [.entered chain label] := .one tidy rfl inside
    obtain ⟨events, follows, body⟩ := ih entered.tidy
    refine ⟨.entered chain label :: (events ++ [.left chain]), ?_, .within inside entered body⟩
    have opened : Follows world [.entered chain label] (Run.happen (.entered chain label) world).2 :=
      .happen world trivial
    exact opened.trans (follows.trans (.happen _ trivial))
  | observe _ ih => exact ih tidy

end FluentAssert
