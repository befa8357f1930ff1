import Mathlib.Logic.Relation
import FluentAssert.Proofs.Node.Standing

/-! Isolation of nodes. A lineage is a node with everything derived or cloned from it. Nothing that
is done elsewhere changes it, and what it delivers depends on how its node stood at first and on
what was done to the lineage since. Reading values from the environment is left out, which is
shared. -/
namespace FluentAssert

/-- Something happens beside these chains, and ends in any way: an action on another chain or on
none, a new session, a change of the surroundings. -/
inductive Elsewhere {ω : Type} (members : List ChainId) : World ω → World ω → Prop where
  | act {α : Type} (action : Action ω α) (world : World ω) :
    (∀ id ∈ members, action.subject ≠ some id) → Elsewhere members world (action.run world).2
  | start (config : Config ω) (world : World ω) :
    Elsewhere members world (Session.start? config world).2
  | host (change : ω → ω) (world : World ω) :
    Elsewhere members world { world with host := change world.host }

/-- An operation of the node of a rank, which counts the nodes of a lineage in order of birth. -/
structure Turn where
  rank : Nat
  kind : NodeKind
  operation : NodeOperation kind

/-- A lineage has its turns, and any number of things happen elsewhere before, between and after
them. -/
inductive Plays {ω : Type} :
    World ω → List AnyNode → List Turn → World ω → List AnyNode → Prop where
  | rest {world last : World ω} {nodes : List AnyNode} :
    Relation.ReflTransGen (Elsewhere (nodes.map AnyNode.chain)) world last →
    Plays world nodes [] last nodes
  | turn {world start middle last : World ω} {nodes new all : List AnyNode} {turn : Turn}
      {turns : List Turn} {chain : ChainId} {held : Held turn.kind} :
    Relation.ReflTransGen (Elsewhere (nodes.map AnyNode.chain)) world start →
    nodes[turn.rank]? = some ⟨turn.kind, chain, held⟩ →
    turn.operation.perform chain held start = (.ok new, middle) →
    Plays middle (nodes ++ new) turns last all → Plays world nodes (turn :: turns) last all

/-- From one world to another, a lineage grows to these nodes and delivers this. -/
def Shows {ω : Type} (world : World ω) (nodes : List AnyNode) (last : World ω)
    (all : List AnyNode) (delivered : List Delivery) : Prop :=
  ∃ events, Follows world events last ∧
    world.lineage (nodes.map AnyNode.chain) events = all.map AnyNode.chain ∧
    world.deliveries (nodes.map AnyNode.chain) events = delivered

/-- Nodes that are there, each under a name of its own. -/
structure Present (stage : Stage) (nodes : List AnyNode) : Prop where
  has : ∀ id ∈ nodes.map AnyNode.chain, stage.Has id
  distinct : (nodes.map AnyNode.chain).Nodup

variable {ω ω' : Type}

theorem Shows.trans {world middle last : World ω} {nodes more all : List AnyNode}
    {delivered later : List Delivery} (h : Shows world nodes middle more delivered)
    (h' : Shows middle more last all later) : Shows world nodes last all (delivered ++ later) := by
  obtain ⟨first, follows, grows, gives⟩ := h
  obtain ⟨rest, follows', grows', gives'⟩ := h'
  refine ⟨first ++ rest, follows.trans follows', ?_, ?_⟩
  · rw [Stage.lineage_append, grows, ← follows.stage, grows']
  · rw [Stage.deliveries_append, grows, ← follows.stage, gives, gives']

namespace Elsewhere

variable {world last : World ω} {members : List ChainId} {nodes : List AnyNode}

theorem follows (h : Elsewhere members world last) (has : ∀ id ∈ members, world.Has id) :
    ∃ events, Follows world events last ∧ Apart members events := by
  cases h with
  | act action _ foreign =>
    obtain ⟨events, follows, own⟩ := action.parts.orderly world
    refine ⟨events, follows, ?_⟩
    intro event happens id inside about
    rcases own event happens id about with subject | new
    · exact foreign id inside subject
    · exact new (has id inside)
  | start config _ =>
    have orderly : Orderly (fun _ => False) (Session.start? config) := .start config
    obtain ⟨events, follows, own⟩ := orderly world
    exact ⟨events, follows, fun event happens id _ about => own event happens id about⟩
  | host change _ =>
    refine ⟨[], .still rfl (.one (.host _ world)), ?_⟩
    intro event happens
    cases happens

theorem chain_same (h : Elsewhere members world last) (has : ∀ id ∈ members, world.Has id)
    {id : ChainId} (inside : id ∈ members) : last.chain id = world.chain id := by
  obtain ⟨events, follows, apart⟩ := h.follows has
  rw [follows.stage]
  exact Stage.chain_replay (has id inside) fun event happens => apart event happens id inside

theorem idle (h : Relation.ReflTransGen (Elsewhere (nodes.map AnyNode.chain)) world last)
    (here : Present world.toStage nodes) :
    Present last.toStage nodes ∧
      nodes.map (AnyNode.standing last.toStage) = nodes.map (AnyNode.standing world.toStage) ∧
      Shows world nodes last nodes [] := by
  induction h with
  | refl => exact ⟨here, rfl, [], .refl world, rfl, rfl⟩
  | @tail middle after _ next ih =>
    obtain ⟨there, stands, shows⟩ := ih
    obtain ⟨events, follows, apart⟩ := next.follows there.has
    have kept : Present after.toStage nodes := by
      constructor
      · exact fun id inside => follows.has (there.has id inside)
      · exact here.distinct
    have quiet : Shows middle nodes after nodes [] :=
      ⟨events, follows, Stage.lineage_apart apart, Stage.deliveries_apart apart⟩
    refine ⟨kept, ?_, shows.trans quiet⟩
    rw [← stands]
    apply List.map_congr_left
    intro node member
    have same := next.chain_same there.has (List.mem_map_of_mem member)
    rw [AnyNode.standing, same]
    rfl

theorem split (h : Elsewhere [] world last) (members : List ChainId) :
    Elsewhere members world last ∨ ∃ (α : Type) (action : Action ω α), ∃ id ∈ members,
      action.subject = some id ∧ last = (action.run world).2 := by
  cases h with
  | @act α action _ _ =>
    by_cases inside : ∃ id ∈ members, action.subject = some id
    · obtain ⟨id, member, subject⟩ := inside
      exact .inr ⟨α, action, id, member, subject, rfl⟩
    · have foreign : ∀ id ∈ members, action.subject ≠ some id := by
        intro id member subject
        exact inside ⟨id, member, subject⟩
      exact .inl (.act action world foreign)
  | start config _ => exact .inl (.start config world)
  | host change _ => exact .inl (.host change world)

end Elsewhere

theorem Program.steps {κ α : Type} (configs : κ → Config ω) (program : Program ω κ α)
    (world : World ω) :
    Relation.ReflTransGen (Elsewhere []) world (program.run configs world).2 := by
  have act {α : Type} (action : Action ω α) (world : World ω) :
      Elsewhere [] world (action.run world).2 := .act action world fun _ => nofun
  induction program generalizing world with
  | done a => exact .refl
  | andThen first next ihFirst ihNext =>
    have before := ihFirst world
    rw [run, Run.bind_apply]
    generalize first.run configs world = result at before ⊢
    obtain ⟨ending, middle⟩ := result
    cases ending with
    | error reason => exact before
    | ok a => exact before.trans (ihNext a middle)
  | start name => exact .single (.start (configs name) world)
  | act action => exact .single (act action world)
  | host change => exact .single (.host (fun host => (change host).2) world)
  | within chain label body ih =>
    have opened := act (.enter chain label) world
    have inside := ih (Run.happen (.entered chain label) world).2
    have closed := act (.leave chain)
      (body.run configs (Run.happen (.entered chain label) world).2).2
    exact ((Relation.ReflTransGen.single opened).trans inside).tail closed
  | unwind reason => exact .refl
  | observe body ih => exact ih world

theorem Present.has_at {stage : Stage} {nodes : List AnyNode} (here : Present stage nodes)
    {rank : Nat} {node : AnyNode} (known : nodes[rank]? = some node) : stage.Has node.chain :=
  here.has node.chain (List.mem_map_of_mem (List.mem_of_getElem? known))

theorem Present.rank_eq {stage : Stage} {nodes : List AnyNode} (here : Present stage nodes)
    {rank other : Nat} {node found : AnyNode} (known : nodes[rank]? = some node)
    (known' : nodes[other]? = some found) (same : found.chain = node.chain) : other = rank := by
  have mapped : (nodes.map AnyNode.chain)[other]? = (nodes.map AnyNode.chain)[rank]? := by
    rw [List.getElem?_map, List.getElem?_map, known, known', Option.map_some, Option.map_some, same]
  have bound : other < (nodes.map AnyNode.chain).length := by
    rw [List.length_map]
    exact (List.getElem?_eq_some_iff.mp known').1
  exact (List.getElem?_inj bound here.distinct).mp mapped

namespace Turn

variable {world middle : World ω} {nodes : List AnyNode} {rank : Nat} {node : AnyNode}
  {moves : List Move}

theorem standings (here : Present world.toStage nodes)
    (known : nodes[rank]? = some node)
    (follows : Follows world (world.enact node.chain moves) middle) :
    (nodes ++ world.born node.chain moves).map (AnyNode.standing middle.toStage) =
      (nodes.map (AnyNode.standing world.toStage)).modify rank (fun standing =>
        { standing with view := moves.foldl View.after standing.view }) ++
      (world.chain node.chain).view.bornOf moves := by
  have has : world.Has node.chain := here.has_at known
  rw [follows.stage, List.map_append, Stage.standing_born moves has]
  apply congrArg (· ++ _)
  apply List.ext_getElem?
  intro other
  rw [List.getElem?_modify, List.getElem?_map, List.getElem?_map]
  cases found : nodes[other]? with
  | none => rfl
  | some later =>
    by_cases mine : rank = other
    · subst mine
      cases known.symm.trans found
      simp [AnyNode.standing, Stage.view_enact moves has]
    · have foreign : ∀ event ∈ world.enact node.chain moves, event.chain? ≠ some later.chain := by
        intro event member about
        have shared := Stage.about_enact member about
        exact mine (here.rank_eq known found shared).symm
      have still := Stage.chain_replay (here.has_at found) foreign
      simp [mine, AnyNode.standing, still]

theorem present (here : Present world.toStage nodes)
    (known : nodes[rank]? = some node)
    (follows : Follows world (world.enact node.chain moves) middle) :
    Present middle.toStage (nodes ++ world.born node.chain moves) := by
  have has : world.Has node.chain := here.has_at known
  have fresh : ∀ id ∈ (world.born node.chain moves).map AnyNode.chain,
      ¬ world.Has id ∧ middle.Has id := by
    intro id inside
    obtain ⟨child, born, rfl⟩ := List.mem_map.mp inside
    rw [follows.stage]
    exact Stage.born_new moves has born
  constructor
  · intro id inside
    rw [List.map_append] at inside
    rcases List.mem_append.mp inside with old | new
    · exact follows.stage ▸ Stage.has_replay (here.has id old)
    · exact (fresh id new).2
  · rw [List.map_append]
    refine List.nodup_append.mpr ⟨here.distinct, Stage.nodup_born moves has, ?_⟩
    intro id old later new same
    exact (fresh later new).1 (same ▸ here.has id old)

theorem shows (here : Present world.toStage nodes)
    (known : nodes[rank]? = some node)
    (follows : Follows world (world.enact node.chain moves) middle) :
    Shows world nodes middle (nodes ++ world.born node.chain moves)
      ((world.chain node.chain).view.delivered moves) := by
  have inside : node.chain ∈ nodes.map AnyNode.chain :=
    List.mem_map_of_mem (List.mem_of_getElem? known)
  refine ⟨_, follows, ?_, Stage.deliveries_enact moves (here.has_at known) inside⟩
  rw [Stage.lineage_enact moves inside, List.map_append]

end Turn

namespace Plays

variable {world last : World ω} {world' last' : World ω'} {nodes nodes' all all' : List AnyNode}
  {turns : List Turn}

/-- Lineages that stand alike and have the same turns go on alike, and deliver the same. -/
theorem alike (plays : Plays world nodes turns last all)
    (plays' : Plays world' nodes' turns last' all') (here : Present world.toStage nodes)
    (here' : Present world'.toStage nodes')
    (same : nodes.map (AnyNode.standing world.toStage) =
      nodes'.map (AnyNode.standing world'.toStage)) :
    ∃ delivered, Shows world nodes last all delivered ∧ Shows world' nodes' last' all' delivered ∧
      all.map (AnyNode.standing last.toStage) = all'.map (AnyNode.standing last'.toStage) := by
  induction plays generalizing world' nodes' with
  | rest idle =>
    cases plays' with
    | rest idle' =>
      obtain ⟨_, stands, shows⟩ := Elsewhere.idle idle here
      obtain ⟨_, stands', shows'⟩ := Elsewhere.idle idle' here'
      exact ⟨[], shows, shows', stands.trans (same.trans stands'.symm)⟩
  | @turn _ start middle _ nodes new _ turn _ chain held idle known done _ ih =>
    cases plays' with
    | @turn _ start' middle' _ _ new' _ _ _ chain' held' idle' known' done' plays' =>
      obtain ⟨there, stands, shows⟩ := Elsewhere.idle idle here
      obtain ⟨there', stands', shows'⟩ := Elsewhere.idle idle' here'
      have same' := stands.trans (same.trans stands'.symm)
      have twin : AnyNode.standing start.toStage ⟨turn.kind, chain, held⟩ =
          AnyNode.standing start'.toStage ⟨turn.kind, chain', held'⟩ := by
        have found := congrArg (·[turn.rank]?) same'
        simpa only [List.getElem?_map, known, known', Option.map_some, Option.some.injEq]
          using found
      obtain ⟨values, views⟩ :
          held = held' ∧ (start.chain chain).view = (start'.chain chain').view := by
        simpa [AnyNode.standing] using twin
      subst values
      obtain ⟨moves, enacts⟩ := turn.operation.follows held
      obtain ⟨follows, rfl⟩ := enacts done
      obtain ⟨follows', rfl⟩ := enacts done'
      have step := Turn.standings there known follows
      have step' := Turn.standings there' known' follows'
      have next : (nodes ++ start.born chain moves).map (AnyNode.standing middle.toStage) =
          (nodes' ++ start'.born chain' moves).map (AnyNode.standing middle'.toStage) := by
        rw [step, step', same', views]
      obtain ⟨delivered, rest, rest', final⟩ := ih plays' (Turn.present there known follows)
        (Turn.present there' known' follows') next
      have first := shows.trans (Turn.shows there known follows)
      have first' := shows'.trans (Turn.shows there' known' follows')
      exact ⟨_, first.trans rest, views ▸ first'.trans rest', final⟩

end Plays

/-- Nodes are isolated. Whatever a program has done with a lineage, things that happen elsewhere
leave its chains as they are. And lineages whose nodes stand alike at first and that have the same
turns deliver the same and stand alike at last, whatever happens elsewhere in either run. -/
theorem AnyNode.isolation (node : AnyNode) (world : World ω) (there : world.Has node.chain) :
    (∀ {κ α : Type} (configs : κ → Config ω) (program : Program ω κ α), ∃ events,
      Follows world events (program.run configs world).2 ∧
      ∀ later, Elsewhere (world.lineage [node.chain] events) (program.run configs world).2 later →
        ∀ id ∈ world.lineage [node.chain] events,
          later.chain id = (program.run configs world).2.chain id) ∧
    ∀ {ω' : Type} (node' : AnyNode) (world' : World ω'), world'.Has node'.chain →
      node.standing world.toStage = node'.standing world'.toStage →
      ∀ turns last all last' all', Plays world [node] turns last all →
        Plays world' [node'] turns last' all' →
        ∃ delivered, Shows world [node] last all delivered ∧
          Shows world' [node'] last' all' delivered ∧
          all.map (AnyNode.standing last.toStage) = all'.map (AnyNode.standing last'.toStage) := by
  have alone {ν : Type} {node : AnyNode} {world : World ν} (there : world.Has node.chain) :
      Present world.toStage [node] := by
    constructor
    · intro id inside
      cases List.mem_singleton.mp inside
      exact there
    · exact List.nodup_cons.mpr ⟨List.not_mem_nil, List.nodup_nil⟩
  constructor
  · intro κ α configs program
    obtain ⟨events, follows, _⟩ := program.orderly configs world
    have here : ∀ id ∈ world.lineage [node.chain] events,
        (program.run configs world).2.Has id := by
      rw [follows.stage]
      exact Stage.has_lineage (alone there).has events
    refine ⟨events, follows, ?_⟩
    intro later elsewhere id inside
    exact elsewhere.chain_same here inside
  · intro ω' node' world' there' same turns last all last' all' plays plays'
    exact plays.alike plays' (alone there) (alone there') (congrArg (fun s => [s]) same)

def oneChain : World Unit :=
  (Run.newChain ⟨none, ["value()"], false, ⟨0⟩, ⟨0⟩⟩ (World.start ())).2

def twoChains : World Unit := ((⟨0⟩ : ChainId).spawn oneChain).2

def mishap : Finding := .failure .valid "expected: nothing"

def denial : Turn := ⟨0, .boolean, .check BooleanNode.Check.isFalse⟩

theorem AnyNode.isolation_denial : ∃ delivered last last',
    Shows oneChain [⟨.boolean, ⟨0⟩, true⟩] last [⟨.boolean, ⟨0⟩, true⟩] delivered ∧
    Shows twoChains [⟨.boolean, ⟨1⟩, true⟩] last' [⟨.boolean, ⟨1⟩, true⟩] delivered := by
  have there : oneChain.Has ⟨0⟩ := by decide
  have there' : twoChains.Has ⟨1⟩ := by decide
  have plays : Plays oneChain [⟨.boolean, ⟨0⟩, true⟩] [denial]
      (denial.operation.perform ⟨0⟩ true oneChain).2 [⟨.boolean, ⟨0⟩, true⟩] :=
    .turn .refl rfl rfl (.rest .refl)
  have fails : Elsewhere [⟨1⟩] twoChains ((⟨0⟩ : ChainId).report mishap twoChains).2 :=
    .act (.report ⟨0⟩ mishap) twoChains (by decide)
  have plays' : Plays twoChains [⟨.boolean, ⟨1⟩, true⟩] [denial] _ [⟨.boolean, ⟨1⟩, true⟩] :=
    .turn (.single fails) rfl rfl (.rest .refl)
  obtain ⟨_, same⟩ := AnyNode.isolation ⟨.boolean, ⟨0⟩, true⟩ oneChain there
  obtain ⟨delivered, shows, shows', _⟩ := same ⟨.boolean, ⟨1⟩, true⟩ twoChains there' rfl
    [denial] _ _ _ _ plays plays'
  exact ⟨delivered, _, _, shows, shows'⟩

end FluentAssert
