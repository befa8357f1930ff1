import FluentAssert.Proofs.Node.Operation

/-! Standings: what a node is apart from its name, its handler and its store. Moves take a standing
to the next, and what they deliver can be told from the standing alone. -/
namespace FluentAssert

/-- What a chain shows of itself in an outcome, and whether it still does. -/
structure View where
  testName : Option String
  path : List String
  failed : Bool

def Chain.view (chain : Chain) : View := ⟨chain.testName, chain.path, chain.failed⟩

structure Standing where
  kind : NodeKind
  held : Held kind
  view : View

def AnyNode.standing (stage : Stage) (node : AnyNode) : Standing :=
  ⟨node.kind, node.held, (stage.chain node.chain).view⟩

/-- An outcome without the environment, which is shared. -/
structure Delivery where
  testName : Option String
  path : List String
  finding : Finding

def Outcome.delivery (outcome : Outcome) : Delivery :=
  ⟨outcome.place.testName, outcome.place.path, outcome.finding⟩

def Event.delivery? (members : List ChainId) : Event → Option Delivery
  | .called id outcome => if id ∈ members then some outcome.delivery else none
  | _ => none

/-- No event is about any of these chains. -/
def Apart (members : List ChainId) (events : List Event) : Prop :=
  ∀ event ∈ events, ∀ id ∈ members, event.chain? ≠ some id

namespace Stage

variable {stage : Stage} {members : List ChainId} {events : List Event}

def deliveries (stage : Stage) (members : List ChainId) : List Event → List Delivery
  | [] => []
  | event :: rest =>
    (event.delivery? members).toList ++
      (stage.after event).deliveries (stage.join members event) rest

theorem deliveries_append (stage : Stage) (members : List ChainId) (first rest : List Event) :
    stage.deliveries members (first ++ rest) =
      stage.deliveries members first ++
        (stage.replay first).deliveries (stage.lineage members first) rest := by
  induction first generalizing stage members with
  | nil => rfl
  | cons event first ih => simp only [List.cons_append, deliveries, ih, List.append_assoc]; rfl

theorem join_apart {event : Event} (apart : ∀ id ∈ members, event.chain? ≠ some id) :
    stage.join members event = members := by
  cases event with
  | spawned parent => exact join_other fun inside => apart parent inside rfl
  | began | entered | left | failed | called | opened | stored => rfl

theorem delivery_apart {event : Event} (apart : ∀ id ∈ members, event.chain? ≠ some id) :
    event.delivery? members = none := by
  cases event with
  | called id outcome => exact if_neg fun inside => apart id inside rfl
  | began | spawned | entered | left | failed | opened | stored => rfl

theorem lineage_apart (apart : Apart members events) :
    stage.lineage members events = members := by
  induction events generalizing stage with
  | nil => rfl
  | cons event events ih =>
    rw [lineage, join_apart (apart event List.mem_cons_self)]
    exact ih fun later member => apart later (List.mem_cons_of_mem _ member)

theorem deliveries_apart (apart : Apart members events) :
    stage.deliveries members events = [] := by
  induction events generalizing stage with
  | nil => rfl
  | cons event events ih =>
    have first := apart event List.mem_cons_self
    rw [deliveries, join_apart first, delivery_apart first]
    exact ih fun later member => apart later (List.mem_cons_of_mem _ member)

end Stage

namespace View

def after (view : View) : Move → View
  | .enter label => { view with path := view.path ++ [label] }
  | .leave => { view with path := view.path.dropLast }
  | .report finding => { view with failed := view.failed || !finding.passed }
  | .spawn _ _ => view

def delivery? (view : View) : Move → Option Delivery
  | .report finding => if view.failed then none else some ⟨view.testName, view.path, finding⟩
  | _ => none

def delivered (view : View) : List Move → List Delivery
  | [] => []
  | move :: rest => (view.delivery? move).toList ++ (view.after move).delivered rest

def born (view : View) : Move → List Standing
  | .spawn kind held => [⟨kind, held, view⟩]
  | _ => []

def bornOf (view : View) : List Move → List Standing
  | [] => []
  | move :: rest => view.born move ++ (view.after move).bornOf rest

end View

namespace Move

variable {stage : Stage} {own : ChainId} {members : List ChainId}

theorem about_events {move : Move} {chain : Chain} {event : Event} {id : ChainId}
    (member : event ∈ move.events own chain) (about : event.chain? = some id) : id = own := by
  cases move with
  | enter | leave | spawn =>
    cases List.mem_singleton.mp member
    exact (Option.some.inj about).symm
  | report finding => exact Event.about_ofReport member about

theorem view_replay (move : Move) (has : stage.Has own) :
    ((stage.replay (move.events own (stage.chain own))).chain own).view =
      (stage.chain own).view.after move := by
  cases move with
  | enter | leave =>
    rw [events, Stage.replay_cons, Stage.replay_nil, Stage.after, Stage.chain_changeChain has]
    rfl
  | spawn =>
    rw [events, Stage.replay_cons, Stage.replay_nil, Stage.after, Stage.chain_pushChain has]
    rfl
  | report finding =>
    rw [events, Event.ofReport]
    cases failed : (stage.chain own).failed with
    | true => simp [View.after, Chain.view, failed]
    | false =>
      cases passed : finding.passed with
      | true => simp [View.after, Chain.view, Stage.after, failed, passed]
      | false =>
        simp [View.after, Chain.view, Stage.after, Stage.chain_changeChain has, passed]

theorem lineage_events (move : Move) (member : own ∈ members) :
    stage.lineage members (move.events own (stage.chain own)) =
      members ++ (move.born stage.fresh).map AnyNode.chain := by
  cases move with
  | enter | leave => exact (List.append_nil members).symm
  | spawn => exact Stage.join_member member
  | report finding =>
    refine Eq.trans ?_ (List.append_nil members).symm
    rw [events, Event.ofReport]
    split
    · rfl
    · split <;> rfl

theorem deliveries_events (move : Move) (member : own ∈ members) :
    stage.deliveries members (move.events own (stage.chain own)) =
      ((stage.chain own).view.delivery? move).toList := by
  have called (outcome : Outcome) :
      (Event.called own outcome).delivery? members = some outcome.delivery := if_pos member
  cases move with
  | enter | leave | spawn => rfl
  | report finding =>
    rw [events, Event.ofReport, View.delivery?, Chain.view]
    cases (stage.chain own).failed with
    | true => rfl
    | false =>
      cases finding.passed with
      | true => simp only [Bool.false_eq_true, if_true, if_false, Stage.deliveries, called]; rfl
      | false =>
        simp only [Bool.false_eq_true, if_false, Stage.deliveries, Stage.join, called]
        rfl

end Move

namespace Stage

variable {stage : Stage} {own : ChainId} {members : List ChainId}

theorem about_enact {moves : List Move} {event : Event} {id : ChainId}
    (member : event ∈ stage.enact own moves) (about : event.chain? = some id) : id = own := by
  induction moves generalizing stage with
  | nil => cases member
  | cons move moves ih =>
    rcases List.mem_append.mp member with first | later
    · exact Move.about_events first about
    · exact ih later

theorem view_enact (moves : List Move) (has : stage.Has own) :
    ((stage.replay (stage.enact own moves)).chain own).view =
      moves.foldl View.after (stage.chain own).view := by
  induction moves generalizing stage with
  | nil => rfl
  | cons move moves ih =>
    rw [enact, replay_append, ih (has_replay has), move.view_replay has]
    rfl

theorem lineage_enact (moves : List Move) (member : own ∈ members) :
    stage.lineage members (stage.enact own moves) =
      members ++ (stage.born own moves).map AnyNode.chain := by
  induction moves generalizing stage members with
  | nil => exact (List.append_nil members).symm
  | cons move moves ih =>
    rw [enact, lineage_append, ih (mem_lineage member _), move.lineage_events member, born,
      List.map_append, List.append_assoc]

theorem deliveries_enact (moves : List Move) (has : stage.Has own) (member : own ∈ members) :
    stage.deliveries members (stage.enact own moves) =
      (stage.chain own).view.delivered moves := by
  induction moves generalizing stage members with
  | nil => rfl
  | cons move moves ih =>
    rw [enact, deliveries_append, ih (has_replay has) (mem_lineage member _),
      move.deliveries_events member, move.view_replay has]
    rfl

theorem born_new (moves : List Move) (has : stage.Has own) {node : AnyNode}
    (member : node ∈ stage.born own moves) :
    ¬ stage.Has node.chain ∧ (stage.replay (stage.enact own moves)).Has node.chain := by
  induction moves generalizing stage with
  | nil => cases member
  | cons move moves ih =>
    rw [enact, replay_append]
    rcases List.mem_append.mp member with first | later
    · cases move with
      | enter | leave | report => cases first
      | spawn kind held =>
        cases List.mem_singleton.mp first
        exact ⟨Nat.lt_irrefl _, has_replay has_pushChain⟩
    · obtain ⟨new, there⟩ := ih (has_replay has) later
      exact ⟨fun old => new (has_replay old), there⟩

theorem nodup_born (moves : List Move) (has : stage.Has own) :
    ((stage.born own moves).map AnyNode.chain).Nodup := by
  induction moves generalizing stage with
  | nil => exact List.nodup_nil
  | cons move moves ih =>
    have there : (stage.replay (move.events own (stage.chain own))).Has own := has_replay has
    have distinct := ih there
    cases move with
    | enter | leave | report => exact distinct
    | spawn kind held =>
      have known : (stage.replay [.spawned own]).Has stage.fresh := has_pushChain
      apply List.nodup_cons.mpr
      constructor
      · intro member
        obtain ⟨node, later, same⟩ := List.mem_map.mp member
        exact (born_new moves (has_replay has) later).1 (same.symm ▸ known)
      · exact distinct

theorem standing_born (moves : List Move) (has : stage.Has own) :
    (stage.born own moves).map (AnyNode.standing (stage.replay (stage.enact own moves))) =
      (stage.chain own).view.bornOf moves := by
  induction moves generalizing stage with
  | nil => rfl
  | cons move moves ih =>
    rw [enact, replay_append, born, List.map_append, ih (has_replay has), move.view_replay has]
    refine congrArg (· ++ _) ?_
    cases move with
    | enter | leave | report => rfl
    | spawn kind held =>
      have known : (stage.replay [.spawned own]).Has stage.fresh := has_pushChain
      have parent : (stage.replay [.spawned own]).chain stage.fresh = stage.chain own :=
        chain_pushChain_fresh
      have foreign : ∀ event ∈ (stage.replay [.spawned own]).enact own moves,
          event.chain? ≠ some stage.fresh := by
        intro event member about
        have self : stage.fresh = own := about_enact member about
        exact Nat.lt_irrefl _ (self ▸ has)
      have still := chain_replay known foreign
      exact congrArg (fun chain => [Standing.mk kind held chain.view]) (still.trans parent)

end Stage
end FluentAssert
