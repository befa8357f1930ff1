import FluentAssert.Proofs.Run.Transitions

/-! Histories. The stage of a world is what its events make of it, and the events of a run come in a
lawful order: a chain fails right before its handler receives the failure, and a handler is called
for no chain that had failed before. -/
namespace FluentAssert

/-- What a chain has from its session, and its children from it: the name of the test, the handler
and the store. -/
def Chain.origin (chain : Chain) : Option String × HandlerId × StoreId :=
  (chain.testName, chain.handler, chain.store)

namespace Stage

variable {stage : Stage} {id other : ChainId} {chain : Chain} {change : Chain → Chain}

def Has (stage : Stage) (id : ChainId) : Prop := id.index < stage.chains.size

instance (stage : Stage) (id : ChainId) : Decidable (stage.Has id) :=
  inferInstanceAs (Decidable (id.index < stage.chains.size))

def fresh (stage : Stage) : ChainId := ⟨stage.chains.size⟩

theorem chain_missing (h : ¬ stage.Has id) : stage.chain id = default :=
  dif_neg h

theorem has_of_live (live : (stage.chain id).failed = false) : stage.Has id := by
  by_cases has : stage.Has id
  · exact has
  · rw [chain_missing has] at live
    cases live

theorem chain_changeChain (has : stage.Has id) :
    (stage.changeChain id change).chain id = change (stage.chain id) := by
  have h : id.index < stage.chains.size := has
  simp [Stage.chain, changeChain, Array.getD, Array.getElem_modify, h]

theorem chain_changeChain_other (differ : other ≠ id) :
    (stage.changeChain id change).chain other = stage.chain other := by
  have h : id.index ≠ other.index := fun same => differ (by cases id; cases other; simp_all)
  simp [Stage.chain, changeChain, Array.getD, Array.getElem_modify, h]

theorem chain_pushChain (has : stage.Has id) :
    (stage.pushChain chain).chain id = stage.chain id := by
  have h : id.index < stage.chains.size := has
  have h' : id.index < stage.chains.size + 1 := Nat.lt_succ_of_lt h
  simp [Stage.chain, pushChain, Array.getD, h, h', Array.getElem_push]

theorem chain_pushChain_fresh : (stage.pushChain chain).chain stage.fresh = chain := by
  simp [Stage.chain, pushChain, fresh, Array.getD]

theorem has_pushChain : (stage.pushChain chain).Has stage.fresh := by
  simp [Has, pushChain, fresh]

theorem eq_fresh (has : (stage.pushChain chain).Has id) (new : ¬ stage.Has id) :
    id = stage.fresh := by
  have upper : id.index < stage.chains.size + 1 := by
    simpa [Has, pushChain] using has
  have lower : stage.chains.size ≤ id.index := Nat.le_of_not_lt new
  cases id
  exact congrArg ChainId.mk (Nat.le_antisymm (Nat.le_of_lt_succ upper) lower)

theorem has_after (event : Event) (has : stage.Has id) : (stage.after event).Has id := by
  cases event with
  | began | spawned => exact Nat.lt_of_lt_of_le has (by simp [after, pushChain])
  | entered | left | failed => exact Nat.lt_of_lt_of_le has (by simp [after, changeChain])
  | called | opened | stored => exact has

end Stage

namespace Event

def chain? : Event → Option ChainId
  | .spawned id | .entered id _ | .left id | .failed id | .called id _ => some id
  | .began _ | .opened | .stored _ _ => none

/-- An event that brings no handler and calls none. -/
def Internal : Event → Prop
  | .began _ | .called _ _ => False
  | _ => True

/-- An event that neither opens nor closes a scope. -/
def Flat : Event → Prop
  | .entered _ _ | .left _ => False
  | _ => True

/-- An event without any part in failing. -/
def Quiet : Event → Prop
  | .failed _ | .called _ _ => False
  | _ => True

end Event

namespace Stage

variable {stage : Stage} {id : ChainId} {event : Event} {change : Chain → Chain}

theorem chain_after (has : stage.Has id) (foreign : event.chain? ≠ some id) :
    (stage.after event).chain id = stage.chain id := by
  have apart {own : ChainId} (h : some own ≠ some id) : id ≠ own := fun same => h (same ▸ rfl)
  cases event with
  | began | spawned => exact chain_pushChain has
  | entered | left | failed => exact chain_changeChain_other (apart foreign)
  | called | opened | stored => rfl

theorem failed_after (has : stage.Has id) (failed : (stage.chain id).failed = true) :
    ((stage.after event).chain id).failed = true := by
  by_cases own : event.chain? = some id
  · cases event with
    | began | opened | stored => cases own
    | spawned => rw [after, chain_pushChain has, failed]
    | called => exact failed
    | entered | left | failed =>
      cases own
      simp only [after, chain_changeChain has, failed]
  · rw [chain_after has own]
    exact failed

theorem failed_changeChain {own : ChainId} (kept : ∀ chain, (change chain).failed = chain.failed) :
    ((stage.changeChain own change).chain id).failed = (stage.chain id).failed := by
  by_cases same : id = own
  · by_cases has : stage.Has id
    · rw [same, chain_changeChain (same ▸ has), kept]
    · have gone : ¬ (stage.changeChain own change).Has id := by
        simpa [Has, changeChain] using has
      rw [chain_missing has, chain_missing gone]
  · exact congrArg Chain.failed (chain_changeChain_other same)

theorem failed_entered (own id : ChainId) (label : String) :
    ((stage.after (.entered own label)).chain id).failed = (stage.chain id).failed :=
  failed_changeChain fun _ => rfl

theorem failed_left (own id : ChainId) :
    ((stage.after (.left own)).chain id).failed = (stage.chain id).failed :=
  failed_changeChain fun _ => rfl

theorem failed_spawned (own : ChainId) :
    ((stage.after (.spawned own)).chain own).failed = (stage.chain own).failed := by
  by_cases has : stage.Has own
  · rw [after, chain_pushChain has]
  · by_cases has' : (stage.after (.spawned own)).Has own
    · have last : own = stage.fresh := eq_fresh has' has
      have copy : (stage.after (.spawned own)).chain stage.fresh = stage.chain own :=
        chain_pushChain_fresh
      rw [← last] at copy
      rw [copy]
    · rw [chain_missing has, chain_missing has']

theorem origin_after (has : stage.Has id) (event : Event) :
    ((stage.after event).chain id).origin = (stage.chain id).origin := by
  by_cases own : event.chain? = some id
  · cases event with
    | began | opened | stored => cases own
    | spawned => rw [after, chain_pushChain has]
    | called => rfl
    | entered | left | failed =>
      cases own
      rw [after, chain_changeChain has]
      rfl
  · rw [chain_after has own]

theorem handler_after (has : stage.Has id) (event : Event) :
    ((stage.after event).chain id).handler = (stage.chain id).handler :=
  congrArg (·.2.1) (origin_after has event)

theorem live_after (live : ((stage.after event).chain id).failed = false)
    (old : event.Internal) : ∃ source, (stage.chain source).failed = false ∧
      (stage.chain source).handler = ((stage.after event).chain id).handler := by
  have has := has_of_live live
  cases event with
  | began | called => exact old.elim
  | spawned parent =>
    by_cases here : stage.Has id
    · have same : (stage.after (.spawned parent)).chain id = stage.chain id := chain_pushChain here
      exact ⟨id, same ▸ live, congrArg Chain.handler same.symm⟩
    · have last : id = stage.fresh := eq_fresh has here
      have same : (stage.after (.spawned parent)).chain id = stage.chain parent :=
        last ▸ chain_pushChain_fresh
      exact ⟨parent, same ▸ live, congrArg Chain.handler same.symm⟩
  | failed own =>
    by_cases mine : id = own
    · cases mine
      have here : stage.Has id := by
        simpa [Has, after, changeChain] using has
      rw [after, chain_changeChain here] at live
      cases live
    · rw [after, chain_changeChain_other mine] at live ⊢
      exact ⟨id, live, rfl⟩
  | entered own | left own =>
    refine ⟨id, ?_⟩
    by_cases mine : id = own
    · cases mine
      have here : stage.Has id := by
        simpa [Has, after, changeChain] using has
      rw [after, chain_changeChain here] at live ⊢
      exact ⟨live, rfl⟩
    · rw [after, chain_changeChain_other mine] at live ⊢
      exact ⟨live, rfl⟩
  | opened | stored => exact ⟨id, live, rfl⟩

/-- Live chains have one of so many handlers. -/
def Assigned (stage : Stage) (handlers : Nat) : Prop :=
  ∀ id, (stage.chain id).failed = false → (stage.chain id).handler.index < handlers

theorem Assigned.after {handlers : Nat} (h : stage.Assigned handlers) (internal : event.Internal) :
    (stage.after event).Assigned handlers := by
  intro id live
  obtain ⟨source, live', same⟩ := live_after live internal
  exact same ▸ h source live'

theorem Assigned.began {handlers : Nat} (h : stage.Assigned handlers) {chain : Chain}
    (last : chain.handler = ⟨handlers⟩) : (stage.after (.began chain)).Assigned (handlers + 1) := by
  intro id live
  by_cases old : stage.Has id
  · have same : (stage.after (.began chain)).chain id = stage.chain id := chain_pushChain old
    rw [same] at live ⊢
    exact Nat.lt_succ_of_lt (h id live)
  · have fresh : id = stage.fresh := eq_fresh (has_of_live live) old
    have same : (stage.after (.began chain)).chain id = chain := fresh ▸ chain_pushChain_fresh
    rw [same, last]
    exact Nat.lt_succ_self _

def replay (stage : Stage) (events : List Event) : Stage := events.foldl after stage

variable {events first rest : List Event}

@[simp] theorem replay_nil : stage.replay [] = stage := rfl

@[simp] theorem replay_cons :
    stage.replay (event :: events) = (stage.after event).replay events := rfl

@[simp] theorem replay_append :
    stage.replay (first ++ rest) = (stage.replay first).replay rest := List.foldl_append

theorem replay_push (history : Array Event) :
    stage.replay (history.push event).toList = (stage.replay history.toList).after event := by
  rw [Array.toList_push, replay_append]
  rfl

theorem has_replay (has : stage.Has id) : (stage.replay events).Has id := by
  induction events generalizing stage with
  | nil => exact has
  | cons event events ih => exact ih (has_after event has)

theorem failed_replay (has : stage.Has id) (failed : (stage.chain id).failed = true) :
    ((stage.replay events).chain id).failed = true := by
  induction events generalizing stage with
  | nil => exact failed
  | cons event events ih => exact ih (has_after event has) (failed_after has failed)

theorem origin_replay (has : stage.Has id) :
    ((stage.replay events).chain id).origin = (stage.chain id).origin := by
  induction events generalizing stage with
  | nil => rfl
  | cons event events ih => exact (ih (has_after event has)).trans (origin_after has event)

theorem chain_replay (has : stage.Has id) (foreign : ∀ event ∈ events, event.chain? ≠ some id) :
    (stage.replay events).chain id = stage.chain id := by
  induction events generalizing stage with
  | nil => rfl
  | cons event events ih =>
    rw [replay_cons, ih (has_after event has) fun e he => foreign e (List.mem_cons_of_mem _ he)]
    exact chain_after has (foreign event List.mem_cons_self)

end Stage

namespace Stage

variable {stage : Stage} {id other : StoreId} {contents : Store}

def HasStore (stage : Stage) (id : StoreId) : Prop := id.index < stage.stores.size

instance (stage : Stage) (id : StoreId) : Decidable (stage.HasStore id) :=
  inferInstanceAs (Decidable (id.index < stage.stores.size))

theorem store_opened (id : StoreId) : (stage.after .opened).store id = stage.store id := by
  simp only [store, after, Array.getD_eq_getD_getElem?, Array.getElem?_push]
  split
  · rename_i new
    rw [new, Array.getElem?_eq_none (Nat.le_refl _)]
    rfl
  · rfl

theorem store_stored_self (has : stage.HasStore id) :
    (stage.after (.stored id contents)).store id = contents := by
  have h : id.index < stage.stores.size := has
  simp [store, after, h, Array.getElem_modify]

theorem store_stored_missing (missing : ¬ stage.HasStore id) :
    (stage.after (.stored id contents)).store id = stage.store id := by
  have h : stage.stores.size ≤ id.index := Nat.le_of_not_lt missing
  simp [store, after, Array.getD_eq_getD_getElem?, h]

theorem store_stored_other (differ : other ≠ id) :
    (stage.after (.stored id contents)).store other = stage.store other := by
  have h : id.index ≠ other.index := fun same => differ (by cases id; cases other; simp_all)
  simp [store, after, Array.getD_eq_getD_getElem?, Array.getElem?_modify, h]

theorem store_stored (id other : StoreId) (contents : Store) :
    (stage.after (.stored id contents)).store other = contents ∨
      (stage.after (.stored id contents)).store other = stage.store other := by
  by_cases same : other = id
  · cases same
    by_cases has : stage.HasStore id
    · exact .inl (store_stored_self has)
    · exact .inr (store_stored_missing has)
  · exact .inr (store_stored_other same)

end Stage

namespace Stage

/-- The members of a lineage after an event: a chain joins that is spawned from a member. -/
def join (stage : Stage) (members : List ChainId) : Event → List ChainId
  | .spawned parent => if parent ∈ members then members ++ [stage.fresh] else members
  | _ => members

theorem join_member {stage : Stage} {members : List ChainId} {parent : ChainId}
    (member : parent ∈ members) :
    stage.join members (.spawned parent) = members ++ [stage.fresh] := if_pos member

theorem join_other {stage : Stage} {members : List ChainId} {parent : ChainId}
    (other : parent ∉ members) : stage.join members (.spawned parent) = members := if_neg other

/-- Chains, and those that events spawn from them, directly or through others. -/
def lineage (stage : Stage) (members : List ChainId) : List Event → List ChainId
  | [] => members
  | event :: rest => (stage.after event).lineage (stage.join members event) rest

theorem mem_lineage {stage : Stage} {members : List ChainId} {id : ChainId}
    (member : id ∈ members) (events : List Event) : id ∈ stage.lineage members events := by
  induction events generalizing stage members with
  | nil => exact member
  | cons event events ih =>
    refine ih ?_
    cases event with
    | spawned parent =>
      by_cases inside : parent ∈ members
      · exact (join_member inside).symm ▸ List.mem_append_left _ member
      · exact (join_other inside).symm ▸ member
    | began | entered | left | failed | called | opened | stored => exact member

theorem forall_join {P : Chain → Prop}
    (kept : ∀ {stage : Stage} {id : ChainId} (event : Event), stage.Has id → P (stage.chain id) →
      P ((stage.after event).chain id))
    {stage : Stage} {members : List ChainId}
    (h : ∀ id ∈ members, stage.Has id ∧ P (stage.chain id)) (event : Event) :
    ∀ id ∈ stage.join members event,
      (stage.after event).Has id ∧ P ((stage.after event).chain id) := by
  have old : ∀ id ∈ members, (stage.after event).Has id ∧ P ((stage.after event).chain id) :=
    fun id member => ⟨has_after event (h id member).1, kept event (h id member).1 (h id member).2⟩
  cases event with
  | spawned parent =>
    by_cases inside : parent ∈ members
    · rw [join_member inside]
      intro id member
      rcases List.mem_append.mp member with known | joined
      · exact old id known
      · cases List.mem_singleton.mp joined
        have copy : (stage.after (.spawned parent)).chain stage.fresh = stage.chain parent :=
          chain_pushChain_fresh
        exact ⟨has_pushChain, copy ▸ (h parent inside).2⟩
    · rw [join_other inside]
      exact old
  | began | entered | left | failed | called | opened | stored => exact old

theorem forall_lineage {P : Chain → Prop}
    (kept : ∀ {stage : Stage} {id : ChainId} (event : Event), stage.Has id → P (stage.chain id) →
      P ((stage.after event).chain id))
    {stage : Stage} {members : List ChainId}
    (h : ∀ id ∈ members, stage.Has id ∧ P (stage.chain id)) (events : List Event) :
    ∀ id ∈ stage.lineage members events,
      (stage.replay events).Has id ∧ P ((stage.replay events).chain id) := by
  induction events generalizing stage members with
  | nil => exact h
  | cons event events ih => exact ih (forall_join kept h event)

theorem has_lineage {stage : Stage} {members : List ChainId} (has : ∀ id ∈ members, stage.Has id)
    (events : List Event) :
    ∀ id ∈ stage.lineage members events, (stage.replay events).Has id := by
  intro id member
  have kept {stage : Stage} {id : ChainId} (_ : Event) (_ : stage.Has id) (_ : True) : True := trivial
  exact (forall_lineage (P := fun _ => True) kept (fun id member => ⟨has id member, trivial⟩)
    events id member).1

theorem lineage_append (stage : Stage) (members : List ChainId) (first rest : List Event) :
    stage.lineage members (first ++ rest) =
      (stage.replay first).lineage (stage.lineage members first) rest := by
  induction first generalizing stage members with
  | nil => rfl
  | cons event first ih => exact ih (stage.after event) (stage.join members event)

end Stage

def Event.outcome? (id : ChainId) : Event → Option Outcome
  | .called own outcome => if own = id then some outcome else none
  | _ => none

/-- The outcomes that one chain delivers, in order. -/
def outcomes (id : ChainId) (events : List Event) : List Outcome :=
  events.filterMap (Event.outcome? id)

/-- Events in an order that runs of the library keep to. -/
inductive Lawful : Stage → List Event → Prop where
  | nil {stage : Stage} : Lawful stage []
  | quiet {stage : Stage} {event : Event} {rest : List Event} :
    event.Quiet → Lawful (stage.after event) rest → Lawful stage (event :: rest)
  | success {stage : Stage} {id : ChainId} {outcome : Outcome} {rest : List Event} :
    (stage.chain id).failed = false → outcome.finding.passed = true → Lawful stage rest →
      Lawful stage (.called id outcome :: rest)
  | failure {stage : Stage} {id : ChainId} {outcome : Outcome} {rest : List Event} :
    (stage.chain id).failed = false → outcome.finding.passed = false →
      Lawful (stage.after (.failed id)) rest →
      Lawful stage (.failed id :: .called id outcome :: rest)

theorem Lawful.append {stage : Stage} {first rest : List Event} (lawful : Lawful stage first)
    (then' : Lawful (stage.replay first) rest) : Lawful stage (first ++ rest) := by
  induction lawful with
  | nil => exact then'
  | quiet silent _ ih => exact .quiet silent (ih then')
  | success live passed _ ih => exact .success live passed (ih then')
  | failure live failing _ ih => exact .failure live failing (ih then')

/-- The second world comes of the first by lawful events. -/
structure Follows {ω : Type} (first : World ω) (events : List Event) (last : World ω) : Prop where
  history : last.history.toList = first.history.toList ++ events
  stage : last.toStage = first.toStage.replay events
  lawful : Lawful first.toStage events
  /-- Every call among the events is one run of a handler, which may unwind. -/
  transitions : World.Transitions first events last

namespace Follows

variable {ω : Type} {first middle last : World ω} {events later : List Event} {event : Event}

theorem refl (world : World ω) : Follows world [] world :=
  ⟨(List.append_nil _).symm, rfl, .nil, .refl world⟩

theorem trans (h : Follows first events middle) (h' : Follows middle later last) :
    Follows first (events ++ later) last where
  history := by rw [h'.history, h.history, List.append_assoc]
  stage := by rw [h'.stage, h.stage, Stage.replay_append]
  lawful := h.lawful.append (h.stage ▸ h'.lawful)
  transitions := h.transitions.trans h'.transitions

theorem happen (world : World ω) (silent : event.Quiet) :
    Follows world [event] (Run.happen event world).2 :=
  have uncalled : event.call? = none := by
    cases event with
    | called => exact silent.elim
    | _ => rfl
  ⟨Array.toList_push, rfl, .quiet silent .nil, .happen world uncalled⟩

/-- What neither lets anything happen nor calls a handler. -/
theorem still (stage : last.toStage = first.toStage) (transitions : World.Transitions first [] last) :
    Follows first [] last := ⟨transitions.history, stage, .nil, transitions⟩

theorem has (h : Follows first events last) {id : ChainId} (known : first.Has id) :
    last.Has id := by
  rw [h.stage]
  exact Stage.has_replay known

end Follows
end FluentAssert
