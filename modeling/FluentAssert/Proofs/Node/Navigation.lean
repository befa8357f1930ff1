import FluentAssert.Proofs.Chain.Calls
import FluentAssert.Proofs.Node.Operation

/-! Steps from node to node. A step makes a new node one label deeper, in the state that it leaves
the old one in; the old one fails if the target of the step is missing, and is the same otherwise.
-/
namespace FluentAssert

variable {ω β : Type}

theorem World.HandlerReturnsIfLive.report {world : World ω} {own : ChainId}
    (returnsIfLive : world.HandlerReturnsIfLive own) (finding : Finding) :
    (own.report finding world).1 = .ok () := by
  have tells : ∃ findings, Tells own world (own.report finding) findings := by
    by_cases failed : (world.chain own).failed = true
    · exact ⟨[], .report_failed failed finding⟩
    · have live : (world.chain own).failed = false := Bool.eq_false_iff.mpr failed
      exact ⟨[finding], .report_live live (returnsIfLive live) finding⟩
  obtain ⟨findings, told⟩ := tells
  exact told.returns.choose_spec

/-- Nothing but the failure of this chain was marked, and only if something is lacking. -/
structure Marked (own : ChainId) (lacking : Bool) (first last : Stage) : Prop where
  chain : last.chain own = { first.chain own with failed := (first.chain own).failed || lacking }
  others : ∀ id, id ≠ own → last.chain id = first.chain id
  size : last.chains.size = first.chains.size

/-- A step of one chain has made another under this label. -/
structure Arrived (own child : ChainId) (label : String) (lacking : Bool) (first last : Stage) :
    Prop where
  new : ¬ first.Has child ∧ last.Has child
  /-- Besides its failure, the old chain keeps everything. -/
  receiver :
    last.chain own = { first.chain own with failed := (first.chain own).failed || lacking }
  child : last.chain child = (last.chain own).inside label
  others : ∀ id, first.Has id → id ≠ own → last.chain id = first.chain id

namespace Marked

variable {own : ChainId} {lacking : Bool} {label : String} {finding : Finding}

theorem refl (own : ChainId) (stage : Stage) : Marked own false stage stage where
  chain := by rw [Bool.or_false]
  others _ _ := rfl
  size := rfl

theorem report {world : World ω} (has : world.Has own) (fails : finding.passed = false) :
    Marked own true world.toStage (own.report finding world).2.toStage := by
  have follows := own.report_follows finding world
  rw [follows.stage, Event.ofReport]
  by_cases failed : (world.chain own).failed = true
  · rw [if_pos failed]
    refine ⟨?_, fun _ _ => rfl, rfl⟩
    show world.chain own = _
    rw [failed, Bool.true_or, ← failed]
  · rw [if_neg failed, if_neg (by simp [fails])]
    refine ⟨?_, ?_, ?_⟩
    · rw [Bool.or_true]
      exact Stage.chain_changeChain has
    · intro id differ
      exact Stage.chain_changeChain_other differ
    · exact Array.size_modify

theorem closed {world inner : World ω} (has : world.Has own)
    (marked : Marked own lacking (world.after (.entered own label)) inner.toStage) :
    Arrived own inner.fresh label lacking world.toStage (World.closed own inner).toStage := by
  let opened : Stage := world.after (.entered own label)
  let spawned : Stage := inner.after (.spawned own)
  have inside : opened.chain own = (world.chain own).inside label := Stage.chain_changeChain has
  have size : inner.chains.size = world.chains.size := marked.size.trans Array.size_modify
  have there : inner.Has own := by
    rw [Stage.Has, size]
    exact has
  have node : (World.closed own inner).chain inner.fresh = inner.chain own :=
    World.closed_node there
  have left : (World.closed own inner).chain own =
      { spawned.chain own with path := (spawned.chain own).path.dropLast } :=
    Stage.chain_changeChain (Stage.has_after _ there)
  have kept : spawned.chain own = inner.chain own := Stage.chain_pushChain there
  have receiver : (World.closed own inner).chain own =
      { world.chain own with failed := (world.chain own).failed || lacking } := by
    rw [left, kept, marked.chain, inside]
    simp [Chain.inside]
  refine ⟨⟨?_, Stage.has_after _ Stage.has_pushChain⟩, receiver, ?_, ?_⟩
  · show ¬ inner.chains.size < world.chains.size
    exact size ▸ Nat.lt_irrefl _
  · rw [node, receiver, marked.chain, inside]
    rfl
  · intro id known differ
    have here : inner.Has id := by
      rw [Stage.Has, size]
      exact known
    calc (World.closed own inner).chain id = spawned.chain id := Stage.chain_changeChain_other differ
      _ = inner.chain id := Stage.chain_pushChain here
      _ = opened.chain id := marked.others id differ
      _ = world.chain id := Stage.chain_changeChain_other differ

end Marked

theorem Routed.arrived {label : String} {target : Option β} {neutral : β}
    {body : ∀ ω : Type, ChainId → Run ω (Node β)} (routed : Routed label target neutral body)
    {own : ChainId} {world : World ω} (has : world.Has own)
    (returnsIfLive : world.HandlerReturnsIfLive own) :
    ∃ child last, body ω own world = (.ok ⟨child, target.getD neutral⟩, last) ∧
      Arrived own child label target.isNone world.toStage last.toStage := by
  obtain ⟨lack, fails, same⟩ := routed
  let opened : World ω := (Run.happen (.entered own label) world).2
  have there : opened.Has own := Stage.has_after (.entered own label) has
  cases target with
  | some held =>
    refine ⟨opened.fresh, World.closed own opened, ?_, (Marked.refl own _).closed has⟩
    rw [same]
    rfl
  | none =>
    let inner : World ω := (own.report lack opened).2
    have settles : Node.spawnFailed own lack neutral opened =
        (.ok ⟨inner.fresh, neutral⟩, (Run.happen (.spawned own) inner).2) :=
      Run.bind_returned ((returnsIfLive.entered label).report lack) _
    refine ⟨inner.fresh, World.closed own inner, ?_, (Marked.report there fails).closed has⟩
    rw [same, ChainId.within_apply]
    exact congrArg (fun result => (result.1, (Run.happen (.left own) result.2).2)) settles

namespace ValueNode.Step

/-- The one conversion that a value allows. -/
def ofValue? : Canonical → Option (Σ target, Step target)
  | .null => none
  | .object _ => some ⟨_, .object⟩
  | .array _ => some ⟨_, .array⟩
  | .text _ => some ⟨_, .string⟩
  | .number _ => some ⟨_, .number⟩
  | .bool _ => some ⟨_, .boolean⟩

theorem eq_ofValue? {value : Canonical} {target : NodeKind} {step : Step target}
    (found : (step.target? value).isNone = false) : ofValue? value = some ⟨target, step⟩ := by
  cases step with
  | object =>
    cases value with
    | object => rfl
    | null | bool | number | text | array => cases found
  | array =>
    cases value with
    | array => rfl
    | null | bool | number | text | object => cases found
  | string =>
    cases value with
    | text => rfl
    | null | bool | number | array | object => cases found
  | number =>
    cases value with
    | number => rfl
    | null | bool | text | array | object => cases found
  | boolean =>
    cases value with
    | bool => rfl
    | null | number | text | array | object => cases found

end ValueNode.Step

/-- How the steps from a node go. The handler has to return, unless the chain makes no use of it. -/
structure Navigable (kind : NodeKind) (node : Node (Held kind)) : Prop where
  step : ∀ (target : NodeKind) (what : Step kind target) (ω : Type) (world : World ω),
    world.Has node.chain → world.HandlerReturnsIfLive node.chain → ∃ child last,
      what.perform node world =
        (.ok ⟨child, (what.target? node.value).getD target.neutral⟩, last) ∧
      Arrived node.chain child what.label (what.target? node.value).isNone world.toStage last.toStage

structure NavigableValue (node : ValueNode) : Prop extends Navigable .value node where
  /-- Two conversions that both leave the node live are one. -/
  single : ∀ (first second : Σ target, ValueNode.Step target) (ω : Type) (world : World ω),
    world.Has node.chain → world.HandlerReturnsIfLive node.chain →
    ((first.2.perform node world).2.chain node.chain).failed = false →
    ((second.2.perform node world).2.chain node.chain).failed = false → first = second
  null : node.value = .null → ∀ (what : Σ target, ValueNode.Step target) (ω : Type)
    (world : World ω), world.Has node.chain → world.HandlerReturnsIfLive node.chain →
    ((what.2.perform node world).2.chain node.chain).failed = true

def AnyNode.Navigable : AnyNode → Prop
  | ⟨.value, chain, held⟩ => NavigableValue ⟨chain, held⟩
  | ⟨kind, chain, held⟩ => FluentAssert.Navigable kind ⟨chain, held⟩

theorem Node.navigable_steps {kind : NodeKind} (node : Node (Held kind)) : Navigable kind node where
  step _ what _ _ has returnsIfLive := (what.routed node.value).arrived has returnsIfLive

theorem ValueNode.failed_step (node : ValueNode) {target : NodeKind} (what : Step target)
    {world : World ω} (has : world.Has node.chain)
    (returnsIfLive : world.HandlerReturnsIfLive node.chain) :
    ((what.perform node world).2.chain node.chain).failed =
      ((world.chain node.chain).failed || (what.target? node.value).isNone) := by
  obtain ⟨child, last, returns, arrived⟩ := (ValueNode.routed what node.value).arrived has returnsIfLive
  have left : (what.perform node world).2 = last := congrArg Prod.snd returns
  rw [left, arrived.receiver]

/-- Every step goes one label deeper, holds what it was to find and leaves both nodes in one state:
live if they were and there is a target, failed otherwise. -/
theorem AnyNode.navigable (node : AnyNode) : node.Navigable := by
  obtain ⟨kind, chain, held⟩ := node
  cases kind with
  | value =>
    have steps : FluentAssert.Navigable .value ⟨chain, held⟩ := Node.navigable_steps _
    refine { steps with single := ?_, null := ?_ }
    · intro first second ω world has returnsIfLive live live'
      rw [ValueNode.failed_step _ _ has returnsIfLive, Bool.or_eq_false_iff] at live live'
      have one := ValueNode.Step.eq_ofValue? live.2
      have other := ValueNode.Step.eq_ofValue? live'.2
      exact Option.some.inj (one.symm.trans other)
    · rintro null ⟨target, what⟩ ω world has returnsIfLive
      rw [ValueNode.failed_step _ _ has returnsIfLive, null]
      cases what <;> exact Bool.or_true _
  | object | array | text | number | boolean | captures | response =>
    exact Node.navigable_steps ⟨chain, held⟩

/-- Beyond the end of an array that was itself reached by a step. -/
theorem AnyNode.navigable_missing : ∃ child last,
    ArrayNode.element ⟨⟨0⟩, [.bool true]⟩ 2
      { World.start () with chains := #[⟨none, ["array()"], false, ⟨0⟩, ⟨0⟩⟩] } =
        (.ok ⟨child, .null⟩, last) ∧
    last.chain ⟨0⟩ = ⟨none, ["array()"], true, ⟨0⟩, ⟨0⟩⟩ ∧
    last.chain child = ⟨none, ["array()", "element(2)"], true, ⟨0⟩, ⟨0⟩⟩ := by
  let node : AnyNode := ⟨.array, ⟨0⟩, [.bool true]⟩
  let world : World Unit := { World.start () with chains := #[⟨none, ["array()"], false, ⟨0⟩, ⟨0⟩⟩] }
  have has : world.Has node.chain := by decide
  have returnsIfLive : world.HandlerReturnsIfLive node.chain := fun _ => Handler.audit_returns
  obtain ⟨child, last, returns, arrived⟩ :=
    (AnyNode.navigable node).step .value (ArrayNode.Step.element 2) Unit world has returnsIfLive
  have receiver : last.chain ⟨0⟩ = ⟨none, ["array()"], true, ⟨0⟩, ⟨0⟩⟩ := arrived.receiver
  refine ⟨child, last, returns, receiver, ?_⟩
  rw [arrived.child, receiver]
  rfl

end FluentAssert
