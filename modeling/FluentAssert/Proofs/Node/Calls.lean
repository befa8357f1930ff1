import FluentAssert.Proofs.Chain.Calls
import FluentAssert.Proofs.Chain.Suppression
import FluentAssert.Proofs.Node.Operation

/-! Calls that nodes make. A check calls the handler of a live node once; a step or a read calls it
with a failure or not at all; calling back and iterating make no calls of their own; and on a failed
node nothing calls it. -/
namespace FluentAssert

variable {ω κ α β : Type}

namespace Tells

variable {own : ChainId} {world : World ω} {findings : List Finding}

theorem ifLive {neutral : α} {body : Run ω α}
    (h : Tells own world body (world.audible own findings)) :
    Tells own world (own.isFailed >>= fun failed => if failed then Pure.pure neutral else body)
      (world.audible own findings) := by
  have whole : (own.isFailed >>= fun failed => if failed then Pure.pure neutral else body) world =
      (if (world.chain own).failed then Pure.pure neutral else body : Run ω α) world := rfl
  by_cases failed : (world.chain own).failed = true
  · rw [if_pos failed] at whole
    rw [World.audible, if_pos failed]
    exact still whole
  · rw [if_neg failed] at whole
    exact ⟨whole ▸ h.returns, whole ▸ h.heard⟩

theorem plan (plan : Plan) (returnsIfLive : world.HandlerReturnsIfLive own) :
    Tells own world (plan.perform own) (world.audible own plan.findings) := by
  have decided := reportAll (returnsIfLive.entered plan.label) (.inr plan.decisive)
  rw [← world.audible_entered own plan.label]
  apply within
  cases plan.live with
  | true => exact ifLive decided
  | false => exact decided

theorem landing_eq (landing : Landing β) : landing.perform (ω := ω) own = do
    return ⟨← own.within landing.label (own.reportAll landing.findings >>= fun _ => own.spawn),
      landing.held⟩ := by
  rw [ChainId.within_map]
  simp only [Landing.perform, Landing.settle, Node.spawn, bind_assoc]

theorem landing (landing : Landing β) (returnsIfLive : world.HandlerReturnsIfLive own) :
    Tells own world
      (own.within landing.label (own.reportAll landing.findings >>= fun _ => own.spawn))
      (world.audible own landing.findings) := by
  have decided := reportAll (returnsIfLive.entered landing.label) landing.failing.decisive
  have whole := within (decided.bind fun _ => spawn)
  rwa [List.append_nil, World.audible_entered] at whole

theorem inquiry (inquiry : Inquiry α) (returnsIfLive : world.HandlerReturnsIfLive own) : ∃ contents,
    Tells own world (inquiry.perform ⟨own⟩) (world.audible own (inquiry.findings contents)) := by
  let opened : World ω := (Run.happen (.entered own inquiry.label) world).2
  let contents : Store := opened.store (opened.chain own).store
  have decided : Tells own opened (inquiry.settle own contents)
      (opened.audible own (inquiry.findings contents)) :=
    .map _ (reportAll (returnsIfLive.entered inquiry.label) (inquiry.failing contents).decisive)
  refine ⟨contents, ?_⟩
  rw [← world.audible_entered own inquiry.label]
  apply within
  apply ifLive
  exact ⟨decided.returns, decided.heard⟩

theorem iter (items : List (Canonical × Nat)) :
    Tells own world (items.mapM fun (value, index) =>
      own.within ("iter()[" ++ toString index ++ "]") (Node.spawn own value)) [] := by
  induction items generalizing world with
  | nil => exact still rfl
  | cons item rest ih =>
    rw [List.mapM_cons]
    exact (within (.map _ spawn)).bind fun _ => .map _ ih

end Tells

/-- Whatever calls handlers is one of the visits. -/
def NoOwnCalls {ι : Type} (each : (ι → ValueNode → Run ω Unit) → Run ω Unit) : Prop :=
  ∀ visit, (each visit).CallsOnlyIn fun first last => ∃ i item, last = (visit i item first).2

theorem ArrayNode.each_noOwnCalls (node : ArrayNode) : NoOwnCalls (ω := ω) node.each := by
  intro visit
  apply Run.CallsOnlyIn.forM
  rintro ⟨value, index⟩
  exact .within _ _ (.bind (.spawnNode _ _) fun item => .step fun _ => ⟨index, item, rfl⟩)

theorem ObjectNode.each_noOwnCalls (node : ObjectNode) : NoOwnCalls (ω := ω) node.each := by
  intro visit
  apply Run.CallsOnlyIn.forM
  rintro ⟨key, value⟩
  exact .within _ _ (.bind (.spawnNode _ _) fun item => .step fun _ => ⟨key, item, rfl⟩)

/-- Once the chain has failed, no handler runs for it. -/
def NoCallsOnceFailed (id : ChainId) (run : Run ω α) : Prop :=
  ∀ world : World ω, world.Has id → (world.chain id).failed = true →
    ∃ events, World.Transitions world events (run world).2 ∧ outcomes id events = []

theorem Program.noCallsOnceFailed (configs : κ → Config ω) (program : Program ω κ α) (id : ChainId) :
    NoCallsOnceFailed id (program.run configs) := by
  intro world has failed
  obtain ⟨events, follows, _⟩ := program.orderly configs world
  exact ⟨events, follows.transitions, follows.lawful.outcomes_nil has failed⟩

/-- How a node calls its handler. What a check finds, and what a step finds and brings, is fixed by
the node and the arguments for all worlds, so nothing that happens changes the held value. -/
structure HandlerCalls (kind : NodeKind) (node : Node (Held kind)) : Prop where
  /-- A check on a live node is heard once, and leaves it failed if the finding has errors. -/
  check : ∀ what : Check kind, ∃ finding, ∀ (ω : Type) (world : World ω),
    world.HandlerReturns node.chain → (world.chain node.chain).failed = false →
    Tells node.chain world (what.perform node) [finding]
  /-- A step from a live node is heard at most once, with a failure, and returns in any case. -/
  step : ∀ (target : NodeKind) (what : Step kind target), ∃ (found : Option Finding) (held : _),
    (∀ finding ∈ found, finding.passed = false) ∧ ∀ (ω : Type) (world : World ω),
      world.HandlerReturns node.chain → (world.chain node.chain).failed = false →
      Tells node.chain world (what.perform node) found.toList ∧
        ∃ child, (what.perform node world).1 = .ok ⟨child, held⟩
  read : ∀ (α : Type) (what : Read α) (ω : Type) (world : World ω),
    world.HandlerReturns node.chain → (world.chain node.chain).failed = false →
    ∃ found : Option Finding, (∀ finding ∈ found, finding.passed = false) ∧
      Tells node.chain world (what.perform node.env) found.toList
  use : ∀ (α : Type) (what : Use α) (ω : Type) (world : World ω),
    Heard node.chain world (what.through node.env world).2 []
  clone : ∀ (ω : Type) (world : World ω), Tells node.chain world node.clone []
  /-- On a failed node nothing is heard, and everything returns. -/
  failed : ∀ (ω : Type) (world : World ω), (world.chain node.chain).failed = true →
    (∀ what : Check kind, Tells node.chain world (what.perform node) []) ∧
    (∀ (target : NodeKind) (what : Step kind target),
      Tells node.chain world (what.perform node) []) ∧
    ∀ (α : Type) (what : Read α), Tells node.chain world (what.perform node.env) []

structure ArrayHandlerCalls (node : ArrayNode) : Prop extends HandlerCalls .array node where
  iter : ∀ (ω : Type) (world : World ω), Tells node.chain world node.iter []
  each : ∀ ω : Type, NoOwnCalls (ω := ω) node.each
  each_failed : ∀ (ω κ : Type) (configs : κ → Config ω) (visit : Nat → ValueNode → Program ω κ Unit),
    NoCallsOnceFailed node.chain (node.each fun index item => (visit index item).run configs)

structure ObjectHandlerCalls (node : ObjectNode) : Prop extends HandlerCalls .object node where
  each : ∀ ω : Type, NoOwnCalls (ω := ω) node.each
  each_failed : ∀ (ω κ : Type) (configs : κ → Config ω)
    (visit : String → ValueNode → Program ω κ Unit),
    NoCallsOnceFailed node.chain (node.each fun key item => (visit key item).run configs)

def AnyNode.HandlerCalls : AnyNode → Prop
  | ⟨.array, chain, held⟩ => ArrayHandlerCalls ⟨chain, held⟩
  | ⟨.object, chain, held⟩ => ObjectHandlerCalls ⟨chain, held⟩
  | ⟨kind, chain, held⟩ => FluentAssert.HandlerCalls kind ⟨chain, held⟩

theorem World.audible_live {world : World ω} {id : ChainId}
    (live : (world.chain id).failed = false) (findings : List Finding) :
    world.audible id findings = findings.head?.toList := by
  rw [World.audible, live]
  rfl

theorem World.audible_failed {world : World ω} {id : ChainId}
    (failed : (world.chain id).failed = true) (findings : List Finding) :
    world.audible id findings = [] := if_pos failed

namespace Tells

theorem check {kind : NodeKind} (node : Node (Held kind)) (what : Check kind) :
    ∃ plan : Plan, ∀ (ω : Type) (world : World ω), world.HandlerReturnsIfLive node.chain →
      Tells node.chain world (what.perform node) (world.audible node.chain plan.findings) := by
  obtain ⟨scheme, same⟩ := what.planned node.value
  refine ⟨scheme, fun ω world returnsIfLive => ?_⟩
  have whole : what.perform node = scheme.perform node.chain := same ω node.chain
  exact whole ▸ plan scheme returnsIfLive

theorem step {kind target : NodeKind} (node : Node (Held kind)) (what : Step kind target) :
    ∃ landing : Landing (Held target), ∀ (ω : Type) (world : World ω),
      world.HandlerReturnsIfLive node.chain →
      Tells node.chain world (what.perform node) (world.audible node.chain landing.findings) ∧
        ∃ child, (what.perform node world).1 = .ok ⟨child, landing.held⟩ := by
  obtain ⟨scheme, same⟩ := what.charted node.value
  refine ⟨scheme, fun ω world returnsIfLive => ?_⟩
  have whole : what.perform node = scheme.perform node.chain := same ω node.chain
  have scope := landing scheme returnsIfLive
  rw [whole, landing_eq]
  exact ⟨scope.map _, scope.map_returns _⟩

theorem read (chain : ChainId) (what : Read α) (world : World ω)
    (returnsIfLive : world.HandlerReturnsIfLive chain) : ∃ findings, Failing findings ∧
      Tells chain world (what.perform ⟨chain⟩) (world.audible chain findings) := by
  obtain ⟨contents, tells⟩ := inquiry what.inquiry returnsIfLive
  rw [what.perform_inquiry]
  exact ⟨_, what.inquiry.failing contents, tells⟩

end Tells

theorem Heard.through (handle : Handle) (what : Use α) (world : World ω) :
    Heard handle.chain world (what.through handle world).2 [] := by
  have whole : what.through handle world =
      what.perform (world.chain handle.chain).store world := by
    cases what <;> rfl
  exact whole ▸ .use handle.chain _ what world

theorem Failing.head {findings : List Finding} (h : Failing findings) :
    ∀ finding ∈ findings.head?, finding.passed = false := by
  intro finding first
  exact h finding (List.mem_of_mem_head? first)

theorem Node.handlerCalls {kind : NodeKind} (node : Node (Held kind)) : HandlerCalls kind node where
  check what := by
    obtain ⟨plan, tells⟩ := Tells.check node what
    obtain ⟨finding, rest, whole⟩ : ∃ finding rest, plan.findings = finding :: rest := by
      cases h : plan.findings with
      | nil => exact (h ▸ plan.decisive).elim
      | cons finding rest => exact ⟨finding, rest, rfl⟩
    refine ⟨finding, fun ω world handlerReturns live => ?_⟩
    have once := tells ω world fun _ => handlerReturns
    rwa [World.audible_live live, whole] at once
  step target what := by
    obtain ⟨landing, tells⟩ := Tells.step node what
    refine ⟨landing.findings.head?, landing.held, landing.failing.head, ?_⟩
    intro ω world handlerReturns live
    have once := tells ω world fun _ => handlerReturns
    rwa [World.audible_live live] at once
  read α what ω world handlerReturns live := by
    obtain ⟨findings, failing, tells⟩ := Tells.read node.chain what world fun _ => handlerReturns
    rw [World.audible_live live] at tells
    exact ⟨findings.head?, failing.head, tells⟩
  use α what ω world := .through node.env what world
  clone ω world := .map _ .spawn
  failed ω world failed := by
    have returnsIfLive : world.HandlerReturnsIfLive node.chain := by
      intro live
      rw [failed] at live
      cases live
    refine ⟨fun what => ?_, fun target what => ?_, fun α what => ?_⟩
    · obtain ⟨plan, tells⟩ := Tells.check node what
      exact World.audible_failed failed plan.findings ▸ tells ω world returnsIfLive
    · obtain ⟨landing, tells⟩ := Tells.step node what
      exact World.audible_failed failed landing.findings ▸ (tells ω world returnsIfLive).1
    · obtain ⟨findings, _, tells⟩ := Tells.read node.chain what world returnsIfLive
      exact World.audible_failed failed findings ▸ tells

/-- Nodes of every kind call their handlers once for a check, at most once for a step or a read,
and not at all once they have failed. -/
theorem AnyNode.heard_once (node : AnyNode) : node.HandlerCalls := by
  obtain ⟨kind, chain, held⟩ := node
  cases kind with
  | array =>
    refine { Node.handlerCalls ⟨chain, held⟩ with iter := ?_, each := ?_, each_failed := ?_ }
    · exact fun ω world => .iter _
    · exact fun ω => ArrayNode.each_noOwnCalls _
    · intro ω κ configs visit
      rw [← Program.run_eachItem]
      exact Program.noCallsOnceFailed configs _ chain
  | object =>
    refine { Node.handlerCalls ⟨chain, held⟩ with each := ?_, each_failed := ?_ }
    · exact fun ω => ObjectNode.each_noOwnCalls _
    · intro ω κ configs visit
      rw [← Program.run_eachField]
      exact Program.noCallsOnceFailed configs _ chain
  | value | text | number | boolean | captures | response => exact Node.handlerCalls ⟨chain, held⟩

/-- A denied boolean on a live chain is heard once. -/
theorem AnyNode.heard_once_denied : ∃ finding, Tells ⟨0⟩
    { World.start () with chains := #[⟨none, [], false, ⟨0⟩, ⟨0⟩⟩] }
    (BooleanNode.isTrue ⟨⟨0⟩, false⟩) [finding] := by
  obtain ⟨finding, once⟩ := (AnyNode.heard_once ⟨.boolean, ⟨0⟩, false⟩).check BooleanNode.Check.isTrue
  exact ⟨finding, once Unit _ Handler.audit_returns rfl⟩

end FluentAssert
