import FluentAssert.Proofs.Handler
import FluentAssert.Proofs.Operation.Inquiry

/-! Local runs: runs that change no chain but their own, and no store. Every operation of a node is
local to the chain of the node, so what is said of local runs is said of all operations. -/
namespace FluentAssert

/-- Runs put together from what one chain and the stores offer. -/
inductive Local {ω : Type} (own : ChainId) : {α : Type} → Run ω α → Prop where
  | pure {α : Type} (a : α) : Local own (Pure.pure a)
  | bind {α β : Type} {first : Run ω α} {next : α → Run ω β} :
    Local own first → (∀ a, Local own (next a)) → Local own (first >>= next)
  | within {α : Type} (label : String) {body : Run ω α} :
    Local own body → Local own (own.within label body)
  | state : Local own own.state
  | spawn : Local own own.spawn
  | report (finding : Finding) : Local own (own.report finding)
  | newStore : Local own Run.newStore
  | contents (store : StoreId) : Local own store.contents
  | record (entry : Entry) : entry.Own → Local own (Run.record entry)

/-- A property of runs that the steps of local runs have, and that runs keep which are put together
from others. Chains may be touched where `about` holds of them. -/
structure Composed {ω : Type} (about : ChainId → Prop) (P : {α : Type} → Run ω α → Prop) : Prop where
  pure : ∀ {α : Type} (a : α), P (Pure.pure a)
  bind : ∀ {α β : Type} {first : Run ω α} {next : α → Run ω β},
    P first → (∀ a, P (next a)) → P (first >>= next)
  within : ∀ {α : Type} own label {body : Run ω α}, about own → P body → P (own.within label body)
  state : ∀ own : ChainId, P own.state
  spawn : ∀ own : ChainId, about own → P own.spawn
  report : ∀ (own : ChainId) finding, about own → P (own.report finding)
  newStore : P Run.newStore
  contents : ∀ store : StoreId, P store.contents
  record : ∀ entry : Entry, entry.Own → P (Run.record entry)

theorem Composed.of_local {ω α : Type} {about : ChainId → Prop} {P : {α : Type} → Run ω α → Prop}
    (composed : Composed about P) {own : ChainId} (allowed : about own) {run : Run ω α}
    (h : Local own run) : P run := by
  induction h with
  | pure a => exact composed.pure a
  | bind _ _ ihFirst ihNext => exact composed.bind ihFirst ihNext
  | within label _ ih => exact composed.within own label allowed ih
  | state => exact composed.state own
  | spawn => exact composed.spawn own allowed
  | report finding => exact composed.report own finding allowed
  | newStore => exact composed.newStore
  | contents store => exact composed.contents store
  | record entry mine => exact composed.record entry mine

namespace Local

variable {ω α β : Type} {own : ChainId}

theorem map {run : Run ω α} (f : α → β) (h : Local own run) :
    Local own (do return f (← run)) :=
  .bind h fun _ => .pure _

theorem isFailed : Local (ω := ω) own own.isFailed := .map _ .state

theorem whileLive {body : Run ω Unit} (h : Local own body) : Local own (own.whileLive body) := by
  apply Local.bind isFailed
  intro failed
  cases failed with
  | false => exact h
  | true => exact .pure _

theorem reportAll (findings : List Finding) : Local (ω := ω) own (own.reportAll findings) := by
  induction findings with
  | nil => exact .pure _
  | cons finding rest ih => exact .bind (.report finding) fun _ => ih

theorem spawnNode (value : α) : Local (ω := ω) own (Node.spawn own value) := .map _ .spawn

theorem plan (plan : Plan) : Local (ω := ω) own (plan.perform own) := by
  refine .within _ ?_
  cases plan.live with
  | false => exact reportAll _
  | true => exact whileLive (reportAll _)

theorem landing (landing : Landing β) : Local (ω := ω) own (landing.perform own) :=
  .within _ (.bind (reportAll _) fun _ => spawnNode _)

theorem check {kind : NodeKind} (node : Node (Held kind)) (check : Check kind) :
    Local (ω := ω) node.chain (check.perform node) := by
  obtain ⟨scheme, h⟩ := check.planned node.value
  have whole : check.perform node = scheme.perform node.chain := h ω node.chain
  exact whole ▸ plan scheme

theorem step {kind target : NodeKind} (node : Node (Held kind)) (step : Step kind target) :
    Local (ω := ω) node.chain (step.perform node) := by
  obtain ⟨scheme, h⟩ := step.charted node.value
  have whole : step.perform node = scheme.perform node.chain := h ω node.chain
  exact whole ▸ landing scheme

theorem clone (node : Node α) : Local (ω := ω) node.chain node.clone := .map _ .spawn

theorem mapM {visit : α → Run ω β} (items : List α) (h : ∀ item, Local own (visit item)) :
    Local own (items.mapM visit) := by
  induction items with
  | nil => exact .pure _
  | cons item rest ih =>
    rw [List.mapM_cons]
    exact .bind (h item) fun _ => .map _ ih

theorem iter (node : ArrayNode) : Local (ω := ω) node.chain node.iter :=
  mapM _ fun _ => .within _ (spawnNode _)

theorem inquiry (inquiry : Inquiry α) (handle : Handle) :
    Local (ω := ω) handle.chain (inquiry.perform handle) := by
  apply Local.within
  apply Local.bind isFailed
  intro failed
  cases failed with
  | true => exact .pure inquiry.neutral
  | false =>
    apply Local.bind (.map _ .state)
    intro store
    exact .bind (.contents store) fun contents => .map _ (reportAll _)

theorem read (handle : Handle) (read : Read α) :
    Local (ω := ω) handle.chain (read.perform handle) := by
  rw [read.perform_inquiry]
  exact inquiry read.inquiry handle

end Local
end FluentAssert
