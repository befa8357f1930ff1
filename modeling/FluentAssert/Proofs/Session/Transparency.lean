import FluentAssert.Proofs.Chain.Suppression
import FluentAssert.Proofs.Program.Breadcrumbs
import FluentAssert.Proofs.Session.Exchange

/-! Builders and matchers are transparent. A session with builders and matchers does what the bare
session does with the built request, and then what the matchers do with the very node that came of
it. What is added to a session belongs to the new session alone. -/
namespace FluentAssert

open FluentAssert.Http

variable {ω κ α β : Type}

/-- Nothing is done on the root of a session but what sessions do there. -/
def Action.Respects (root : ChainId) (action : Action ω α) : Prop :=
  action.OfSession ∨ action.subject ≠ some root

def Program.Respects (root : ChainId) {α : Type} : Program ω κ α → Prop
  | .done _ | .start _ | .host _ | .unwind _ => True
  | .andThen first next => first.Respects root ∧ ∀ a, (next a).Respects root
  | .act action => action.Respects root
  | .within chain _ body => chain ≠ root ∧ body.Respects root
  | .observe body => body.Respects root

/-- A chain that is there stays as it is. -/
def Preserves (root : ChainId) (run : Run ω α) : Prop :=
  ∀ world, world.Has root → (run world).2.Has root ∧ (run world).2.chain root = world.chain root

namespace Preserves

variable {root : ChainId}

theorem of_follows {world last : World ω} {events : List Event} (follows : Follows world events last)
    (has : world.Has root) (foreign : ∀ event ∈ events, event.chain? ≠ some root) :
    last.Has root ∧ last.chain root = world.chain root := by
  rw [follows.stage]
  exact ⟨Stage.has_replay has, Stage.chain_replay has foreign⟩

theorem bind {first : Run ω α} {next : α → Run ω β} (hf : Preserves root first)
    (hn : ∀ a, Preserves root (next a)) : Preserves root (first >>= next) := by
  intro world has
  obtain ⟨there, same⟩ := hf world has
  rw [Run.bind_apply]
  generalize first world = result at there same ⊢
  obtain ⟨ending, middle⟩ := result
  cases ending with
  | error reason => exact ⟨there, same⟩
  | ok a =>
    obtain ⟨there', same'⟩ := hn a middle there
    exact ⟨there', same'.trans same⟩

theorem branch {chain : ChainId} {body : ChainId → Run ω α}
    (own : ∀ child, Local child (body child)) : Preserves root (chain.spawn >>= body) := by
  intro world has
  obtain ⟨events, follows, about⟩ := (own world.fresh).orderly (Run.happen (.spawned chain) world).2
  have foreign : ∀ event ∈ events, event.chain? ≠ some root := by
    intro event member same
    -- The body runs on the child alone, which was not there when the root was.
    have fresh : root = world.fresh := about event member root same
    exact Nat.lt_irrefl _ (fresh ▸ has)
  obtain ⟨there, same⟩ := of_follows follows (Stage.has_after (.spawned chain) has) foreign
  exact ⟨there, same.trans (Stage.chain_pushChain has)⟩

theorem action {action : Action ω α} (respects : action.Respects root) :
    Preserves root action.run := by
  rcases respects with ofSession | other
  · obtain ⟨chain, body, -, whole, own⟩ := action.branches ofSession
    rw [whole]
    exact branch own
  · intro world has
    obtain ⟨events, follows, about⟩ := action.parts.orderly world
    refine of_follows follows has fun event member same => ?_
    rcases about event member root same with subject | new
    · exact other subject
    · exact new has

theorem within {chain : ChainId} (label : String) {body : Run ω α} (other : chain ≠ root)
    (h : Preserves root body) : Preserves root (chain.within label body) := by
  intro world has
  have apart : root ≠ chain := Ne.symm other
  have opened : (Run.happen (.entered chain label) world).2.chain root = world.chain root :=
    Stage.chain_changeChain_other apart
  obtain ⟨there, same⟩ := h (Run.happen (.entered chain label) world).2 (Stage.has_after _ has)
  rw [ChainId.within_apply]
  exact ⟨Stage.has_after (.left chain) there,
    (Stage.chain_changeChain_other apart).trans (same.trans opened)⟩

theorem program (configs : κ → Config ω) {program : Program ω κ α}
    (respects : program.Respects root) : Preserves root (program.run configs) := by
  induction program with
  | done | host | unwind => exact fun _ has => ⟨has, rfl⟩
  | andThen _ _ ihFirst ihNext => exact bind (ihFirst respects.1) fun a => ihNext a (respects.2 a)
  | start name =>
    intro world has
    have orderly : Orderly (fun _ => False) (Session.start? (configs name)) := .start (configs name)
    obtain ⟨events, follows, about⟩ := orderly world
    exact of_follows follows has fun event member same => about event member root same
  | act _ => exact action respects
  | within _ label _ ih => exact within label respects.1 (ih respects.2)
  | observe _ ih => exact fun world has => ih respects world has

end Preserves

inductive Addition (ω : Type) where
  | copy
  | builder (change : Request → Request)
  | matcher (check : ResponseNode → Run ω Unit)

namespace Addition

def builder? : Addition ω → Option (Request → Request)
  | .builder change => some change
  | .copy | .matcher _ => none

def matcher? : Addition ω → Option (ResponseNode → Run ω Unit)
  | .matcher check => some check
  | .copy | .builder _ => none

end Addition

def Session.add (session : Session ω) : Addition ω → Run ω (Session ω)
  | .copy => session.clone
  | .builder change => session.builder change
  | .matcher check => session.matcher check

/-- Sessions that come of a configuration by additions, in worlds where programs may have used
them and any others since. -/
inductive Session.Made (config : Config ω) : List (Addition ω) → Session ω → World ω → Prop where
  | started {session : Session ω} {first world : World ω} :
    Session.start? config first = (.ok (.ok session), world) → Made config [] session world
  | added {additions : List (Addition ω)} {session more : Session ω} {world last : World ω}
    (addition : Addition ω) :
    Made config additions session world → session.add addition world = (.ok more, last) →
    Made config (additions ++ [addition]) more last
  | used {additions : List (Addition ω)} {session : Session ω} {world : World ω} {κ α : Type}
    (configs : κ → Config ω) {program : Program ω κ α} :
    Made config additions session world → program.Respects session.chain →
    Made config additions session (program.run configs world).2

namespace Session

variable {config : Config ω} {additions : List (Addition ω)} {session more : Session ω}
  {world last : World ω}

theorem add_apply (session : Session ω) (addition : Addition ω) (world : World ω) :
    ∃ more, session.add addition world = (.ok more, (Run.happen (.spawned session.chain) world).2) ∧
      more.chain = world.fresh ∧ more.client = session.client ∧
      more.requestTimeout = session.requestTimeout ∧
      more.builders = session.builders ++ addition.builder?.toList ∧
      more.matchers = session.matchers ++ addition.matcher?.toList := by
  cases addition with
  | copy => exact ⟨_, rfl, rfl, rfl, rfl, (List.append_nil _).symm, (List.append_nil _).symm⟩
  | builder change => exact ⟨_, rfl, rfl, rfl, rfl, rfl, (List.append_nil _).symm⟩
  | matcher check => exact ⟨_, rfl, rfl, rfl, rfl, (List.append_nil _).symm, rfl⟩

/-- What a session has from its configuration and its additions, and that its root is live and
outside of all scopes. -/
structure Assembled (config : Config ω) (additions : List (Addition ω)) (session : Session ω)
    (world : World ω) : Prop where
  client : session.client = config.client
  requestTimeout : session.requestTimeout = config.requestTimeout
  builders : session.builders = config.builders ++ additions.filterMap Addition.builder?
  matchers : session.matchers = config.matchers ++ additions.filterMap Addition.matcher?
  has : world.Has session.chain
  root : ∃ handler store,
    world.chain session.chain = ⟨config.testName, [], false, handler, store⟩

theorem Assembled.started (returns : start? config world = (.ok (.ok session), last)) :
    Assembled config [] session last := by
  obtain ⟨made, whole⟩ := start?_root returns
  obtain ⟨-, has, handler, store, chain, -⟩ := Config.root_chain made
  refine ⟨?_, ?_, ?_, ?_, has, handler, store, chain⟩
  · rw [whole]
  · rw [whole]
  · rw [whole]
    exact (List.append_nil _).symm
  · rw [whole]
    exact (List.append_nil _).symm

theorem filterMap_concat {γ δ : Type} (pick : γ → Option δ) (items : List γ) (item : γ) :
    (items ++ [item]).filterMap pick = items.filterMap pick ++ (pick item).toList := by
  rw [List.filterMap_append, List.filterMap_cons]
  cases pick item <;> rfl

theorem Assembled.added (assembled : Assembled config additions session world) (addition : Addition ω)
    (returns : session.add addition world = (.ok more, last)) :
    Assembled config (additions ++ [addition]) more last := by
  obtain ⟨made, returns', chain, client, requestTimeout, builders, matchers⟩ :=
    session.add_apply addition world
  cases returns.symm.trans returns'
  obtain ⟨handler, store, root⟩ := assembled.root
  have copy : (Run.happen (.spawned session.chain) world).2.chain world.fresh =
      world.chain session.chain := Stage.chain_pushChain_fresh
  refine ⟨client.trans assembled.client, requestTimeout.trans assembled.requestTimeout, ?_, ?_, ?_,
    handler, store, ?_⟩
  · rw [builders, assembled.builders, filterMap_concat, List.append_assoc]
  · rw [matchers, assembled.matchers, filterMap_concat, List.append_assoc]
  · rw [chain]
    exact Stage.has_pushChain
  · rw [chain, copy, root]

theorem Made.assembled (made : Made config additions session world) :
    Assembled config additions session world := by
  induction made with
  | started returns => exact .started returns
  | added addition _ returns ih => exact ih.added addition returns
  | used configs _ respects ih =>
    obtain ⟨has, same⟩ := Preserves.program configs respects _ ih.has
    obtain ⟨handler, store, root⟩ := ih.root
    exact { ih with has := has, root := ⟨handler, store, same.trans root⟩ }

end Session

namespace Session

variable {config : Config ω} {additions : List (Addition ω)} {session more : Session ω}
  {world last : World ω} {request : Request}

theorem runMatchers_eq (session : Session ω) (run : Run ω ResponseNode) :
    (run >>= fun node => session.runMatchers node) = do
      let node ← run >>= fun node => session.bare.runMatchers node
      session.matchers.forM fun check => check node
      return node := by
  rw [bare_runMatchers]
  rfl

theorem response_eq (session : Session ω) (reply : Response) : session.response reply = do
    let node ← session.bare.response reply
    session.matchers.forM fun check => check node
    return node :=
  runMatchers_eq session _

end Session
end FluentAssert
