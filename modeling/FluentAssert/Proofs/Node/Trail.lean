import FluentAssert.Proofs.Node.Calls

/-! Operations in a row, each on the node that the one before has made. A node begins in the state
of the one that it comes from, so of all that is found on the way the first finding is delivered,
and nothing else. -/
namespace FluentAssert

variable {ω α β γ : Type}

/-- The run calls handlers with these findings, for whichever chains. -/
def Delivers (world : World ω) (run : Run ω α) (findings : List Finding) : Prop :=
  ∃ calls : List (ChainId × Outcome), (run world).2.calls = world.calls ++ calls ∧
    calls.map (·.2.finding) = findings

/-- The run leads from a chain to a node that holds this, and finds so much on the way. Whatever the
handler does, the findings are delivered as far as they are audible. If the run unwinds, the chain
was live and something was found. -/
structure Leads (own : ChainId) (world : World ω) (run : Run ω (Node β)) (held : β)
    (findings : List Finding) : Prop where
  delivers : Delivers world run (world.audible own findings)
  node : ∀ node last, run world = (.ok node, last) → node.value = held ∧ last.Has node.chain ∧
    (last.chain node.chain).failed = ((world.chain own).failed || !findings.isEmpty) ∧
    (world.HandlerReturns own → last.HandlerReturns node.chain)
  unwinds : ∀ reason last, run world = (.error reason, last) →
    (world.chain own).failed = false ∧ findings ≠ []
  returns : world.HandlerReturnsIfLive own → ∃ node last, run world = (.ok node, last)

namespace Delivers

variable {world last : World ω} {first : Run ω α} {next : α → Run ω β}
  {findings later other : List Finding}

theorem unique {run : Run ω α} (h : Delivers world run findings)
    (h' : Delivers world run other) : findings = other := by
  obtain ⟨calls, whole, rfl⟩ := h
  obtain ⟨calls', whole', rfl⟩ := h'
  have same : calls = calls' := List.append_cancel_left (whole.symm.trans whole')
  rw [same]

theorem of_heard {own : ChainId} {run : Run ω α} (heard : Heard own world (run world).2 findings) :
    Delivers world run findings := by
  obtain ⟨outcomes, same, whole⟩ := heard.runs.calls
  refine ⟨_, whole, ?_⟩
  rw [List.map_map, ← same]
  rfl

theorem bind {a : α} (returned : first world = (.ok a, last)) (hf : Delivers world first findings)
    (hn : Delivers last (next a) later) : Delivers world (first >>= next) (findings ++ later) := by
  obtain ⟨calls, whole, rfl⟩ := hf
  obtain ⟨calls', whole', rfl⟩ := hn
  refine ⟨calls ++ calls', ?_, List.map_append⟩
  rw [returned] at whole
  rw [Run.bind_apply, returned]
  simp only [whole', whole, List.append_assoc]

theorem bind_unwound {reason : String} (unwound : first world = (.error reason, last))
    (hf : Delivers world first findings) : Delivers world (first >>= next) findings := by
  obtain ⟨calls, whole, same⟩ := hf
  refine ⟨calls, ?_, same⟩
  rw [Run.bind_apply]
  rw [unwound] at whole ⊢
  exact whole

end Delivers

theorem Heard.reportAll {own : ChainId} (world : World ω) {findings : List Finding}
    (decisive : findings = [] ∨ Decisive findings) :
    Heard own world (own.reportAll findings world).2 (world.audible own findings) := by
  by_cases failed : (world.chain own).failed = true
  · rw [World.audible_failed failed]
    exact (Tells.reportAll_failed failed findings).heard
  · have live : (world.chain own).failed = false := Bool.eq_false_iff.mpr failed
    rw [World.audible_live live]
    cases findings with
    | nil => exact .refl world
    | cons finding rest => exact .reportAll_live live (decisive.resolve_left (List.cons_ne_nil _ _))

theorem Heard.failed_audible {own : ChainId} {world last : World ω} {findings : List Finding}
    (failing : Failing findings) (heard : Heard own world last (world.audible own findings)) :
    (last.chain own).failed = ((world.chain own).failed || !findings.isEmpty) := by
  rw [heard.failed]
  cases failed : (world.chain own).failed with
  | true => rfl
  | false =>
    rw [World.audible_live failed]
    cases findings with
    | nil => rfl
    | cons finding rest => simp [failing finding List.mem_cons_self]

theorem World.audible_append {own child : ChainId} {world last : World ω}
    {findings later : List Finding}
    (same : (last.chain child).failed = ((world.chain own).failed || !findings.isEmpty)) :
    world.audible own (findings ++ later) =
      world.audible own findings ++ last.audible child later := by
  simp only [World.audible, same]
  cases (world.chain own).failed with
  | true => rfl
  | false => cases findings <;> simp

namespace Leads

variable {own : ChainId} {world : World ω} {run : Run ω (Node β)} {held : β} {held' : γ}
  {findings later : List Finding}

theorem returnsIfLive (h : Leads own world run held findings)
    (returnsIfLive : world.HandlerReturnsIfLive own) {node : Node β} {last : World ω}
    (returned : run world = (.ok node, last)) :
    last.HandlerReturnsIfLive node.chain := by
  obtain ⟨-, -, same, handlerReturns⟩ := h.node node last returned
  intro live
  rw [same, Bool.or_eq_false_iff] at live
  exact handlerReturns (returnsIfLive live.1)

theorem delivers_bind {next : Node β → Run ω α} (h : Leads own world run held findings)
    (hn : ∀ node last, node.value = held → last.Has node.chain →
      Delivers last (next node) (last.audible node.chain later)) :
    Delivers world (run >>= next) (world.audible own (findings ++ later)) := by
  cases result : run world with
  | mk ending last =>
    cases ending with
    | error reason =>
      obtain ⟨live, some⟩ := h.unwinds reason last result
      have whole : world.audible own (findings ++ later) = world.audible own findings := by
        rw [World.audible_live live, World.audible_live live, List.head?_append_of_ne_nil _ some]
      rw [whole]
      exact h.delivers.bind_unwound result
    | ok node =>
      obtain ⟨value, has, same, -⟩ := h.node node last result
      rw [World.audible_append same]
      exact h.delivers.bind result (hn node last value has)

theorem bind {next : Node β → Run ω (Node γ)} (h : Leads own world run held findings)
    (hn : ∀ node last, node.value = held → last.Has node.chain →
      Leads node.chain last (next node) held' later) :
    Leads own world (run >>= next) held' (findings ++ later) where
  delivers := h.delivers_bind fun node last value has => (hn node last value has).delivers
  node final last returned := by
    rw [Run.bind_apply] at returned
    cases result : run world with
    | mk ending middle =>
      rw [result] at returned
      cases ending with
      | error reason => cases returned
      | ok node =>
        obtain ⟨value, has, same, handlerReturns⟩ := h.node node middle result
        obtain ⟨value', has', same', handlerReturns'⟩ :=
          (hn node middle value has).node final last returned
        refine ⟨value', has', ?_, fun own => handlerReturns' (handlerReturns own)⟩
        rw [same', same, Bool.or_assoc]
        cases findings <;> simp
  unwinds reason last returned := by
    rw [Run.bind_apply] at returned
    cases result : run world with
    | mk ending middle =>
      rw [result] at returned
      cases ending with
      | error reason' =>
        obtain ⟨live, some⟩ := h.unwinds reason' middle result
        exact ⟨live, List.append_ne_nil_of_left_ne_nil some _⟩
      | ok node =>
        obtain ⟨value, has, same, -⟩ := h.node node middle result
        obtain ⟨live, some⟩ := (hn node middle value has).unwinds reason last returned
        rw [same, Bool.or_eq_false_iff] at live
        exact ⟨live.1, List.append_ne_nil_of_right_ne_nil _ some⟩
  returns returnsIfLive := by
    obtain ⟨node, middle, returned⟩ := h.returns returnsIfLive
    obtain ⟨value, has, -⟩ := h.node node middle returned
    have returnsIfLive' : middle.HandlerReturnsIfLive node.chain :=
      h.returnsIfLive returnsIfLive returned
    obtain ⟨final, last, returned'⟩ := (hn node middle value has).returns returnsIfLive'
    refine ⟨final, last, ?_⟩
    rw [Run.bind_apply, returned]
    exact returned'

theorem of_child {child : ChainId} {middle : World ω} {next : Run ω (Node β)}
    (whole : run world = next middle) (calls : middle.calls = world.calls)
    (same : middle.chain child = world.chain own) (handlers : middle.handlers = world.handlers)
    (h : Leads child middle next held findings) : Leads own world run held findings where
  delivers := by
    obtain ⟨calls', more, delivered⟩ := h.delivers
    refine ⟨calls', by rw [whole, more, calls], delivered.trans ?_⟩
    rw [World.audible, World.audible, same]
  node node last returned := by
    obtain ⟨value, has, failed, handlerReturns⟩ := h.node node last (whole ▸ returned)
    refine ⟨value, has, same ▸ failed, fun own => handlerReturns ?_⟩
    rw [World.HandlerReturns, World.handler, same, handlers]
    exact own
  unwinds reason last returned := same ▸ h.unwinds reason last (whole ▸ returned)
  returns returnsIfLive := by
    have returnsIfLive' : middle.HandlerReturnsIfLive child := by
      rw [World.HandlerReturnsIfLive, World.HandlerReturns, World.handler, same, handlers]
      exact returnsIfLive
    rw [whole]
    exact h.returns returnsIfLive'

end Leads

namespace Landing

variable {own : ChainId} {world inner : World ω}

theorem heard (landing : Landing β) (own : ChainId) (world : World ω) :
    Heard own world (landing.perform own world).2 (world.audible own landing.findings) := by
  refine .within ?_
  rw [← World.audible_entered world own landing.label]
  have reported : Heard own _ _ _ :=
    .reportAll (Run.happen (.entered own landing.label) world).2 landing.failing.decisive
  refine reported.bind_quiet fun _ => ?_
  exact (Tells.spawn.map fun child => (⟨child, landing.held⟩ : Node β)).heard

theorem perform_reported (landing : Landing β)
    (result : own.reportAll landing.findings (Run.happen (.entered own landing.label) world).2 =
      (.ok (), inner)) :
    landing.perform own world = (.ok ⟨inner.fresh, landing.held⟩, World.closed own inner) := by
  have settled : landing.settle own (Run.happen (.entered own landing.label) world).2 =
      Node.spawn own landing.held inner := by
    rw [settle, Run.bind_apply, result]
  rw [perform, ChainId.within_apply, settled]
  rfl

theorem perform_unwound (landing : Landing β) {reason : String}
    (result : own.reportAll landing.findings (Run.happen (.entered own landing.label) world).2 =
      (.error reason, inner)) :
    landing.perform own world = (.error reason, (Run.happen (.left own) inner).2) := by
  have settled : landing.settle own (Run.happen (.entered own landing.label) world).2 =
      (.error reason, inner) := by
    rw [settle, Run.bind_apply, result]
  rw [perform, ChainId.within_apply, settled]

theorem leads (landing : Landing β) (has : world.Has own) :
    Leads own world (landing.perform own) landing.held landing.findings := by
  let opened : World ω := (Run.happen (.entered own landing.label) world).2
  have there : opened.Has own := Stage.has_after (.entered own landing.label) has
  have failed : (opened.chain own).failed = (world.chain own).failed :=
    Stage.failed_entered own own landing.label
  have reporting : Local own (own.reportAll (ω := ω) landing.findings) := .reportAll landing.findings
  have delivers : Delivers world (landing.perform own) (world.audible own landing.findings) :=
    .of_heard (landing.heard own world)
  obtain ⟨events, follows, -⟩ := reporting.orderly opened
  have told : Heard own opened (own.reportAll landing.findings opened).2
      (opened.audible own landing.findings) := .reportAll opened landing.failing.decisive
  have later : opened.HandlerReturns own →
      (own.reportAll landing.findings opened).2.HandlerReturns own :=
    fun handlerReturns => handlerReturns.of_local there reporting
  have tells (returnsIfLive : opened.HandlerReturnsIfLive own) :=
    Tells.reportAll returnsIfLive landing.failing.decisive
  cases result : own.reportAll landing.findings opened with
  | mk ending inner =>
    rw [result] at told follows later
    cases ending with
    | error reason =>
      have whole := landing.perform_unwound result
      have unwound : ¬ ∃ u, (own.reportAll landing.findings opened).1 = .ok u := by
        rintro ⟨u, ok⟩
        rw [result] at ok
        cases ok
      refine ⟨delivers, ?_, ?_, ?_⟩
      · intro node last returned
        cases whole.symm.trans returned
      · intro _ _ _
        constructor
        · rw [← failed, ← Bool.not_eq_true]
          intro dead
          exact unwound (Tells.reportAll_failed dead landing.findings).returns
        · intro none
          rw [none] at unwound
          exact unwound ⟨(), rfl⟩
      · intro returnsIfLive
        exact absurd (tells (returnsIfLive.entered landing.label)).returns unwound
    | ok u =>
      have whole := landing.perform_reported result
      have stage : inner.toStage = opened.toStage.replay events := follows.stage
      have inside : inner.Has own := by
        rw [Stage.Has, stage]
        exact Stage.has_replay there
      have copy : (World.closed own inner).chain inner.fresh = inner.chain own :=
        World.closed_node inside
      refine ⟨delivers, ?_, ?_, ?_⟩
      · intro node last returned
        cases whole.symm.trans returned
        refine ⟨rfl, Stage.has_after _ Stage.has_pushChain, ?_, ?_⟩
        · rw [copy, told.failed_audible landing.failing, failed]
        · intro before
          have after : inner.HandlerReturns own := later (before.happen has _)
          rw [World.HandlerReturns, copy]
          exact after
      · intro reason last returned
        cases whole.symm.trans returned
      · intro _
        exact ⟨_, _, whole⟩

end Landing

/-- A step leads to its target, or it finds what is missing. -/
theorem Step.leads {kind target : NodeKind} (step : Step kind target) (held : Held kind) :
    ∃ missing, Failing missing ∧ (missing = [] ↔ (step.target? held).isSome = true) ∧
      ∀ (ω : Type) (own : ChainId) (world : World ω), world.Has own →
        Leads own world (step.perform ⟨own, held⟩) ((step.target? held).getD target.neutral)
          missing := by
  obtain ⟨lack, fails, same⟩ := step.routed held
  cases found : step.target? held with
  | some value =>
    refine ⟨[], .nil, by simp, fun ω own world has => ?_⟩
    have whole : step.perform ⟨own, held⟩ =
        (⟨step.label, [], .nil, value⟩ : Landing (Held target)).perform (ω := ω) own := by
      refine (same ω own).trans ?_
      rw [found]
      rfl
    rw [whole]
    exact Landing.leads _ has
  | none =>
    refine ⟨[lack], .one fails, by simp, fun ω own world has => ?_⟩
    have whole : step.perform ⟨own, held⟩ =
        (⟨step.label, [lack], .one fails, target.neutral⟩ : Landing (Held target)).perform (ω := ω)
          own := by
      refine (same ω own).trans ?_
      simp only [found, ChainId.arrive, Node.spawnFailed, Landing.perform, Landing.settle,
        ChainId.reportAll, bind_pure_unit]
    rw [whole]
    exact Landing.leads _ has

end FluentAssert
