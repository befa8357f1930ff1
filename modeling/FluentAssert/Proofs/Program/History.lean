import FluentAssert.Proofs.Program.Parts
import FluentAssert.Proofs.Run.History

/-! Every program has a lawful history, with any handlers and however it ends. An action lets
nothing happen to a chain that was there before, except the one it is called on. -/
namespace FluentAssert

variable {ω κ α β : Type}

namespace ChainId

theorem within_apply (id : ChainId) (label : String) (body : Run ω α) (world : World ω) :
    id.within label body world =
      ((body (Run.happen (.entered id label) world).2).1,
        (Run.happen (.left id) (body (Run.happen (.entered id label) world).2).2).2) := rfl

theorem deliver_apply (id : ChainId) (outcome : Outcome) (world : World ω) :
    id.deliver outcome world =
      Run.callOut ((world.handler (world.chain id).handler).receive outcome
        (world.store outcome.place.store))
        { world with history := world.history.push (.called id outcome) } := rfl

theorem report_apply (id : ChainId) (finding : Finding) (world : World ω) :
    id.report finding world =
      if (world.chain id).failed then Run.record (suppressed (world.chain id) finding) world
      else if finding.passed then id.deliver ⟨(world.chain id).place, finding⟩ world
      else id.deliver ⟨(world.chain id).place, finding⟩ (Run.happen (.failed id) world).2 := by
  change (if (world.chain id).failed then _ else _ : Run ω Unit) world = _
  split
  · rfl
  · cases finding.passed <;> rfl

end ChainId

theorem Run.callOut_world (call : Journal → Aftermath) (world : World ω) :
    (Run.callOut call world).2 = { world with journal := (call world.journal).journal } := by
  unfold callOut
  cases h : (call world.journal).unwound <;> simp only [h]

/-- Delivering runs the handler once, whether the handler returns or not. -/
theorem ChainId.deliver_world (id : ChainId) (outcome : Outcome) (world : World ω) :
    (id.deliver outcome world).2 = world.heard id outcome := by
  rw [deliver_apply, Run.callOut_world, World.heard, Handler.receive]
  cases outcome.finding.passed <;> rfl

def Event.ofReport (own : ChainId) (chain : Chain) (finding : Finding) : List Event :=
  if chain.failed then []
  else if finding.passed then [.called own ⟨chain.place, finding⟩]
  else [.failed own, .called own ⟨chain.place, finding⟩]

theorem ChainId.report_follows (own : ChainId) (finding : Finding) (world : World ω) :
    Follows world (Event.ofReport own (world.chain own) finding) (own.report finding world).2 := by
  rw [report_apply, Event.ofReport]
  by_cases failed : (world.chain own).failed = true
  · rw [if_pos failed, if_pos failed]
    exact .still rfl (.one (.entry (suppressed (world.chain own) finding) world trivial))
  · have live : (world.chain own).failed = false := Bool.eq_false_iff.mpr failed
    rw [if_neg failed, if_neg failed]
    by_cases passed : finding.passed = true
    · rw [if_pos passed, if_pos passed, deliver_world]
      exact ⟨Array.toList_push, rfl, .success live passed .nil, .one (.call own _ world)⟩
    · have failing : finding.passed = false := Bool.eq_false_iff.mpr passed
      rw [if_neg passed, if_neg passed, deliver_world]
      have marked : World.Transitions world [.failed own] (Run.happen (.failed own) world).2 :=
        .happen world rfl
      have whole := marked.tail (.call own ⟨(world.chain own).place, finding⟩ _)
      exact ⟨whole.history, rfl, .failure live failing .nil, whole⟩

theorem Event.about_ofReport {own id : ChainId} {chain : Chain} {finding : Finding} {event : Event}
    (member : event ∈ ofReport own chain finding) (about : event.chain? = some id) : id = own := by
  unfold ofReport at member
  split at member
  · cases member
  · split at member
    · cases List.mem_singleton.mp member
      exact (Option.some.inj about).symm
    · rcases List.mem_cons.mp member with first | later
      · cases first
        exact (Option.some.inj about).symm
      · cases List.mem_singleton.mp later
        exact (Option.some.inj about).symm

/-- Whatever the world, a run adds lawful events, and they have this property. -/
def Traces (Q : Stage → List Event → Prop) (run : Run ω α) : Prop :=
  ∀ world, ∃ events, Follows world events (run world).2 ∧ Q world.toStage events

/-- A property of events that single steps have, and that what runs add has if the runs are put
together from others. Chains may be touched where `about` holds of them. -/
structure Additive (about : ChainId → Prop) (Q : Stage → List Event → Prop) : Prop where
  nil : ∀ stage, Q stage []
  append : ∀ {stage first rest}, Q stage first → Q (stage.replay first) rest →
    Q stage (first ++ rest)
  one : ∀ stage {event : Event}, event.Quiet → event.Flat →
    (∀ id, event.chain? = some id → about id) → Q stage [event]
  report : ∀ stage own finding, about own → Q stage (Event.ofReport own (stage.chain own) finding)
  within : ∀ {stage own events} label, about own → Q (stage.after (.entered own label)) events →
    Q stage (.entered own label :: (events ++ [.left own]))

namespace Traces

variable {about : ChainId → Prop} {Q : Stage → List Event → Prop} {own : ChainId} {event : Event}

theorem still (nil : ∀ stage, Q stage []) {run : Run ω α}
    (h : ∀ world, Follows world [] (run world).2) : Traces Q run :=
  fun world => ⟨[], h world, nil _⟩

theorem happen (silent : event.Quiet) (h : ∀ stage, Q stage [event]) :
    Traces (ω := ω) Q (Run.happen event) :=
  fun world => ⟨[event], .happen world silent, h _⟩

theorem bind (append : ∀ {stage first rest}, Q stage first → Q (stage.replay first) rest →
    Q stage (first ++ rest)) {first : Run ω α} {next : α → Run ω β} (hf : Traces Q first)
    (hn : ∀ a, Traces Q (next a)) : Traces Q (first >>= next) := by
  intro start
  obtain ⟨events, follows, h⟩ := hf start
  rw [Run.bind_apply]
  generalize first start = result at follows ⊢
  obtain ⟨ending, middle⟩ := result
  cases ending with
  | error reason => exact ⟨events, follows, h⟩
  | ok a =>
    obtain ⟨later, follows', h'⟩ := hn a middle
    exact ⟨events ++ later, follows.trans follows', append h (follows.stage ▸ h')⟩

theorem report {finding : Finding}
    (h : ∀ stage : Stage, Q stage (Event.ofReport own (stage.chain own) finding)) :
    Traces (ω := ω) Q (own.report finding) :=
  fun world => ⟨_, own.report_follows finding world, h world.toStage⟩

theorem within {inner : Stage → List Event → Prop} (label : String)
    (wrap : ∀ {stage : Stage} {events}, inner (stage.after (.entered own label)) events →
      Q stage (.entered own label :: (events ++ [.left own]))) {body : Run ω α}
    (h : Traces inner body) : Traces Q (own.within label body) := by
  intro world
  obtain ⟨events, follows, holds⟩ := h (Run.happen (.entered own label) world).2
  rw [ChainId.within_apply]
  have opened : Follows world [.entered own label] (Run.happen (.entered own label) world).2 :=
    .happen world trivial
  have closed (last : World ω) : Follows last [.left own] (Run.happen (.left own) last).2 :=
    .happen last trivial
  exact ⟨_, (opened.trans follows).trans (closed _), wrap holds⟩

end Traces

namespace Additive

variable {about : ChainId → Prop} {Q : Stage → List Event → Prop}

theorem closed (additive : Additive about Q) : Closed (ω := ω) about (Traces Q) where
  pure _ := .still additive.nil .refl
  bind := .bind additive.append
  unwind _ := .still additive.nil .refl
  world := .still additive.nil .refl
  record entry mine := .still additive.nil fun world => .still rfl (.one (.entry entry world mine))
  newHandler handler := .still additive.nil fun world => .still rfl (.one (.handler handler world))
  began _ := .happen trivial fun stage => additive.one stage trivial trivial nofun
  opened := .happen trivial fun stage => additive.one stage trivial trivial nofun
  stored _ _ := .happen trivial fun stage => additive.one stage trivial trivial nofun
  spawned _ allowed := .happen trivial fun stage =>
    additive.one stage trivial trivial fun _ same => Option.some.inj same ▸ allowed
  report own finding allowed := .report fun stage => additive.report stage own finding allowed
  within _ label _ allowed h := .within label (additive.within label allowed) h

end Additive

/-- Whatever the world, a run adds lawful events, and they are about these chains only. -/
def Orderly (about : ChainId → Prop) (run : Run ω α) : Prop :=
  Traces (fun _ events => ∀ event ∈ events, ∀ id, event.chain? = some id → about id) run

theorem Orderly.additive (about : ChainId → Prop) :
    Additive about fun _ events => ∀ event ∈ events, ∀ id, event.chain? = some id → about id where
  nil _ := by simp
  append first rest := List.forall_mem_append.mpr ⟨first, rest⟩
  one _ _ _ _ h event member := List.mem_singleton.mp member ▸ h
  report _ own finding allowed event member id same := by
    have self : id = own := Event.about_ofReport member same
    exact self ▸ allowed
  within label allowed h event member id same := by
    rcases List.mem_cons.mp member with rfl | member
    · exact Option.some.inj same ▸ allowed
    · rcases List.mem_append.mp member with inner | last
      · exact h event inner id same
      · cases List.mem_singleton.mp last
        exact Option.some.inj same ▸ allowed

theorem Local.orderly {own : ChainId} {run : Run ω α} (h : Local own run) :
    Orderly (· = own) run := (Orderly.additive (· = own)).closed.of_local rfl h

theorem Orderly.start {about : ChainId → Prop} (config : Config ω) :
    Orderly about (Session.start? config) := (Orderly.additive about).closed.start config

theorem Parts.orderly {nested plain : Prop} {subject : Option ChainId} {run : Run ω α}
    (h : Parts nested plain subject run) (world : World ω) :
    ∃ events, Follows world events (run world).2 ∧
      ∀ event ∈ events, ∀ id, event.chain? = some id → subject = some id ∨ ¬ world.Has id := by
  have new : ¬ world.Has world.fresh := Nat.lt_irrefl _
  cases h with
  | on h =>
    obtain ⟨events, follows, own⟩ := h.orderly world
    exact ⟨events, follows, fun event member id about => .inl (own event member id about ▸ rfl)⟩
  | @child chain _ body h =>
    obtain ⟨events, follows, own⟩ := (h world.fresh).orderly (Run.happen (.spawned chain) world).2
    have spawned : Follows world [.spawned chain] (Run.happen (.spawned chain) world).2 :=
      .happen world trivial
    refine ⟨.spawned chain :: events, spawned.trans follows, ?_⟩
    intro event member id about
    rcases List.mem_cons.mp member with first | later
    · subst first
      exact .inl about
    · exact .inr (own event later id about ▸ new)
  | free h =>
    obtain ⟨events, follows, own⟩ := (h world.fresh).orderly world
    exact ⟨events, follows, fun event member id about => .inr (own event member id about ▸ new)⟩
  | state chain => exact (Orderly.additive _).closed.state chain world
  | through chain use =>
    have closed := (Orderly.additive fun id => none = some id ∨ ¬ world.Has id).closed (ω := ω)
    exact closed.bind (closed.state chain) (fun _ => closed.use _ use) world
  | use store use => exact (Orderly.additive _).closed.use store use world
  | enter chain label =>
    refine ⟨[.entered chain label], .happen world trivial, ?_⟩
    intro event member id about
    cases List.mem_singleton.mp member
    exact .inl about
  | leave chain =>
    refine ⟨[.left chain], .happen world trivial, ?_⟩
    intro event member id about
    cases List.mem_singleton.mp member
    exact .inl about

section

variable {Q : Stage → List Event → Prop}

/-- Scopes that are entered or left alone have the property too. -/
def Loose (Q : Stage → List Event → Prop) : Prop :=
  ∀ stage id, (∀ label, Q stage [.entered id label]) ∧ Q stage [.left id]

theorem Traces.of_parts (additive : Additive (fun _ => True) Q) {nested plain : Prop}
    {subject : Option ChainId} {run : Run ω α} (h : Parts nested plain subject run)
    (holds : nested ∨ Loose Q) : Traces Q run := by
  cases h with
  | enter chain label =>
    have loose := holds.resolve_left id
    exact .happen trivial fun stage => (loose stage chain).1 label
  | leave chain =>
    have loose := holds.resolve_left id
    exact .happen trivial fun stage => (loose stage chain).2
  | on h => exact additive.closed.of_parts (.on h) trivial
  | child h => exact additive.closed.of_parts (.child h) trivial
  | free h => exact additive.closed.of_parts (.free h) trivial
  | state chain => exact additive.closed.state chain
  | through chain use => exact additive.closed.of_parts (.through chain use) trivial
  | use store use => exact additive.closed.use store use

theorem Program.traces (additive : Additive (fun _ => True) Q) (configs : κ → Config ω)
    (program : Program ω κ α) (h : program.Nested ∨ Loose Q) : Traces Q (program.run configs) := by
  induction program with
  | done a => exact .still additive.nil .refl
  | andThen _ _ ihFirst ihNext =>
    apply Traces.bind additive.append
    · exact ihFirst (h.imp_left And.left)
    · exact fun a => ihNext a (h.imp_left fun nested => nested.2 a)
  | start name => exact additive.closed.start (configs name)
  | act action => exact .of_parts additive action.parts h
  | host change => exact .still additive.nil fun world => .still rfl (.one (.host _ world))
  | within chain label _ ih => exact .within label (additive.within label trivial) (ih h)
  | unwind reason => exact .still additive.nil .refl
  | observe _ ih => exact ih h

end

theorem Program.orderly (configs : κ → Config ω) (program : Program ω κ α) :
    Orderly (fun _ => True) (program.run configs) :=
  program.traces (Orderly.additive _) configs
    (.inr fun _ _ => ⟨fun _ _ _ _ _ => trivial, fun _ _ _ _ => trivial⟩)

end FluentAssert
