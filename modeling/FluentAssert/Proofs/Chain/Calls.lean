import FluentAssert.Proofs.Environment.Table
import FluentAssert.Proofs.Handler
import FluentAssert.Proofs.Operation.Plan
import FluentAssert.Proofs.Program.History
import Mathlib.Logic.Relation

/-! Calls of handlers. A run on a chain is heard through what it reports: while the chain is live
its handler is called with the finding, and it fails if the finding does; once it has failed,
nothing is heard of it. -/
namespace FluentAssert

variable {ω κ α β : Type}

def World.HandlerReturns (world : World ω) (id : ChainId) : Prop :=
  (world.handler (world.chain id).handler).Returns

/-- The handler of the chain returns, unless the chain has failed and makes no use of it. -/
def World.HandlerReturnsIfLive (world : World ω) (id : ChainId) : Prop :=
  (world.chain id).failed = false → world.HandlerReturns id

/-- What a handler hears of a decision: its first finding while the chain is live, and nothing of it
afterwards. -/
def World.audible (world : World ω) (id : ChainId) (findings : List Finding) : List Finding :=
  if (world.chain id).failed then [] else findings.head?.toList

/-- On the way from one world to another the handler of a chain runs with these findings, one after
another, and otherwise no handler runs. -/
inductive HandlerRuns (own : ChainId) : World ω → List Finding → World ω → Prop
  | none {first last : World ω} : World.Silent first last → HandlerRuns own first [] last
  | run {first middle last : World ω} {finding : Finding} {rest : List Finding} :
    World.Silent first middle →
    HandlerRuns own (middle.heard own ⟨(middle.chain own).place, finding⟩) rest last →
    HandlerRuns own first (finding :: rest) last

namespace HandlerRuns

variable {own : ChainId} {first middle last : World ω} {findings later : List Finding}

theorem before (silent : World.Silent first middle) (h : HandlerRuns own middle findings last) :
    HandlerRuns own first findings last := by
  cases h with
  | none silent' => exact .none (silent.trans silent')
  | run silent' rest => exact .run (silent.trans silent') rest

theorem trans (h : HandlerRuns own first findings middle) (h' : HandlerRuns own middle later last) :
    HandlerRuns own first (findings ++ later) last := by
  induction h with
  | none silent => exact h'.before silent
  | run silent _ ih => exact .run silent (ih h')

theorem calls (h : HandlerRuns own first findings last) : ∃ outcomes : List Outcome,
    outcomes.map (·.finding) = findings ∧
      last.calls = first.calls ++ outcomes.map fun outcome => (own, outcome) := by
  induction h with
  | none silent => exact ⟨[], rfl, silent.calls.trans (List.append_nil _).symm⟩
  | @run _ middle _ finding _ silent _ ih =>
    obtain ⟨outcomes, rfl, calls⟩ := ih
    have one : (middle.heard own ⟨(middle.chain own).place, finding⟩).calls =
        middle.calls ++ [(own, ⟨(middle.chain own).place, finding⟩)] :=
      (World.Transitions.one (.call own _ middle)).calls
    exact ⟨_ :: outcomes, rfl, by rw [calls, one, silent.calls, List.append_assoc]; rfl⟩

end HandlerRuns

/-- Between two worlds the handler of this chain ran with these findings, once each, and no other
handler. By then the chain has failed if it had before or if one of the findings fails. -/
structure Heard (own : ChainId) (first last : World ω) (findings : List Finding) : Prop where
  runs : HandlerRuns own first findings last
  failed : (last.chain own).failed =
    ((first.chain own).failed || findings.any fun finding => !finding.passed)

/-- Started in this world, the run returns, and by then these findings were heard. -/
structure Tells (own : ChainId) (world : World ω) (run : Run ω α) (findings : List Finding) :
    Prop where
  returns : ∃ a, (run world).1 = .ok a
  heard : Heard own world (run world).2 findings

theorem World.HandlerReturns.happen {world : World ω} {own : ChainId}
    (handlerReturns : world.HandlerReturns own) (has : world.Has own) (event : Event) :
    (Run.happen event world).2.HandlerReturns own := by
  have same : ((Run.happen event world).2.chain own).handler = (world.chain own).handler :=
    Stage.handler_after has event
  show ((Run.happen event world).2.handler _).Returns
  rw [same]
  exact handlerReturns

/-- What is seen of a world stays the same in local runs, if only stores, a new chain or the host
can change it. -/
theorem Composed.constant {ν : Type} {seen : World ω → ν}
    (happens : ∀ event world, (∀ id contents, event ≠ .stored id contents) →
      seen (Run.happen event world).2 = seen world)
    (entries : ∀ journal world, seen { world with journal } = seen world) :
    Composed (fun _ => True) fun run : Run ω _ => ∀ world, seen (run world).2 = seen world where
  pure _ _ := rfl
  bind := @fun _ _ first _ hf hn world => by
    have middle := hf world
    rw [Run.bind_apply]
    generalize first world = result at middle
    obtain ⟨ending, last⟩ := result
    cases ending with
    | error reason => exact middle
    | ok a => exact (hn a last).trans middle
  within own label _ _ h world := by
    rw [ChainId.within_apply]
    refine (happens (.left own) _ nofun).trans ((h _).trans ?_)
    exact happens (.entered own label) world nofun
  state _ _ := rfl
  spawn own _ world := happens (.spawned own) world nofun
  report own finding _ world := by
    have delivered (outcome : Outcome) (world : World ω) :
        seen (own.deliver outcome world).2 = seen world := by
      rw [ChainId.deliver_apply, Run.callOut_world]
      exact (entries _ _).trans (happens (.called own outcome) world nofun)
    rw [ChainId.report_apply]
    split
    · exact entries _ world
    · split
      · exact delivered _ world
      · exact (delivered _ _).trans (happens (.failed own) world nofun)
  newStore world := happens .opened world nofun
  contents _ _ := rfl
  record _ _ world := entries _ world

theorem Composed.handlers : Composed (fun _ => True)
    fun run : Run ω _ => ∀ world, (run world).2.handlers = world.handlers :=
  .constant (fun _ _ _ => rfl) fun _ _ => rfl

theorem World.HandlerReturns.of_local {world : World ω} {own : ChainId}
    (handlerReturns : world.HandlerReturns own) (has : world.Has own) {run : Run ω α}
    (h : Local own run) : (run world).2.HandlerReturns own := by
  obtain ⟨events, follows, -⟩ := h.orderly world
  have handlers : (run world).2.handlers = world.handlers :=
    Composed.handlers.of_local trivial h world
  have origin : ((run world).2.chain own).origin = (world.chain own).origin := by
    rw [follows.stage]
    exact Stage.origin_replay has
  have handler : ((run world).2.chain own).handler = (world.chain own).handler :=
    congrArg (·.2.1) origin
  rw [World.HandlerReturns, World.handler, handlers, handler]
  exact handlerReturns

theorem World.HandlerReturnsIfLive.entered {world : World ω} {own : ChainId}
    (returnsIfLive : world.HandlerReturnsIfLive own) (label : String) :
    (Run.happen (.entered own label) world).2.HandlerReturnsIfLive own := by
  intro live
  have before : (world.chain own).failed = false :=
    (Stage.failed_entered own own label).symm.trans live
  exact (returnsIfLive before).happen (Stage.has_of_live before) _

theorem World.audible_entered (world : World ω) (own : ChainId) (label : String)
    (findings : List Finding) :
    (Run.happen (.entered own label) world).2.audible own findings = world.audible own findings := by
  have same : ((Run.happen (.entered own label) world).2.chain own).failed =
      (world.chain own).failed := Stage.failed_entered own own label
  rw [World.audible, World.audible, same]

namespace Heard

variable {own : ChainId} {first middle last : World ω} {findings later : List Finding}

theorem refl (world : World ω) : Heard own world world [] where
  runs := .none (.refl world)
  failed := (Bool.or_false _).symm

theorem trans (h : Heard own first middle findings) (h' : Heard own middle last later) :
    Heard own first last (findings ++ later) where
  runs := h.runs.trans h'.runs
  failed := by rw [h'.failed, h.failed, List.any_append, Bool.or_assoc]

theorem quiet (h : Heard own first last []) : last.calls = first.calls := by
  cases h.runs with
  | none silent => exact silent.calls

theorem calls_happen (event : Event) (world : World ω) :
    (Run.happen event world).2.calls = world.calls ++ event.call?.toList := by
  simp only [World.calls, Run.happen, Run.modify, Array.toList_push, List.filterMap_append,
    List.filterMap_cons, List.filterMap_nil]
  cases event.call? <;> rfl

theorem happen {event : Event} (world : World ω) (silent : event.call? = none)
    (same : ((world.after event).chain own).failed = (world.chain own).failed) :
    Heard own world (Run.happen event world).2 [] where
  runs := .none (.happen world silent)
  failed := same.trans (Bool.or_false _).symm

/-- Whether or not the first run returns, what follows it adds nothing. -/
theorem bind_quiet {first : Run ω α} {next : α → Run ω β} {world : World ω}
    (hf : Heard own world (first world).2 findings)
    (hn : ∀ a, Heard own (first world).2 (next a (first world).2).2 []) :
    Heard own world ((first >>= next) world).2 findings := by
  rw [Run.bind_apply]
  generalize first world = result at hf hn
  obtain ⟨ending, last⟩ := result
  cases ending with
  | error reason => exact hf
  | ok a =>
    have whole := hf.trans (hn a)
    rwa [List.append_nil] at whole

theorem within {label : String} {body : Run ω α} {world : World ω}
    (h : Heard own (Run.happen (.entered own label) world).2
      (body (Run.happen (.entered own label) world).2).2 findings) :
    Heard own world (own.within label body world).2 findings := by
  have opened : Heard own world (Run.happen (.entered own label) world).2 [] :=
    .happen world rfl (Stage.failed_entered own own label)
  have closed (last : World ω) : Heard own last (Run.happen (.left own) last).2 [] :=
    .happen last rfl (Stage.failed_left own own)
  rw [ChainId.within_apply]
  have whole := (opened.trans h).trans (closed _)
  rwa [List.append_nil] at whole

theorem report_failed {world : World ω} (failed : (world.chain own).failed = true)
    (finding : Finding) : Heard own world (own.report finding world).2 [] := by
  have whole : own.report finding world =
      Run.record (ChainId.suppressed (world.chain own) finding) world := by
    rw [ChainId.report_apply, if_pos failed]
  rw [whole]
  exact ⟨.none (.record world trivial), (Bool.or_false _).symm⟩

/-- A report on a live chain is heard at once, also by a handler that does not return. -/
theorem report_live {world : World ω} (live : (world.chain own).failed = false)
    (finding : Finding) : Heard own world (own.report finding world).2 [finding] := by
  have has : world.Has own := Stage.has_of_live live
  have notFailed : ¬ (world.chain own).failed = true := by simp [live]
  by_cases passed : finding.passed = true
  · have whole : (own.report finding world).2 =
        world.heard own ⟨(world.chain own).place, finding⟩ := by
      rw [ChainId.report_apply, if_neg notFailed, if_pos passed, ChainId.deliver_world]
    rw [whole]
    exact ⟨.run (.refl world) (.none (.refl _)), by simp [World.heard, passed]⟩
  · let marked : World ω := (Run.happen (.failed own) world).2
    have chain : marked.chain own = { world.chain own with failed := true } :=
      Stage.chain_changeChain has
    have place : (marked.chain own).place = (world.chain own).place := by
      rw [chain]
      rfl
    have whole : (own.report finding world).2 =
        marked.heard own ⟨(marked.chain own).place, finding⟩ := by
      rw [ChainId.report_apply, if_neg notFailed, if_neg passed, ChainId.deliver_world, place]
    rw [whole]
    refine ⟨.run (.happen world rfl) (.none (.refl _)), ?_⟩
    show (marked.chain own).failed = _
    rw [chain]
    simp [passed]

theorem failed_after (h : Heard own first last findings)
    (failed : (first.chain own).failed = true) : (last.chain own).failed = true := by
  rw [h.failed, failed]
  rfl

end Heard

def Chain.inside (chain : Chain) (label : String) : Chain :=
  { chain with path := chain.path ++ [label] }

namespace World

variable {own : ChainId} {inner : World ω}

/-- The world after a scope in which a node was made at last. -/
def closed (own : ChainId) (inner : World ω) : World ω :=
  (Run.happen (.left own) (Run.happen (.spawned own) inner).2).2

theorem closed_node (has : inner.Has own) :
    (closed own inner).chain inner.fresh = inner.chain own := by
  have differ : inner.fresh ≠ own := by
    intro same
    have here : inner.Has inner.fresh := same ▸ has
    exact Nat.lt_irrefl _ here
  have copy : (Run.happen (.spawned own) inner).2.chain inner.fresh = inner.chain own :=
    Stage.chain_pushChain_fresh
  have left : (closed own inner).chain inner.fresh =
      (Run.happen (.spawned own) inner).2.chain inner.fresh :=
    Stage.chain_changeChain_other differ
  exact left.trans copy

theorem closed_calls : (closed own inner).calls = inner.calls := by
  rw [closed, Heard.calls_happen, Heard.calls_happen]
  simp [Event.call?]

end World

/-- The chains that were there are as before, and no handler was called. -/
structure Unheard (first last : World ω) : Prop where
  kept : ∀ id, first.Has id → last.Has id ∧ last.chain id = first.chain id
  calls : last.calls = first.calls

theorem Unheard.trans {first middle last : World ω} (h : Unheard first middle)
    (h' : Unheard middle last) : Unheard first last where
  kept id has := by
    obtain ⟨has', same⟩ := h.kept id has
    obtain ⟨has'', same'⟩ := h'.kept id has'
    exact ⟨has'', same'.trans same⟩
  calls := h'.calls.trans h.calls

/-- There is a child of the chain now, made in a scope that has been closed again. -/
structure Offspring (own : ChainId) (label : String) (child : ChainId) (world last : World ω) : Prop
    extends Unheard world last where
  new : ¬ world.Has child
  there : last.Has child
  state : last.chain child = (world.chain own).inside label

namespace Offspring

variable {own child : ChainId} {label : String} {world middle last : World ω}

theorem before (h : Offspring own label child world middle) (later : Unheard middle last) :
    Offspring own label child world last where
  toUnheard := h.toUnheard.trans later
  new := h.new
  there := (later.kept child h.there).1
  state := (later.kept child h.there).2.trans h.state

theorem later (has : world.Has own) (earlier : Unheard world middle)
    (h : Offspring own label child middle last) : Offspring own label child world last where
  toUnheard := earlier.trans h.toUnheard
  new known := h.new (earlier.kept child known).1
  there := h.there
  state := by rw [h.state, (earlier.kept own has).2]

theorem of_spawn (has : world.Has own) (label : String) (value : α) :
    ∃ (node : Node α) (last : World ω),
      own.within label (Node.spawn own value) world = (.ok node, last) ∧ node.value = value ∧
        Offspring own label node.chain world last := by
  let opened : World ω := (Run.happen (.entered own label) world).2
  let spawned : World ω := (Run.happen (.spawned own) opened).2
  have there : opened.Has own := Stage.has_after _ has
  have inside : opened.chain own = (world.chain own).inside label := Stage.chain_changeChain has
  refine ⟨⟨opened.fresh, value⟩, World.closed own opened, rfl, rfl, ⟨?_, ?_⟩, ?_, ?_, ?_⟩
  · intro id known
    have known' : opened.Has id := Stage.has_after _ known
    have known'' : spawned.Has id := Stage.has_after _ known'
    have same : spawned.chain id = opened.chain id := Stage.chain_pushChain known'
    refine ⟨Stage.has_after (.left own) known'', ?_⟩
    by_cases mine : id = own
    · subst mine
      have closed : (World.closed id opened).chain id = _ := Stage.chain_changeChain known''
      rw [closed, same, inside, Chain.inside, List.dropLast_concat]
    · have closed : (World.closed own opened).chain id = spawned.chain id :=
        Stage.chain_changeChain_other mine
      have other : opened.chain id = world.chain id := Stage.chain_changeChain_other mine
      rw [closed, same, other]
  · rw [World.closed_calls, Heard.calls_happen]
    exact List.append_nil _
  · exact fun known => Nat.lt_irrefl _ (Stage.has_after (.entered own label) known)
  · exact Stage.has_after (.left own) Stage.has_pushChain
  · rw [World.closed_node there, inside]

theorem of_mapM {ι : Type} (has : world.Has own) (label : ι → String) (value : ι → α)
    (items : List ι) : ∃ (nodes : List (Node α)) (last : World ω),
      (items.mapM fun item => own.within (label item) (Node.spawn own (value item))) world =
        (.ok nodes, last) ∧
      Unheard world last ∧ nodes.map (·.value) = items.map value ∧ (nodes.map (·.chain)).Nodup ∧
      ∀ (i : Nat) (node : Node α), nodes[i]? = some node → ∃ item, items[i]? = some item ∧
        value item = node.value ∧ Offspring own (label item) node.chain world last := by
  induction items generalizing world with
  | nil => exact ⟨[], world, rfl, ⟨fun _ has => ⟨has, rfl⟩, rfl⟩, rfl, .nil, nofun⟩
  | cons item rest ih =>
    obtain ⟨node, middle, one, held, made⟩ := of_spawn has (label item) (value item)
    obtain ⟨nodes, last, more, unheard, values, nodup, each⟩ := ih (made.kept own has).1
    refine ⟨node :: nodes, last, ?_, made.toUnheard.trans unheard, ?_, ?_, ?_⟩
    · rw [List.mapM_cons, Run.bind_apply, one]
      simp only [Run.bind_apply, more]
      rfl
    · rw [List.map_cons, List.map_cons, held, values]
    · refine List.nodup_cons.mpr ⟨fun member => ?_, nodup⟩
      obtain ⟨later, member, same⟩ := List.mem_map.mp member
      obtain ⟨i, at'⟩ := List.mem_iff_getElem?.mp member
      obtain ⟨_, -, -, made'⟩ := each i later at'
      exact made'.new (same ▸ made.there)
    · intro i other at'
      cases i with
      | zero =>
        cases at'
        exact ⟨item, rfl, held.symm, made.before unheard⟩
      | succ i =>
        obtain ⟨item', there, held', made'⟩ := each i other at'
        exact ⟨item', there, held', made'.later has made.toUnheard⟩

end Offspring

theorem Node.spawn_within {own : ChainId} {world : World ω} (has : world.Has own) (label : String)
    (value : α) : ∃ node last, own.within label (Node.spawn own value) world = (.ok node, last) ∧
      node.value = value ∧ last.calls = world.calls ∧
      last.chain node.chain = (world.chain own).inside label := by
  obtain ⟨node, last, returns, held, made⟩ := Offspring.of_spawn has label value
  exact ⟨node, last, returns, held, made.calls, made.state⟩

namespace Tells

variable {own : ChainId} {world : World ω} {findings later : List Finding}

theorem still {run : Run ω α} {a : α} (h : run world = (.ok a, world)) : Tells own world run [] where
  returns := ⟨a, congrArg Prod.fst h⟩
  heard := h ▸ .refl world

theorem bind {first : Run ω α} {next : α → Run ω β} (hf : Tells own world first findings)
    (hn : ∀ a, Tells own (first world).2 (next a) later) :
    Tells own world (first >>= next) (findings ++ later) := by
  obtain ⟨a, returns⟩ := hf.returns
  have whole := Run.bind_returned returns next
  constructor
  · rw [whole]
    exact (hn a).returns
  · rw [whole]
    exact hf.heard.trans (hn a).heard

theorem map {run : Run ω α} (f : α → β) (h : Tells own world run findings) :
    Tells own world (do return f (← run)) findings := by
  have whole : Tells own world (do return f (← run)) (findings ++ []) := h.bind fun _ => still rfl
  rwa [List.append_nil] at whole

theorem map_returns {run : Run ω α} (f : α → β) (h : Tells own world run findings) :
    ∃ a, ((do return f (← run)) world).1 = .ok (f a) := by
  obtain ⟨a, returns⟩ := h.returns
  exact ⟨a, congrArg Prod.fst (Run.bind_returned returns _)⟩

theorem within {label : String} {body : Run ω α}
    (h : Tells own (Run.happen (.entered own label) world).2 body findings) :
    Tells own world (own.within label body) findings := by
  constructor
  · rw [ChainId.within_apply]
    exact h.returns
  · exact .within h.heard

theorem spawn : Tells own world own.spawn [] :=
  ⟨⟨world.fresh, rfl⟩, .happen world rfl (Stage.failed_spawned own)⟩

theorem report_failed (failed : (world.chain own).failed = true) (finding : Finding) :
    Tells own world (own.report finding) [] := by
  have whole : own.report finding world =
      Run.record (ChainId.suppressed (world.chain own) finding) world := by
    rw [ChainId.report_apply, if_pos failed]
  have returns : (own.report finding world).1 = .ok () := by rw [whole]; rfl
  exact ⟨⟨(), returns⟩, .report_failed failed finding⟩

theorem deliver_returns (handlerReturns : world.HandlerReturns own) (outcome : Outcome) :
    ∃ a, (own.deliver outcome world).1 = .ok a := by
  have quiet := handlerReturns outcome (world.store outcome.place.store) world.journal
  rw [ChainId.deliver_apply]
  exact ⟨(), by simp only [Run.callOut, quiet]⟩

theorem report_live (live : (world.chain own).failed = false)
    (handlerReturns : world.HandlerReturns own) (finding : Finding) :
    Tells own world (own.report finding) [finding] := by
  have has : world.Has own := Stage.has_of_live live
  refine ⟨?_, .report_live live finding⟩
  rw [ChainId.report_apply, if_neg (by simp [live])]
  by_cases passed : finding.passed = true
  · rw [if_pos passed]
    exact deliver_returns handlerReturns _
  · rw [if_neg passed]
    exact deliver_returns (handlerReturns.happen has (.failed own)) _

theorem reportAll_failed (failed : (world.chain own).failed = true) (findings : List Finding) :
    Tells own world (own.reportAll findings) [] := by
  induction findings generalizing world with
  | nil => exact still rfl
  | cons finding rest ih =>
    have first := report_failed failed finding
    exact first.bind fun _ => ih (first.heard.failed_after failed)

/-- Behind the first finding of a decision nothing is heard: the rest is empty if that finding
passes, and comes too late if it fails. -/
theorem reportAll_rest {middle : World ω} {finding : Finding} {rest : List Finding}
    (first : Heard own world middle [finding]) (decisive : Decisive (finding :: rest)) :
    Tells own middle (own.reportAll rest) [] := by
  by_cases passed : finding.passed = true
  · rw [decisive passed]
    exact still rfl
  · have failed : (middle.chain own).failed = true := by
      rw [first.failed]
      simp [passed]
    exact reportAll_failed failed rest

theorem reportAll (returnsIfLive : world.HandlerReturnsIfLive own)
    (decisive : findings = [] ∨ Decisive findings) :
    Tells own world (own.reportAll findings) (world.audible own findings) := by
  by_cases failed : (world.chain own).failed = true
  · rw [World.audible, if_pos failed]
    exact reportAll_failed failed findings
  · rw [World.audible, if_neg failed]
    have live : (world.chain own).failed = false := Bool.eq_false_iff.mpr failed
    cases findings with
    | nil => exact still rfl
    | cons finding rest =>
      have first := report_live live (returnsIfLive live) finding
      exact first.bind fun _ =>
        reportAll_rest first.heard (decisive.resolve_left (List.cons_ne_nil _ _))

end Tells

/-- A decision on a live chain is heard through its first finding, whatever the handler does. -/
theorem Heard.reportAll_live {own : ChainId} {world : World ω}
    (live : (world.chain own).failed = false) {finding : Finding} {rest : List Finding}
    (decisive : Decisive (finding :: rest)) :
    Heard own world (own.reportAll (finding :: rest) world).2 [finding] := by
  have first := report_live live finding
  exact first.bind_quiet fun _ => (Tells.reportAll_rest first decisive).heard

theorem Heard.use (own : ChainId) (store : StoreId) (use : Use α) (world : World ω) :
    Heard own world (use.perform store world).2 [] := by
  rw [use.perform_world]
  cases use.write? with
  | none => exact .refl world
  | some write => exact .happen world rfl rfl

/-- The run calls handlers only in steps of this kind. -/
def Run.CallsOnlyIn (steps : World ω → World ω → Prop) (run : Run ω α) : Prop :=
  ∀ world, Relation.ReflTransGen (fun first last => World.Silent first last ∨ steps first last)
    world (run world).2

namespace Run.CallsOnlyIn

variable {steps : World ω → World ω → Prop}

theorem silent {run : Run ω α} (h : ∀ world, World.Silent world (run world).2) :
    CallsOnlyIn steps run := fun world => .single (.inl (h world))

theorem step {run : Run ω α} (h : ∀ world, steps world (run world).2) : CallsOnlyIn steps run :=
  fun world => .single (.inr (h world))

theorem bind {first : Run ω α} {next : α → Run ω β} (hf : CallsOnlyIn steps first)
    (hn : ∀ a, CallsOnlyIn steps (next a)) : CallsOnlyIn steps (first >>= next) := by
  intro world
  have middle := hf world
  rw [Run.bind_apply]
  generalize first world = result at middle
  obtain ⟨ending, world⟩ := result
  cases ending with
  | error reason => exact middle
  | ok a => exact middle.trans (hn a world)

theorem within (own : ChainId) (label : String) {body : Run ω α} (h : CallsOnlyIn steps body) :
    CallsOnlyIn steps (own.within label body) := by
  intro world
  let opened : World ω := (Run.happen (.entered own label) world).2
  have entered : World.Silent world opened := .happen world rfl
  have left : World.Silent (body opened).2 (Run.happen (.left own) (body opened).2).2 :=
    .happen _ rfl
  rw [ChainId.within_apply]
  exact .head (.inl entered) (.tail (h opened) (.inl left))

theorem spawnNode (own : ChainId) (value : α) :
    CallsOnlyIn (ω := ω) steps (Node.spawn own value) := by
  apply silent
  intro world
  have spawned : World.Silent world (Run.happen (.spawned own) world).2 := .happen world rfl
  exact spawned

theorem forM {items : List α} {visit : α → Run ω Unit} (h : ∀ item, CallsOnlyIn steps (visit item)) :
    CallsOnlyIn steps (items.forM visit) := by
  induction items with
  | nil => exact silent World.Silent.refl
  | cons item rest ih => exact bind (h item) fun _ => ih

end Run.CallsOnlyIn

end FluentAssert
