import FluentAssert.Proofs.Program.Steady

/-! Mirrored runs. Two worlds that differ in handlers only stay so under the same run, up to the
first failure that one handler unwinds with and the other records. From there on the one only closes
its scopes, and the other only adds to what both have. -/
namespace FluentAssert

variable {ω κ α β : Type} {own : Prop}

/-- Handlers that differ in nothing but what becomes of failures, if at all. Whether there are
handlers that do not differ is up to `own`. -/
inductive Paired (own : Prop) : Handler → Handler → Prop where
  | reporting (formatter : Formatter) (recorder : Nat) {logger : Option Sink} :
    (∀ sink ∈ logger, sink.Adds fun entry => ¬ entry.IsReport) →
      Paired own (.pipeline formatter .fatal logger)
        (.pipeline formatter (.recordReports recorder) logger)
  | same {handler : Handler} :
    own → (handler.Adds fun entry => ¬ entry.IsReport) → Paired own handler handler

namespace Paired

variable {fatal recording : Handler}

theorem receive (h : Paired own fatal recording) (outcome : Outcome) (store : Store) :
    (fatal.receive outcome store = recording.receive outcome store ∧
      Adds (fun entry => ¬ entry.IsReport) (fatal.receive outcome store) ∧
      (own ∨ outcome.finding.passed = true)) ∨
    (outcome.finding.passed = false ∧ ∃ message recorder,
      fatal.receive outcome store = Sink.fatal.receive message ∧
      recording.receive outcome store = (Sink.recordReports recorder).receive message) := by
  cases h with
  | same mine adds => exact .inl ⟨rfl, adds outcome store, .inl mine⟩
  | @reporting formatter recorder logger mild =>
    unfold Handler.receive
    by_cases passed : outcome.finding.passed = true
    · simp only [if_pos passed]
      refine .inl ⟨rfl, ?_, .inr passed⟩
      cases logger with
      | none => exact adds_nothing _
      | some sink => exact mild sink rfl _
    · simp only [if_neg passed]
      exact .inr ⟨Bool.eq_false_iff.mpr passed, formatter.failure outcome store, recorder, rfl, rfl⟩

theorem adds (h : Paired own fatal recording) : recording.Adds fun _ => True := by
  cases h with
  | same _ adds => exact fun outcome store => (adds outcome store).mono fun _ _ => trivial
  | reporting formatter recorder mild =>
    apply Handler.pipeline_adds formatter
    · exact fun _ => adds_one trivial
    · intro sink member message
      exact (mild sink member message).mono fun _ _ => trivial

end Paired

def World.withHandlers (world : World ω) (handlers : Array Handler) : World ω :=
  { world with handlers := handlers }

def World.withRoot (world : World ω) (handler : Handler) (chain : HandlerId → Chain) : World ω :=
  (Run.happen (.began (chain ⟨world.handlers.size⟩))
    { world with handlers := world.handlers.push handler }).2

/-- A world and the handlers of its twin, while nothing was reported. -/
structure Twin (own : Prop) (world : World ω) (handlers : Array Handler) : Prop where
  size : handlers.size = world.handlers.size
  paired : ∀ id : HandlerId, id.index < world.handlers.size →
    Paired own (world.handler id) ((world.withHandlers handlers).handler id)
  assigned : ∀ id, (world.chain id).failed = false →
    (world.chain id).handler.index < world.handlers.size
  unreported : ∀ entry ∈ world.journal, ¬ entry.IsReport
  passed : ¬ own → ∀ id outcome, .called id outcome ∈ world.history →
    outcome.finding.passed = true
  replayed : world.toStage = Stage.replay ⟨#[], #[]⟩ world.history.toList

/-- What has become of twin worlds after the moment of the first report. -/
structure Cut (own : Prop) (moment : World ω) (message : String) (fatal recorded : World ω) :
    Prop where
  replayed : moment.toStage = Stage.replay ⟨#[], #[]⟩ moment.history.toList
  failure : ∃ before id outcome, moment.history.toList = before ++ [.called id outcome] ∧
    outcome.finding.passed = false ∧ (¬ own → ∀ other earlier,
      .called other earlier ∈ before → earlier.finding.passed = true)
  unreported : ∀ entry ∈ moment.journal, ¬ entry.IsReport
  journal : fatal.journal = moment.journal
  stores : fatal.stores = moment.stores
  size : fatal.chains.size = moment.chains.size
  flags : ∀ id, (fatal.chain id).failed = (moment.chain id).failed
  closed : ∃ closings : Array Event, fatal.history = moment.history ++ closings ∧
    ∀ event ∈ closings, ∃ id, event = .left id
  reported : ∃ recorder entries,
    recorded.journal = moment.journal.push (.report recorder message) ++ entries
  continued : ∃ events, recorded.history = moment.history ++ events

namespace Cut

variable {moment fatal recorded last : World ω} {message : String}

theorem leave (h : Cut own moment message fatal recorded) (id : ChainId) :
    Cut own moment message (Run.happen (.left id) fatal).2 recorded := by
  obtain ⟨closings, history, all⟩ := h.closed
  refine { h with size := ?_, flags := ?_, closed := ?_ }
  · exact (Array.size_modify ..).trans h.size
  · exact fun other => (Stage.failed_left id other).trans (h.flags other)
  · refine ⟨closings.push (.left id), ?_, ?_⟩
    · show fatal.history.push _ = _
      rw [history, Array.push_append]
    · intro event member
      rcases Array.mem_push.mp member with old | new
      · exact all event old
      · exact ⟨id, new⟩

theorem grow (h : Cut own moment message fatal recorded) (grows : recorded.Grows last) :
    Cut own moment message fatal last := by
  obtain ⟨recorder, entries, journal⟩ := h.reported
  obtain ⟨events, history⟩ := h.continued
  obtain ⟨⟨entries', journal'⟩, ⟨events', history'⟩⟩ := grows
  refine { h with
    reported := ⟨recorder, entries ++ entries', ?_⟩
    continued := ⟨events ++ events', ?_⟩ }
  · rw [journal', journal, Array.append_assoc]
  · rw [history', history, Array.append_assoc]

end Cut

namespace Twin

variable {world : World ω} {handlers : Array Handler}

theorem start (host : ω) : Twin own (World.start host) #[] where
  size := rfl
  paired _ h := (Nat.not_lt_zero _ h).elim
  assigned id live := (Nat.not_lt_zero id.index (Stage.has_of_live live)).elim
  unreported := by simp [World.start]
  passed := by simp [World.start]
  replayed := rfl

theorem happen (twin : Twin own world handlers) {event : Event} (internal : event.Internal) :
    Twin own (Run.happen event world).2 handlers where
  size := twin.size
  paired := twin.paired
  assigned := Stage.Assigned.after twin.assigned internal
  unreported := twin.unreported
  passed strict id outcome member := by
    rcases Array.mem_push.mp member with before | now
    · exact twin.passed strict id outcome before
    · subst now
      exact internal.elim
  replayed := by
    show world.toStage.after event = Stage.replay _ (world.history.push event).toList
    rw [Stage.replay_push, ← twin.replayed]

theorem write (twin : Twin own world handlers) {entries : Array Entry}
    (silent : ∀ entry ∈ entries, ¬ entry.IsReport) :
    Twin own { world with journal := world.journal ++ entries } handlers :=
  { twin with
    unreported := fun entry member => (Array.mem_append.mp member).elim (twin.unreported entry)
      (silent entry) }

theorem withRoot (twin : Twin own world handlers) {handler handler' : Handler}
    (paired : Paired own handler handler') (chain : HandlerId → Chain)
    (assigned : ∀ id, (chain id).handler = id) :
    Twin own (world.withRoot handler chain) (handlers.push handler') where
  size := by simp [World.withRoot, Run.happen, Run.modify, twin.size]
  paired id small := by
    show Paired own ((world.handlers.push handler).getD id.index .audit)
      ((handlers.push handler').getD id.index .audit)
    rw [Steady.getD_push, Steady.getD_push, twin.size]
    by_cases last : id.index = world.handlers.size
    · rw [if_pos last, if_pos last]
      exact paired
    · rw [if_neg last, if_neg last]
      have within : id.index < world.handlers.size + 1 := by
        simpa [World.withRoot, Run.happen, Run.modify] using small
      exact twin.paired id (Nat.lt_of_le_of_ne (Nat.le_of_lt_succ within) last)
  assigned := by
    have larger : (world.withRoot handler chain).handlers.size = world.handlers.size + 1 := by
      simp [World.withRoot, Run.happen, Run.modify]
    rw [larger]
    exact Stage.Assigned.began twin.assigned (assigned _)
  unreported := twin.unreported
  passed strict id outcome member := by
    rcases Array.mem_push.mp member with before | now
    · exact twin.passed strict id outcome before
    · cases now
  replayed := by
    show _ = Stage.replay _ (world.history.push (.began (chain ⟨world.handlers.size⟩))).toList
    rw [Stage.replay_push, ← twin.replayed]
    rfl

theorem call (twin : Twin own world handlers) (id : ChainId) {outcome : Outcome}
    (fine : own ∨ outcome.finding.passed = true) :
    Twin own { world with history := world.history.push (.called id outcome) } handlers :=
  { twin with
    passed := fun strict other earlier member => by
      rcases Array.mem_push.mp member with before | now
      · exact twin.passed strict other earlier before
      · cases now
        exact fine.resolve_left strict
    replayed := by
      show world.toStage = Stage.replay _ (world.history.push (.called id outcome)).toList
      rw [Stage.replay_push, ← twin.replayed]
      rfl }

theorem cut (twin : Twin own world handlers) (id : ChainId) {outcome : Outcome} (recorder : Nat)
    (message : String) (failing : outcome.finding.passed = false) :
    Cut own { world with history := world.history.push (.called id outcome) } message
      { world with history := world.history.push (.called id outcome) }
      { world.withHandlers handlers with
        history := world.history.push (.called id outcome)
        journal := world.journal.push (.report recorder message) } where
  replayed := by
    show world.toStage = Stage.replay _ (world.history.push (.called id outcome)).toList
    rw [Stage.replay_push, ← twin.replayed]
    rfl
  failure := by
    refine ⟨world.history.toList, id, outcome, Array.toList_push, failing, ?_⟩
    intro strict other earlier member
    exact twin.passed strict other earlier (Array.mem_toList_iff.mp member)
  unreported := twin.unreported
  journal := rfl
  stores := rfl
  size := rfl
  flags _ := rfl
  closed := ⟨#[], Array.append_empty.symm, by simp⟩
  reported := ⟨recorder, #[], Array.append_empty.symm⟩
  continued := ⟨#[], Array.append_empty.symm⟩

end Twin

/-- Results of twin runs: twins still, or cut at the first report. -/
inductive Meets (own : Prop) :
    Except String α × World ω → Except String α × World ω → Prop where
  | same {ending : Except String α} {world : World ω} {handlers : Array Handler} :
    Twin own world handlers → Meets own (ending, world) (ending, world.withHandlers handlers)
  | cut {moment : World ω} {message : String} {ending : Except String α}
    {fatal recorded : World ω} : Cut own moment message fatal recorded →
      Meets own (.error message, fatal) (ending, recorded)

theorem Meets.map {fatal recording : Run ω α} {world world' : World ω} (f : α → β)
    (h : Meets own (fatal world) (recording world')) :
    Meets own ((do return f (← fatal) : Run ω β) world)
      ((do return f (← recording) : Run ω β) world') := by
  rw [Run.bind_apply, Run.bind_apply]
  generalize fatal world = first at h ⊢
  generalize recording world' = second at h ⊢
  cases h with
  | @same ending _ _ twin =>
    cases ending with
    | ok a => exact .same twin
    | error reason => exact .same twin
  | @cut _ _ ending _ _ broken =>
    cases ending with
    | ok a => exact .cut broken
    | error reason => exact .cut broken

/-- Runs that take twin worlds to results that meet. The recording one returns. -/
structure Mirrors (own : Prop) (fatal recording : Run ω α) : Prop where
  steady : Steady recording
  meets : ∀ {world handlers}, Twin own world handlers → (world.withHandlers handlers).Calm →
    Meets own (fatal world) (recording (world.withHandlers handlers))

namespace Mirrors

theorem bind {fatal recording : Run ω α} {next next' : α → Run ω β}
    (hf : Mirrors own fatal recording) (hn : ∀ a, Mirrors own (next a) (next' a)) :
    Mirrors own (fatal >>= next) (recording >>= next') where
  steady := .bind hf.steady fun a => (hn a).steady
  meets {world handlers} twin calm := by
    have meet := hf.meets twin calm
    obtain ⟨⟨a, returns⟩, calm', _⟩ := hf.steady _ calm
    rw [Run.bind_apply, Run.bind_apply]
    generalize fatal world = first at meet ⊢
    generalize recording (world.withHandlers handlers) = second at meet returns calm' ⊢
    cases meet with
    | @same ending _ _ twin' =>
      cases returns
      exact (hn a).meets twin' calm'
    | cut broken =>
      cases returns
      obtain ⟨⟨b, returns'⟩, _, grows⟩ := (hn a).steady _ calm'
      exact .cut (broken.grow grows)

theorem look {run : Run ω α} (read : World ω → α)
    (h : ∀ world, run world = (.ok (read world), world))
    (same : ∀ world handlers, read (world.withHandlers handlers) = read world) :
    Mirrors own run run where
  steady := .still fun world => ⟨read world, h world⟩
  meets {world handlers} twin _ := by
    rw [h, h, same]
    exact .same twin

theorem pure (a : α) : Mirrors (ω := ω) own (Pure.pure a) (Pure.pure a) :=
  .look (fun _ => a) (fun _ => rfl) fun _ _ => rfl

theorem state (id : ChainId) : Mirrors (ω := ω) own id.state id.state :=
  .look (fun world => world.chain id) (fun _ => rfl) fun _ _ => rfl

theorem contents (id : StoreId) : Mirrors (ω := ω) own id.contents id.contents :=
  .look (fun world => world.store id) (fun _ => rfl) fun _ _ => rfl

theorem spawn (id : ChainId) : Mirrors (ω := ω) own id.spawn id.spawn where
  steady := .spawn id
  meets {world handlers} twin _ := by
    have spawned : Twin own (Run.happen (.spawned id) world).2 handlers := twin.happen trivial
    exact .same spawned

theorem newStore : Mirrors (ω := ω) own Run.newStore Run.newStore where
  steady := .newStore
  meets {world handlers} twin _ := by
    have opened : Twin own (Run.happen .opened world).2 handlers := twin.happen trivial
    exact .same opened

theorem record (entry : Entry) (silent : ¬ entry.IsReport) :
    Mirrors (ω := ω) own (Run.record entry) (Run.record entry) where
  steady := .record entry
  meets {world handlers} twin _ := by
    have quiet : ∀ other ∈ #[entry], ¬ other.IsReport := by simpa using silent
    have added := twin.write quiet
    rw [← Array.push_eq_append] at added
    exact .same added

theorem within (id : ChainId) (label : String) {fatal recording : Run ω α}
    (h : Mirrors own fatal recording) :
    Mirrors own (id.within label fatal) (id.within label recording) where
  steady := .within label h.steady
  meets {world handlers} twin calm := by
    have opened : Twin own (Run.happen (.entered id label) world).2 handlers :=
      twin.happen trivial
    have calm' := (Steady.quiet (.entered id label) nofun _ calm).calm
    have meet := h.meets opened calm'
    have moved : (Run.happen (.entered id label) (world.withHandlers handlers)).2 =
        (Run.happen (.entered id label) world).2.withHandlers handlers := rfl
    rw [ChainId.within_apply, ChainId.within_apply, moved]
    generalize fatal (Run.happen (.entered id label) world).2 = first at meet ⊢
    generalize recording ((Run.happen (.entered id label) world).2.withHandlers handlers) = second
      at meet ⊢
    cases meet with
    | @same _ middle handlers' twin' =>
      have closed : Twin own (Run.happen (.left id) middle).2 handlers' := twin'.happen trivial
      exact .same closed
    | cut broken => exact .cut ((broken.leave id).grow (.happen _ _))

theorem deliver {world : World ω} {handlers : Array Handler} (twin : Twin own world handlers)
    (id : ChainId) (outcome : Outcome)
    (assigned : (world.chain id).handler.index < world.handlers.size) :
    Meets own (id.deliver outcome world) (id.deliver outcome (world.withHandlers handlers)) := by
  have paired := twin.paired _ assigned
  rw [ChainId.deliver_apply, ChainId.deliver_apply]
  show Meets own (Run.callOut ((world.handler (world.chain id).handler).receive outcome
      (world.store outcome.place.store)) _)
    (Run.callOut (((world.withHandlers handlers).handler (world.chain id).handler).receive outcome
      (world.store outcome.place.store)) _)
  rcases paired.receive outcome (world.store outcome.place.store) with
    ⟨same, adds, fine⟩ | ⟨failing, message, recorder, unwinds, records⟩
  · obtain ⟨entries, result, silent⟩ := adds world.journal
    rw [← same]
    unfold Run.callOut
    simp only [result, World.withHandlers]
    exact .same ((twin.call id fine).write silent)
  · rw [unwinds, records]
    exact .cut (twin.cut id recorder message failing)

theorem report (id : ChainId) (finding : Finding) :
    Mirrors (ω := ω) own (id.report finding) (id.report finding) where
  steady := .report id finding
  meets {world handlers} twin calm := by
    have chain : (world.withHandlers handlers).chain id = world.chain id := rfl
    rw [ChainId.report_apply, ChainId.report_apply, chain]
    by_cases failed : (world.chain id).failed = true
    · rw [if_pos failed, if_pos failed]
      exact (record (ChainId.suppressed _ finding) not_false).meets twin calm
    · have live : (world.chain id).failed = false := Bool.eq_false_iff.mpr failed
      rw [if_neg failed, if_neg failed]
      by_cases passed : finding.passed = true
      · rw [if_pos passed, if_pos passed]
        exact deliver twin id _ (twin.assigned id live)
      · rw [if_neg passed, if_neg passed]
        have marked : Twin own (Run.happen (.failed id) world).2 handlers := twin.happen trivial
        refine deliver marked id _ ?_
        have kept : ((world.after (.failed id)).chain id).handler = (world.chain id).handler :=
          Stage.handler_after (Stage.has_of_live live) _
        exact kept ▸ twin.assigned id live

theorem composed : Composed (ω := ω) (fun _ => True) fun run => Mirrors own run run where
  pure := .pure
  bind := .bind
  within id label _ _ h := .within id label h
  state := .state
  spawn id _ := .spawn id
  report id finding _ := .report id finding
  newStore := .newStore
  contents := .contents
  record entry mine := .record entry mine.silent

theorem of_local {id : ChainId} {run : Run ω α} (h : Local id run) : Mirrors own run run :=
  composed.of_local trivial h

theorem change {world : World ω} {handlers : Array Handler} (twin : Twin own world handlers)
    (store : StoreId) (new : Store) (leaving : List Stored) :
    Meets own (store.change new leaving world)
      (store.change new leaving (world.withHandlers handlers)) := by
  have stored : Twin own (Run.happen (.stored store new) world).2 handlers := twin.happen trivial
  unfold StoreId.change
  cases Store.alarm? leaving with
  | none => exact .same stored
  | some reason => exact .same stored

theorem use (store : StoreId) {use : Use α} (harmless : use.Harmless) :
    Mirrors (ω := ω) own (use.perform store) (use.perform store) where
  steady := .use store harmless
  meets {world handlers} twin calm := by
    cases use with
    | put key value => exact change twin store _ _
    | has key => exact (bind (contents store) fun _ => pure _).meets twin calm
    | delete key => exact .map (fun _ => Fields.has (world.store store) key) (change twin store _ _)
    | clear => exact change twin store _ _
    | keys => exact (bind (contents store) fun _ => pure _).meets twin calm

theorem host (change : ω → α × ω) :
    Mirrors own (Run.onHost change) (Run.onHost change) where
  steady world calm := by
    have grows : world.Grows (Run.onHost change world).2 :=
      ⟨⟨#[], Array.append_empty.symm⟩, ⟨#[], Array.append_empty.symm⟩⟩
    exact ⟨⟨_, rfl⟩, ⟨calm.handlers, calm.stores⟩, grows⟩
  meets {world handlers} twin _ := by
    have changed : Twin own (Run.onHost change world).2 handlers :=
      ⟨twin.size, twin.paired, twin.assigned, twin.unreported, twin.passed, twin.replayed⟩
    exact .same changed

theorem of_parts {nested plain : Prop} {subject : Option ChainId} {run : Run ω α}
    (h : Parts nested plain subject run) (holds : plain) : Mirrors own run run := by
  cases h with
  | on h => exact .of_local h
  | child h => exact .bind (.spawn _) fun child => .of_local (h child)
  | free h => exact .of_local (h ⟨0⟩)
  | state chain => exact .state chain
  | through chain use => exact .bind (.state chain) fun _ => .use _ holds
  | use store use => exact .use store holds
  | enter | leave => exact holds.elim

theorem newRoot {handler handler' : Handler} (paired : Paired own handler handler')
    (chain : HandlerId → Chain) (assigned : ∀ id, (chain id).handler = id) :
    Mirrors (ω := ω) own (Run.newHandler handler >>= fun id => Run.newChain (chain id))
      (Run.newHandler handler' >>= fun id => Run.newChain (chain id)) where
  steady := .bind (.newHandler paired.adds) fun id => .newChain (chain id)
  meets {world handlers} twin _ := by
    have whole : (Run.newHandler handler' >>= fun id => Run.newChain (chain id))
        (world.withHandlers handlers) = (.ok world.fresh,
          (world.withRoot handler chain).withHandlers (handlers.push handler')) := by
      show (_, (Run.happen (.began (chain ⟨handlers.size⟩)) _).2) = _
      rw [twin.size]
      rfl
    rw [whole]
    exact .same (twin.withRoot paired chain assigned)

end Mirrors
end FluentAssert
