import FluentAssert.Proofs.Program.Mirror
import FluentAssert.Proofs.Program.Scopes

/-! Fatal sessions. A run whose failures unwind is the beginning of the run whose failures are
recorded: it stops at the first report, with the text of that report, and only closes its scopes. -/
namespace FluentAssert

variable {ω κ α β : Type} {own : Prop}

namespace Config

def fatal (config : Config ω) : Config ω := { config with reporter := some .fatal }

def recording (recorder : Nat) (config : Config ω) : Config ω :=
  { config with reporter := some (.recordReports recorder) }

/-- Logger and handler return, add to the journal only, and write no failure messages there. -/
structure Mild (config : Config ω) : Prop where
  logger : ∀ sink ∈ config.logger, sink.Adds fun entry => ¬ entry.IsReport
  handler : ∀ handler ∈ config.handler, handler.Adds fun entry => ¬ entry.IsReport

theorem handlerOf_paired (config : Config ω) (recorder : Nat) (mild : config.Mild)
    (mine : config.handler.isSome = true → own) :
    (∃ e, config.fatal.handlerOf = .error e ∧ (config.recording recorder).handlerOf = .error e) ∨
      ∃ handler handler', config.fatal.handlerOf = .ok handler ∧
        (config.recording recorder).handlerOf = .ok handler' ∧ Paired own handler handler' := by
  obtain ⟨testName, reporter, formatter, logger, handler, environment, client, timeout, builders,
    matchers⟩ := config
  simp only [handlerOf, fatal, recording]
  by_cases zero : timeout = some .zero
  · exact .inl ⟨.zeroTimeout, if_pos zero, if_pos zero⟩
  · cases handler with
    | some handler =>
      have paired : Paired own handler handler := .same (mine rfl) (mild.handler handler rfl)
      exact .inr ⟨handler, handler, if_neg zero, if_neg zero, paired⟩
    | none =>
      exact .inr ⟨_, _, if_neg zero, if_neg zero, .reporting _ recorder mild.logger⟩

theorem root_eq {config : Config ω} {handler : Handler} (h : config.handlerOf = .ok handler) :
    config.root = do
      let store ← config.storeOf
      let chain ← Run.newHandler handler >>= fun id =>
        Run.newChain ⟨config.testName, [], false, id, store⟩
      return .ok chain := by
  unfold root
  rw [h]
  simp only [bind_assoc]

end Config

namespace Mirrors

theorem start (config : Config ω) (recorder : Nat) (mild : config.Mild)
    (mine : config.handler.isSome = true → own) :
    Mirrors own (Session.start? config.fatal) (Session.start? (config.recording recorder)) := by
  have root : Mirrors own config.fatal.root (config.recording recorder).root := by
    rcases config.handlerOf_paired recorder mild mine with
      ⟨e, refused, refused'⟩ | ⟨handler, handler', accepted, accepted', paired⟩
    · unfold Config.root
      rw [refused, refused']
      exact .pure _
    · rw [Config.root_eq accepted, Config.root_eq accepted']
      apply Mirrors.bind (Mirrors.composed.storeOf config)
      exact fun store => .bind (.newRoot paired _ fun _ => rfl) fun _ => .pure _
  apply Mirrors.bind root
  intro result
  cases result with
  | error e => exact .pure _
  | ok chain => exact .pure _

theorem program (base : κ → Config ω) (recorder : κ → Nat) (mild : ∀ name, (base name).Mild)
    (mine : ∀ name, (base name).handler.isSome = true → own) {program : Program ω κ α}
    (plain : program.Plain) :
    Mirrors own (program.run fun name => (base name).fatal)
      (program.run fun name => (base name).recording (recorder name)) := by
  induction program with
  | done a => exact .pure a
  | andThen _ _ ihFirst ihNext => exact .bind (ihFirst plain.1) fun a => ihNext a (plain.2 a)
  | start name => exact .start (base name) (recorder name) (mild name) (mine name)
  | act action => exact .of_parts action.parts plain
  | host change => exact .host change
  | within chain label _ ih => exact .within chain label (ih plain)
  | unwind | observe => exact plain.elim

end Mirrors

/-- A run that a failure stopped, beside the run that recorded it: they share their events up to
the moment right after a handler received that failure. Unless there are handlers besides the
reporters, it is the first failure of all. -/
structure Interrupted (own : Prop) (message : String) (fatal recorded : World ω)
    (shared : List Event) : Prop where
  failure : ∃ before id outcome, shared = before ++ [.called id outcome] ∧
    outcome.finding.passed = false ∧
    (¬ own → ∀ other earlier, .called other earlier ∈ before → earlier.finding.passed = true)
  /-- What was logged, sent and audited before is what the other run had before its first report. -/
  reported : ∃ recorder entries,
    recorded.journal = fatal.journal.push (.report recorder message) ++ entries
  unreported : ∀ entry ∈ fatal.journal, ¬ entry.IsReport
  /-- After the moment, the one run only closes scopes; the other goes on. -/
  closed : ∃ closings, fatal.history.toList = shared ++ closings ∧
    ∀ event ∈ closings, ∃ id, event = .left id
  continued : ∃ events, recorded.history.toList = shared ++ events
  stores : fatal.stores = (Stage.replay ⟨#[], #[]⟩ shared).stores
  chains : fatal.chains.size = (Stage.replay ⟨#[], #[]⟩ shared).chains.size
  flags : ∀ id, (fatal.chain id).failed = ((Stage.replay ⟨#[], #[]⟩ shared).chain id).failed

/-- One run is the beginning of the other, and all of it if nothing is reported. -/
structure Begins (own : Prop) (fatal recorded : Except String α × World ω) : Prop where
  unwinds : (∃ reason, fatal.1 = .error reason) ↔ ∃ entry ∈ recorded.2.journal, entry.IsReport
  interrupted : ∀ message, fatal.1 = .error message →
    ∃ shared, Interrupted own message fatal.2 recorded.2 shared
  whole : ∀ a, fatal.1 = .ok a → recorded.1 = .ok a ∧ recorded.2.toStage = fatal.2.toStage ∧
    recorded.2.journal = fatal.2.journal ∧ recorded.2.history = fatal.2.history

theorem Begins.returns {fatal recorded : Except String α × World ω}
    (begins : Begins own fatal recorded) :
    (∃ a, fatal.1 = .ok a) ↔ ∀ entry ∈ recorded.2.journal, ¬ entry.IsReport := by
  constructor
  · rintro ⟨a, returned⟩ entry member report
    obtain ⟨reason, unwound⟩ := begins.unwinds.mpr ⟨entry, member, report⟩
    rw [returned] at unwound
    cases unwound
  · intro silent
    cases h : fatal.1 with
    | ok a => exact ⟨a, rfl⟩
    | error reason =>
      obtain ⟨entry, member, report⟩ := begins.unwinds.mp ⟨reason, h⟩
      exact (silent entry member report).elim

theorem Cut.interrupted {moment fatal recorded : World ω} {message : String}
    (cut : Cut own moment message fatal recorded) :
    Interrupted own message fatal recorded moment.history.toList := by
  obtain ⟨closings, closed, all⟩ := cut.closed
  obtain ⟨events, continued⟩ := cut.continued
  have replayed := cut.replayed
  exact {
    failure := cut.failure
    reported := cut.journal ▸ cut.reported
    unreported := cut.journal ▸ cut.unreported
    closed := ⟨closings.toList, by rw [closed, Array.toList_append], by simpa using all⟩
    continued := ⟨events.toList, by rw [continued, Array.toList_append]⟩
    stores := replayed ▸ cut.stores
    chains := replayed ▸ cut.size
    flags := replayed ▸ cut.flags }

theorem World.calm_start (host : ω) : (World.start host).Calm where
  handlers _ outcome store := (Handler.audit_adds outcome store).mono fun _ _ => trivial
  stores _ _ member := by cases member

theorem Mirrors.begins {fatal recording : Run ω α} (mirrors : Mirrors own fatal recording)
    (host : ω) : Begins own (fatal (World.start host)) (recording (World.start host)) := by
  have meet := mirrors.meets (Twin.start host) (World.calm_start host)
  have returns := (mirrors.steady (World.start host) (World.calm_start host)).returns
  have same : (World.start host).withHandlers #[] = World.start host := rfl
  rw [same] at meet
  generalize fatal (World.start host) = first at meet ⊢
  generalize recording (World.start host) = second at meet returns ⊢
  obtain ⟨a, returns⟩ := returns
  cases meet with
  | @same ending world handlers twin =>
    cases returns
    refine ⟨⟨nofun, ?_⟩, nofun, fun b h => ⟨h, rfl, rfl, rfl⟩⟩
    rintro ⟨entry, member, report⟩
    exact (twin.unreported entry member report).elim
  | @cut moment message ending world world' broken =>
    refine ⟨⟨fun _ => ?_, fun _ => ⟨message, rfl⟩⟩, fun text h => ?_, nofun⟩
    · obtain ⟨recorder, entries, journal⟩ := broken.reported
      refine ⟨.report recorder message, ?_, trivial⟩
      rw [journal]
      exact Array.mem_append_left _ Array.mem_push_self
    · cases h
      exact ⟨_, broken.interrupted⟩

def expectRecording (recorder : Nat) (value : Native) : Run ω ValueNode := do
  (← Session.withReporter (.recordReports recorder)).value value

theorem Session.withReporter_eq (reporter : Sink) : Session.withReporter (ω := ω) reporter = do
    let store ← Run.newStore
    let chain ← Run.newHandler (.pipeline (.builtIn {}) reporter none) >>= fun id =>
      Run.newChain ⟨none, [], false, id, store⟩
    return ⟨chain, none, none, [], []⟩ := by
  unfold withReporter start start?
  rw [Config.root_eq (show Config.handlerOf _ = .ok _ from rfl)]
  simp only [bind_assoc, pure_bind]
  rfl

theorem Mirrors.expect (recorder : Nat) (value : Native) :
    Mirrors (ω := ω) own (FluentAssert.expect value) (expectRecording recorder value) := by
  have session : Mirrors (ω := ω) own (Session.withReporter .fatal)
      (Session.withReporter (.recordReports recorder)) := by
    rw [Session.withReporter_eq, Session.withReporter_eq]
    refine .bind .newStore fun store => .bind (.newRoot ?_ _ fun _ => rfl) fun _ => .pure _
    exact .reporting _ recorder nofun
  apply Mirrors.bind session
  intro session
  exact .of_parts (Action.parts (.entry session (.value value))) trivial

namespace Program

def runFatal (base : κ → Config ω) (program : Program ω κ α) : Run ω α :=
  program.run fun name => (base name).fatal

def runRecording (base : κ → Config ω) (recorder : κ → Nat) (program : Program ω κ α) : Run ω α :=
  program.run fun name => (base name).recording (recorder name)

/-- A fatal run is the beginning of the recorded run. Whichever call it is run from, it leaves the
chains that were there in the scopes they were in. An expectation, with whatever follows it,
returns just when nothing of it is reported. -/
theorem fatal_begins (base : κ → Config ω) (mild : ∀ name, (base name).Mild)
    (recorder : κ → Nat) (program : Program ω κ α) (plain : program.Plain) (host : ω) :
    Begins (∃ name, (base name).handler.isSome = true)
      (program.runFatal base (World.start host))
      (program.runRecording base recorder (World.start host)) ∧
    (∀ world id, world.Has id →
      ((program.runFatal base world).2.chain id).path = (world.chain id).path) ∧
    ∀ (number : Nat) (value : Native) (next : ValueNode → Program ω κ β),
      (∀ node, (next node).Plain) →
      ((∃ b, ((expect value >>= fun node => (next node).runFatal base) (World.start host)).1 =
          .ok b) ↔
        ∀ entry ∈ ((expectRecording number value >>= fun node =>
          (next node).runRecording base recorder) (World.start host)).2.journal,
          ¬ entry.IsReport) := by
  have mine : ∀ name, (base name).handler.isSome = true →
      ∃ name, (base name).handler.isSome = true := fun name some => ⟨name, some⟩
  refine ⟨(Mirrors.program base recorder mild mine plain).begins host, ?_, ?_⟩
  · exact fun world id has => (program.balanced _ plain world id has).2
  · intro number value next plain
    have mirrors := Mirrors.bind (.expect number value) fun node =>
      Mirrors.program base recorder mild mine (plain node)
    exact (mirrors.begins host).returns

def rejected : Program Unit Unit Unit :=
  .andThen (.start ()) fun
    | .ok session => .andThen (.act (.entry session (.value .none))) fun node =>
      .act (@Action.check Unit .value node .notNull)
    | .error _ => .done ()

theorem fatal_begins_rejected :
    Begins (∃ _ : Unit, ({} : Config Unit).handler.isSome = true)
      (rejected.runFatal (fun _ => {}) (World.start ()))
      (rejected.runRecording (fun _ => {}) (fun _ => 0) (World.start ())) ∧
    ∃ reason, (rejected.runFatal (fun _ => {}) (World.start ())).1 = .error reason := by
  have mild : ∀ _ : Unit, ({} : Config Unit).Mild := fun _ => ⟨nofun, nofun⟩
  have plain : rejected.Plain := by
    refine ⟨trivial, fun result => ?_⟩
    cases result with
    | ok session => exact ⟨trivial, fun _ => trivial⟩
    | error e => exact trivial
  exact ⟨(fatal_begins (β := Unit) (fun _ => {}) mild (fun _ => 0) rejected plain ()).1, _, rfl⟩

end Program
end FluentAssert
