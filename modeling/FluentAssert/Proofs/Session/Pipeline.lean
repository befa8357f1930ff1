import FluentAssert.Proofs.Program.Uniform
import FluentAssert.Proofs.Session.Fatal

/-! The default pipeline beside handlers of one's own. Both see one program take one course; what a
handler is told as an outcome, the pipeline tells its reporter or its logger as a text. -/
namespace FluentAssert

variable {ω κ α : Type}

/-- What a configuration reports through when it has no handler. -/
structure Pipe where
  formatter : Option Formatter
  reporter : Sink
  logger : Option Sink

namespace Pipe

def voice (pipe : Pipe) : Formatter := pipe.formatter.getD (.builtIn {})

def handler (pipe : Pipe) : Handler := .pipeline pipe.voice pipe.reporter pipe.logger

/-- Who is told of an outcome, and in which words: the reporter of a failure, the logger of a
success, and nobody of a success when there is no logger. -/
def words (pipe : Pipe) (outcome : Outcome) (store : Store) : List (Sink × String) :=
  if outcome.finding.passed then
    pipe.logger.toList.map fun logger => (logger, pipe.voice.success outcome store)
  else [(pipe.reporter, pipe.voice.failure outcome store)]

structure Returns (pipe : Pipe) : Prop where
  reporter : pipe.reporter.Returns
  logger : ∀ sink ∈ pipe.logger, sink.Returns

theorem Returns.handler {pipe : Pipe} (returns : pipe.Returns) : pipe.handler.Returns :=
  Handler.pipeline_returns pipe.voice returns.reporter returns.logger

end Pipe

/-- The journal after an utterance that pipes pass on. -/
def Utterance.relay (pipes : κ → Pipe) (journal : Journal) : Utterance κ → Journal
  | .own entry => journal.push entry
  | .call made => ((pipes made.name).words made.outcome made.store).foldl
      (fun journal (sink, text) => (sink.receive text journal).journal) journal

theorem Utterance.write_handler (pipes : κ → Pipe) (journal : Journal) (utterance : Utterance κ) :
    utterance.write (fun name => (pipes name).handler) journal = utterance.relay pipes journal := by
  cases utterance with
  | own entry => rfl
  | call made =>
    unfold write relay Handler.receive Pipe.words
    by_cases passed : made.outcome.finding.passed = true
    · simp only [if_pos passed, Pipe.handler, Handler.pipeline]
      cases (pipes made.name).logger <;> rfl
    · simp only [if_neg passed]
      rfl

/-- A pipe that keeps its texts: failures under one number, and successes, if at all, under
another. -/
structure Recorder where
  formatter : Option Formatter
  reports : Nat
  logs : Option Nat

def Recorder.pipe (recorder : Recorder) : Pipe :=
  ⟨recorder.formatter, .recordReports recorder.reports, recorder.logs.map .recordLogs⟩

theorem Recorder.returns (recorder : Recorder) : recorder.pipe.Returns where
  reporter _ _ := rfl
  logger sink member := by
    obtain ⟨number, _, rfl⟩ := Option.map_eq_some_iff.mp member
    exact fun _ _ => rfl

namespace Entry

def audit? : Entry → Option (Bool × Outcome × List String)
  | .audit passed outcome keys => some (passed, outcome, keys)
  | _ => none

def report? (number : Nat) : Entry → Option String
  | .report recorder text => if recorder = number then some text else none
  | _ => none

def log? (number : Nat) : Entry → Option String
  | .log recorder text => if recorder = number then some text else none
  | _ => none

end Entry

theorem Entry.Own.unkept {entry : Entry} (h : entry.Own) :
    entry.audit? = none ∧ ∀ number, entry.report? number = none ∧ entry.log? number = none := by
  cases entry with
  | sent | event => exact ⟨rfl, fun _ => ⟨rfl, rfl⟩⟩
  | report | log | audit => exact h.elim

def Call.audit (made : Call κ) : Entry :=
  .audit made.outcome.finding.passed made.outcome (Fields.keys made.store)

theorem Utterance.write_audit (journal : Journal) (made : Call κ) :
    write (fun _ => .audit) journal (.call made) = journal ++ [made.audit].toArray := by
  have audited : (Handler.audit.receive made.outcome made.store journal).journal =
      journal.push made.audit := by
    unfold Handler.receive Call.audit
    cases made.outcome.finding.passed <;> rfl
  exact audited.trans Array.push_eq_append

def Recorder.entries (recorder : Recorder) (made : Call κ) : List Entry :=
  if made.outcome.finding.passed then
    recorder.logs.toList.map fun number =>
      .log number (recorder.pipe.voice.success made.outcome made.store)
  else [.report recorder.reports (recorder.pipe.voice.failure made.outcome made.store)]

theorem Utterance.relay_recorders (recorders : κ → Recorder) (journal : Journal) (made : Call κ) :
    relay (fun name => (recorders name).pipe) journal (.call made) =
      journal ++ ((recorders made.name).entries made).toArray := by
  unfold relay Recorder.entries Pipe.words
  by_cases passed : made.outcome.finding.passed = true
  · simp only [if_pos passed]
    unfold Recorder.pipe
    cases (recorders made.name).logs with
    | none => exact Array.append_empty.symm
    | some number => exact Array.push_eq_append
  · simp only [if_neg passed]
    exact Array.push_eq_append

/-- What is kept of every call is kept of a transcript, when nothing is kept of other entries. -/
theorem kept_calls {γ : Type} {write : Journal → Utterance κ → Journal}
    {entries : Call κ → List Entry} {pick : Entry → Option γ} {keep : Call κ → Bool}
    {text : Call κ → γ} (own : ∀ journal entry, write journal (.own entry) = journal.push entry)
    (call : ∀ journal made, write journal (.call made) = journal ++ (entries made).toArray)
    (unkept : ∀ entry : Entry, entry.Own → pick entry = none)
    (kept : ∀ made, (entries made).filterMap pick = if keep made then [text made] else [])
    {transcript : List (Utterance κ)} (mine : ∀ entry, .own entry ∈ transcript → entry.Own) :
    (transcript.foldl write #[]).toList.filterMap pick =
      ((calls transcript).filter keep).map text := by
  -- The induction is on what is still to come, for any journal so far.
  have general (journal : Journal) : (transcript.foldl write journal).toList.filterMap pick =
      journal.toList.filterMap pick ++ ((calls transcript).filter keep).map text := by
    induction transcript generalizing journal with
    | nil => exact (List.append_nil _).symm
    | cons utterance rest ih =>
      have later := ih fun entry member => mine entry (List.mem_cons_of_mem _ member)
      rw [List.foldl_cons, later]
      cases utterance with
      | own entry =>
        have none := unkept entry (mine entry List.mem_cons_self)
        have same : calls (.own entry :: rest) = calls rest := rfl
        rw [own, Array.toList_push, List.filterMap_append, same]
        simp [none]
      | call made =>
        have first : calls (.call made :: rest) = made :: calls rest := rfl
        rw [call, Array.toList_append, List.filterMap_append, kept, first, List.filter_cons]
        split <;> simp
  exact general #[]

namespace Config

def handledBy (handler : Handler) (config : Config ω) : Config ω :=
  { config with handler := some handler }

def piped (pipe : Pipe) (config : Config ω) : Config ω :=
  { config with
    handler := none
    formatter := pipe.formatter
    reporter := some pipe.reporter
    logger := pipe.logger }

def bare (config : Config ω) : Config ω :=
  { config with handler := none, formatter := none, reporter := none, logger := none }

end Config

theorem Session.start?_congr {config config' : Config ω}
    (handler : config.handlerOf = config'.handlerOf) (rest : config.bare = config'.bare) :
    start? config = start? config' := by
  have testName : config.testName = config'.testName := (congrArg Config.testName rest :)
  have environment : config.environment = config'.environment :=
    (congrArg Config.environment rest :)
  have client : config.client = config'.client := (congrArg Config.client rest :)
  have timeout : config.requestTimeout = config'.requestTimeout :=
    (congrArg Config.requestTimeout rest :)
  have builders : config.builders = config'.builders := (congrArg Config.builders rest :)
  have matchers : config.matchers = config'.matchers := (congrArg Config.matchers rest :)
  simp only [start?, Config.root, Config.storeOf, handler, testName, environment, client, timeout,
    builders, matchers]

namespace Uniform

theorem start (name : κ) (config : Config ω) :
    Uniform fun handlers : κ → Handler => Session.start? (config.handledBy (handlers name)) := by
  have root : Uniform fun handlers : κ → Handler => (config.handledBy (handlers name)).root := by
    by_cases zero : config.requestTimeout = some .zero
    · have refused (handler : Handler) :
          (config.handledBy handler).root = Pure.pure (.error .zeroTimeout) := by
        have same : (config.handledBy handler).handlerOf = .error .zeroTimeout := if_pos zero
        rw [Config.root, same]
      simp only [refused]
      exact pure _
    · have accepted (handler : Handler) : (config.handledBy handler).root = do
          let store ← config.storeOf
          let chain ← Run.newHandler handler >>= fun id =>
            Run.newChain ⟨config.testName, [], false, id, store⟩
          return .ok chain :=
        Config.root_eq (show (config.handledBy handler).handlerOf = .ok handler from if_neg zero)
      simp only [accepted]
      apply bind (composed.storeOf config)
      exact fun store => bind (newRoot name _ fun _ => rfl) fun _ => pure _
  apply bind root
  intro result
  cases result with
  | error e => exact pure _
  | ok chain =>
    let session : Session ω :=
      ⟨chain, config.client, config.requestTimeout, config.builders, config.matchers⟩
    exact pure (Except.ok session)

theorem program (base : κ → Config ω) (program : Program ω κ α) :
    Uniform fun handlers => program.run fun name => (base name).handledBy (handlers name) := by
  induction program with
  | done a => exact pure a
  | andThen _ _ ihFirst ihNext => exact bind ihFirst ihNext
  | start name => exact start name (base name)
  | act action => exact of_parts action.parts
  | host change => exact host change
  | within chain label _ ih => exact within chain label ih
  | unwind reason => exact unwind reason
  | observe _ ih => exact observe ih

end Uniform

/-- Two runs of one program, with handlers and with pipes. -/
structure Refines (transcript : List (Utterance κ)) (handlers : κ → Handler) (pipes : κ → Pipe)
    (handled piped : Except String α × World ω) : Prop where
  ending : piped.1 = handled.1
  /-- Flags, paths and stores are the same. -/
  stage : piped.2.toStage = handled.2.toStage
  host : piped.2.host = handled.2.host
  history : piped.2.history = handled.2.history
  /-- The calls are all that the history has, with the stores of the time. -/
  told : (calls transcript).map (fun made => (made.outcome, made.store)) =
    Stage.told ⟨#[], #[]⟩ handled.2.history.toList
  own : ∀ entry, .own entry ∈ transcript → entry.Own
  journal : handled.2.journal = transcript.foldl (Utterance.write handlers) #[]
  /-- For every call of a handler, reporter or logger are told in the words of the formatter. -/
  relayed : piped.2.journal = transcript.foldl (Utterance.relay pipes) #[]

/-- What audits and recorders have kept. -/
structure Recorded (transcript : List (Utterance κ)) (recorders : κ → Recorder)
    (audited piped : Journal) : Prop where
  audits : audited.toList.filterMap Entry.audit? = (calls transcript).map fun made =>
    (made.outcome.finding.passed, made.outcome, Fields.keys made.store)
  /-- Failures are reported, in order. -/
  reports : ∀ number, piped.toList.filterMap (Entry.report? number) =
    ((calls transcript).filter fun made =>
      !made.outcome.finding.passed && (recorders made.name).reports == number).map fun made =>
      (recorders made.name).pipe.voice.failure made.outcome made.store
  /-- Successes are logged, in order, where there is a logger. -/
  logs : ∀ number, piped.toList.filterMap (Entry.log? number) =
    ((calls transcript).filter fun made =>
      made.outcome.finding.passed && (recorders made.name).logs == some number).map fun made =>
      (recorders made.name).pipe.voice.success made.outcome made.store

theorem recorded (recorders : κ → Recorder) {transcript : List (Utterance κ)}
    (mine : ∀ entry, .own entry ∈ transcript → entry.Own) :
    Recorded transcript recorders
      (transcript.foldl (Utterance.write fun _ => .audit) #[])
      (transcript.foldl (Utterance.relay fun name => (recorders name).pipe) #[]) where
  audits := by
    rw [← List.filter_true (calls transcript)]
    refine kept_calls (fun _ _ => rfl) Utterance.write_audit ?_ (fun _ => rfl) mine
    exact fun _ own => own.unkept.1
  reports number := by
    refine kept_calls (fun _ _ => rfl) (Utterance.relay_recorders recorders) ?_ ?_ mine
    · exact fun _ own => (own.unkept.2 number).1
    · intro made
      unfold Recorder.entries
      by_cases passed : made.outcome.finding.passed = true
      · cases (recorders made.name).logs <;> simp [passed, Entry.report?]
      · by_cases chosen : (recorders made.name).reports = number <;>
          simp [passed, chosen, Entry.report?]
  logs number := by
    refine kept_calls (fun _ _ => rfl) (Utterance.relay_recorders recorders) ?_ ?_ mine
    · exact fun _ own => (own.unkept.2 number).2
    · intro made
      unfold Recorder.entries
      by_cases passed : made.outcome.finding.passed = true
      · cases (recorders made.name).logs with
        | none => simp [passed]
        | some log => by_cases chosen : log = number <;> simp [passed, chosen, Entry.log?]
      · simp [passed, Entry.log?]

namespace Program

def runHandled (base : κ → Config ω) (handlers : κ → Handler) (program : Program ω κ α) : Run ω α :=
  program.run fun name => (base name).handledBy (handlers name)

def runPiped (base : κ → Config ω) (pipes : κ → Pipe) (program : Program ω κ α) : Run ω α :=
  program.run fun name => (base name).piped (pipes name)

theorem run_congr {configs configs' : κ → Config ω}
    (same : ∀ name, Session.start? (configs name) = Session.start? (configs' name))
    (program : Program ω κ α) : program.run configs = program.run configs' := by
  induction program with
  | done | act | host | unwind => rfl
  | andThen first next ihFirst ihNext =>
    show first.run configs >>= _ = first.run configs' >>= _
    rw [ihFirst]
    exact congrArg _ (funext ihNext)
  | start name => exact same name
  | within chain label body ih => exact congrArg (chain.within label) ih
  | observe body ih => exact congrArg Run.observe ih

theorem runPiped_eq (base : κ → Config ω) (pipes : κ → Pipe) (program : Program ω κ α) :
    program.runPiped base pipes = program.runHandled base fun name => (pipes name).handler := by
  apply run_congr
  exact fun name => Session.start?_congr rfl rfl

theorem runHandled_bare (base : κ → Config ω) (handlers : κ → Handler) (program : Program ω κ α) :
    program.runHandled base handlers =
      program.runHandled (fun name => (base name).bare) handlers := by
  apply run_congr
  exact fun name => Session.start?_congr rfl rfl

/-- One transcript says of a program what it tells handlers. Handlers that return, and pipes that
return, see the program end in the same way and leave the same chains and stores. What a handler is
told, a pipe passes on: each failure to the reporter and each success to the logger, if there is
one. A recorder has kept just these texts, in order. Where there is a handler, nobody else is
called. -/
theorem pipeline_refines (base : κ → Config ω) (program : Program ω κ α) (host : ω) :
    ∃ transcript : List (Utterance κ),
      (∀ handlers pipes, (∀ name, (handlers name).Returns) → (∀ name, (pipes name).Returns) →
        Refines transcript handlers pipes (program.runHandled base handlers (World.start host))
          (program.runPiped base pipes (World.start host))) ∧
      (∀ recorders, Recorded transcript recorders
        (program.runHandled base (fun _ => .audit) (World.start host)).2.journal
        (program.runPiped base (fun name => (recorders name).pipe) (World.start host)).2.journal) ∧
      ∀ handlers, program.runHandled base handlers =
        program.runHandled (fun name => (base name).bare) handlers := by
  obtain ⟨ending, last, sound, h⟩ :=
    Uniform.program base program (Course.start host) (.start host)
  have handled (handlers : κ → Handler) (returns : ∀ name, (handlers name).Returns) :
      program.runHandled base handlers (World.start host) = (ending, last.world handlers) := by
    rw [← Course.world_start host handlers]
    exact h handlers returns
  have piped (pipes : κ → Pipe) (returns : ∀ name, (pipes name).Returns) :
      program.runPiped base pipes (World.start host) =
        (ending, last.world fun name => (pipes name).handler) := by
    rw [runPiped_eq]
    exact handled _ fun name => (returns name).handler
  have relayed (pipes : κ → Pipe) : (last.world fun name => (pipes name).handler).journal =
      last.transcript.foldl (Utterance.relay pipes) #[] := by
    have same : Utterance.write (fun name => (pipes name).handler) = Utterance.relay pipes :=
      funext fun journal => funext fun utterance => utterance.write_handler pipes journal
    rw [← same]
    rfl
  refine ⟨last.transcript, ?_, ?_, fun handlers => program.runHandled_bare base handlers⟩
  · intro handlers pipes returns returns'
    rw [handled handlers returns, piped pipes returns']
    exact {
      ending := rfl
      stage := rfl
      host := rfl
      history := rfl
      told := sound.told
      own := sound.own
      journal := rfl
      relayed := relayed pipes }
  · intro recorders
    rw [handled _ fun _ => Handler.audit_returns, piped _ fun name => (recorders name).returns,
      relayed]
    exact recorded recorders sound.own

def recorder : Recorder := ⟨none, 0, some 1⟩

theorem pipeline_refines_rejected :
    Handler.audit.Returns ∧ recorder.pipe.Returns ∧
    (rejected.runPiped (fun _ => {}) (fun _ => recorder.pipe) (World.start ())).1 =
      (rejected.runHandled (fun _ => {}) (fun _ => .audit) (World.start ())).1 ∧
    ∃ text, (rejected.runPiped (fun _ => {}) (fun _ => recorder.pipe)
      (World.start ())).2.journal.toList.filterMap (Entry.report? 0) = [text] := by
  obtain ⟨transcript, refines, -⟩ := pipeline_refines (fun _ => {}) rejected ()
  have audits : Handler.audit.Returns := Handler.audit_returns
  have both := refines (fun _ => .audit) (fun _ => recorder.pipe) (fun _ => audits)
    fun _ => recorder.returns
  exact ⟨audits, recorder.returns, both.ending, _, rfl⟩

end Program
end FluentAssert
