import FluentAssert.Environment.Store
import FluentAssert.Journal
import FluentAssert.Message

/-! Handlers, which receive every outcome. A handler may write to the journal and may unwind; the
usual one formats outcomes and passes them on to a reporter and a logger. -/
namespace FluentAssert

/-- What a call to the outside leaves: the journal, and the reason if the call unwinds. -/
structure Aftermath where
  journal : Journal
  unwound : Option String

def Aftermath.after (journal : Journal) : Aftermath := ⟨journal, none⟩

/-- A receiver of texts, such as a reporter or a logger. -/
structure Sink where
  receive : String → Journal → Aftermath

namespace Sink

def fatal : Sink := ⟨fun message journal => ⟨journal, some message⟩⟩

def recordReports (recorder : Nat) : Sink :=
  ⟨fun message journal => .after (journal.push (.report recorder message))⟩

def recordLogs (recorder : Nat) : Sink :=
  ⟨fun message journal => .after (journal.push (.log recorder message))⟩

def events (level : Level) : Sink :=
  ⟨fun message journal => .after (journal.push (.event level message []))⟩

end Sink

/-- Makes texts of outcomes, and may look at the store of their place. -/
structure Formatter where
  success : Outcome → Store → String
  failure : Outcome → Store → String

def Formatter.builtIn (settings : Settings) : Formatter :=
  ⟨fun outcome _ => Message.success settings outcome,
   fun outcome _ => Message.failure settings outcome⟩

/-- Receives an outcome together with the store of its place. -/
structure Handler where
  success : Outcome → Store → Journal → Aftermath
  failure : Outcome → Store → Journal → Aftermath

namespace Handler

def receive (handler : Handler) (outcome : Outcome) : Store → Journal → Aftermath :=
  if outcome.finding.passed then handler.success outcome else handler.failure outcome

/-- Keeps every outcome. -/
def audit : Handler :=
  ⟨fun outcome store journal => .after (journal.push (.audit true outcome (Fields.keys store))),
   fun outcome store journal => .after (journal.push (.audit false outcome (Fields.keys store)))⟩

/-- Formats failures for the reporter, and successes for the logger if there is one. -/
def pipeline (formatter : Formatter) (reporter : Sink) (logger : Option Sink) : Handler :=
  ⟨fun outcome store journal =>
    match logger with
    | some logger => logger.receive (formatter.success outcome store) journal
    | none => .after journal,
   fun outcome store journal => reporter.receive (formatter.failure outcome store) journal⟩

end Handler
end FluentAssert
