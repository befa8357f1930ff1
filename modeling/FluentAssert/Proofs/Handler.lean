import FluentAssert.Handler

/-! Handlers that return, and handlers that only add to the journal. -/
namespace FluentAssert

def Entry.IsReport : Entry → Prop
  | .report .. => True
  | _ => False

/-- An entry of a kind that runs write themselves: a request that was sent, a diagnostic event. -/
def Entry.Own : Entry → Prop
  | .sent _ => True
  | .event .. => True
  | _ => False

theorem Entry.Own.silent {entry : Entry} (h : entry.Own) : ¬ entry.IsReport := by
  cases entry with
  | report => exact h.elim
  | log | audit | sent | event => exact id

/-- A call that returns, after adding entries of a kind to the journal. -/
def Adds (kind : Entry → Prop) (call : Journal → Aftermath) : Prop :=
  ∀ journal, ∃ entries : Array Entry,
    call journal = .after (journal ++ entries) ∧ ∀ entry ∈ entries, kind entry

theorem Adds.mono {kind kind' : Entry → Prop} {call : Journal → Aftermath} (h : Adds kind call)
    (wider : ∀ entry, kind entry → kind' entry) : Adds kind' call := by
  intro journal
  obtain ⟨entries, same, all⟩ := h journal
  exact ⟨entries, same, fun entry member => wider entry (all entry member)⟩

theorem adds_nothing (kind : Entry → Prop) : Adds kind .after :=
  fun _ => ⟨#[], by rw [Array.append_empty], by simp⟩

theorem adds_one {kind : Entry → Prop} {entry : Entry} (h : kind entry) :
    Adds kind fun journal => .after (journal.push entry) :=
  fun _ => ⟨#[entry], congrArg _ Array.push_eq_append, by simpa using h⟩

def Handler.Adds (kind : Entry → Prop) (handler : Handler) : Prop :=
  ∀ outcome store, FluentAssert.Adds kind (handler.receive outcome store)

def Sink.Adds (kind : Entry → Prop) (sink : Sink) : Prop :=
  ∀ message, FluentAssert.Adds kind (sink.receive message)

theorem Handler.audit_adds : Handler.audit.Adds fun entry => ¬ entry.IsReport := by
  intro outcome store
  unfold receive
  split
  · exact adds_one id
  · exact adds_one id

theorem Handler.pipeline_adds {kind : Entry → Prop} (formatter : Formatter) {reporter : Sink}
    {logger : Option Sink} (hr : reporter.Adds kind) (hl : ∀ sink ∈ logger, sink.Adds kind) :
    (Handler.pipeline formatter reporter logger).Adds kind := by
  intro outcome store
  unfold receive
  split
  · cases logger with
    | none => exact adds_nothing kind
    | some sink => exact hl sink rfl _
  · exact hr _

def Handler.Returns (handler : Handler) : Prop :=
  ∀ outcome store journal, (handler.receive outcome store journal).unwound = none

theorem Handler.audit_returns : Handler.audit.Returns := by
  intro outcome store journal
  unfold receive
  split <;> rfl

def Sink.Returns (sink : Sink) : Prop :=
  ∀ message journal, (sink.receive message journal).unwound = none

theorem Handler.pipeline_returns (formatter : Formatter) {reporter : Sink} {logger : Option Sink}
    (hr : reporter.Returns) (hl : ∀ sink ∈ logger, sink.Returns) :
    (Handler.pipeline formatter reporter logger).Returns := by
  intro outcome store journal
  unfold receive
  split
  · cases logger with
    | none => rfl
    | some sink => exact hl sink rfl _ journal
  · exact hr _ journal

end FluentAssert
