import FluentAssert.Proofs.Handler
import FluentAssert.Run

/-! Transitions of worlds. An event that says that a handler was called is one run of that handler,
and nothing but such runs and entries that runs write themselves changes the journal. -/
namespace FluentAssert

variable {ω : Type}

def Event.call? : Event → Option (ChainId × Outcome)
  | .called id outcome => some (id, outcome)
  | _ => none

namespace World

/-- Every call of a handler so far: for which chain, and with what. -/
def calls (world : World ω) : List (ChainId × Outcome) :=
  world.history.toList.filterMap Event.call?

/-- The world after the handler of a chain has run its success or its failure with an outcome. -/
def heard (world : World ω) (id : ChainId) (outcome : Outcome) : World ω :=
  let handler := world.handler (world.chain id).handler
  let run := if outcome.finding.passed then handler.success else handler.failure
  { world with
    history := world.history.push (.called id outcome)
    journal := (run outcome (world.store outcome.place.store) world.journal).journal }

inductive Transition : World ω → Option Event → World ω → Prop
  | event (event : Event) (world : World ω) :
    event.call? = none → Transition world (some event) (Run.happen event world).2
  | call (id : ChainId) (outcome : Outcome) (world : World ω) :
    Transition world (some (.called id outcome)) (world.heard id outcome)
  | entry (entry : Entry) (world : World ω) :
    entry.Own → Transition world none { world with journal := world.journal.push entry }
  | handler (handler : Handler) (world : World ω) :
    Transition world none { world with handlers := world.handlers.push handler }
  | host (host : ω) (world : World ω) : Transition world none { world with host }

inductive Transitions : World ω → List Event → World ω → Prop
  | refl (world : World ω) : Transitions world [] world
  | tail {first middle last : World ω} {events : List Event} {event : Option Event} :
    Transitions first events middle → Transition middle event last →
      Transitions first (events ++ event.toList) last

namespace Transitions

variable {first middle last : World ω} {events later : List Event}

theorem one {event : Option Event} (h : Transition first event last) :
    Transitions first event.toList last := (Transitions.refl first).tail h

theorem trans (h : Transitions first events middle) (h' : Transitions middle later last) :
    Transitions first (events ++ later) last := by
  induction h' with
  | refl => exact (List.append_nil events).symm ▸ h
  | tail _ next ih => exact List.append_assoc .. ▸ ih.tail next

theorem happen {event : Event} (world : World ω) (silent : event.call? = none) :
    Transitions world [event] (Run.happen event world).2 := one (.event event world silent)

theorem history (h : Transitions first events last) :
    last.history.toList = first.history.toList ++ events := by
  induction h with
  | refl => exact (List.append_nil _).symm
  | @tail middle last before event _ next ih =>
    have step : last.history.toList = middle.history.toList ++ event.toList := by
      cases next with
      | event | call => exact Array.toList_push
      | entry | handler | host => exact (List.append_nil _).symm
    rw [step, ih, List.append_assoc]

theorem calls (h : Transitions first events last) :
    last.calls = first.calls ++ events.filterMap Event.call? := by
  simp only [World.calls, h.history, List.filterMap_append]

end Transitions

/-- No handler is called between two worlds. -/
def Silent (first last : World ω) : Prop :=
  ∃ events, Transitions first events last ∧ events.filterMap Event.call? = []

namespace Silent

variable {first middle last : World ω}

theorem refl (world : World ω) : Silent world world := ⟨[], .refl world, rfl⟩

theorem trans (h : Silent first middle) (h' : Silent middle last) : Silent first last := by
  obtain ⟨events, transitions, none⟩ := h
  obtain ⟨later, transitions', none'⟩ := h'
  refine ⟨events ++ later, transitions.trans transitions', ?_⟩
  rw [List.filterMap_append, none, none']
  rfl

theorem happen {event : Event} (world : World ω) (silent : event.call? = none) :
    Silent world (Run.happen event world).2 :=
  ⟨[event], .happen world silent, by simp [silent]⟩

theorem record {entry : Entry} (world : World ω) (own : entry.Own) :
    Silent world (Run.record entry world).2 :=
  ⟨[], .one (.entry entry world own), rfl⟩

theorem calls (h : Silent first last) : last.calls = first.calls := by
  obtain ⟨events, transitions, none⟩ := h
  rw [transitions.calls, none, List.append_nil]

theorem journal (h : Silent first last) : ∃ entries : List Entry,
    last.journal = first.journal ++ entries.toArray ∧ ∀ entry ∈ entries, entry.Own := by
  obtain ⟨events, transitions, none⟩ := h
  induction transitions with
  | refl => exact ⟨[], Array.append_empty.symm, List.forall_mem_nil _⟩
  | tail _ next ih =>
    rw [List.filterMap_append, List.append_eq_nil_iff] at none
    obtain ⟨entries, same, own⟩ := ih none.1
    cases next with
    | event | handler | host => exact ⟨entries, same, own⟩
    | call => cases none.2
    | entry entry _ mine =>
      refine ⟨entries ++ [entry], ?_, List.forall_mem_append.mpr ⟨own, by simpa using mine⟩⟩
      rw [same]
      simp

end Silent
end World
end FluentAssert
