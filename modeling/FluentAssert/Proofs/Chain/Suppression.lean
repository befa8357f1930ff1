import FluentAssert.Proofs.Program.History

/-! Failure suppression. A failed chain stays failed, its failure is marked before the handler hears
of it, and after that neither the chain nor anything spawned from it calls a handler again. -/
namespace FluentAssert

variable {stage : Stage} {id : ChainId} {members : List ChainId} {event : Event}
  {before between after : List Event}

def Stage.AllFailed (stage : Stage) (members : List ChainId) : Prop :=
  ∀ id ∈ members, stage.Has id ∧ (stage.chain id).failed = true

namespace Stage.AllFailed

theorem replay (h : stage.AllFailed members) (events : List Event) :
    (stage.replay events).AllFailed (stage.lineage members events) :=
  forall_lineage (P := fun chain => chain.failed = true) (fun _ => failed_after) h events

theorem not_mem (h : stage.AllFailed members) (live : (stage.chain id).failed = false) :
    id ∉ members := by
  intro member
  have failed := (h id member).2
  rw [live] at failed
  cases failed

end Stage.AllFailed

theorem Stage.failed_quiet (has : stage.Has id) (quiet : event.Quiet) :
    ((stage.after event).chain id).failed = (stage.chain id).failed := by
  cases event with
  | failed | called => exact quiet.elim
  | entered own label => exact failed_entered own id label
  | left own => exact failed_left own id
  | began | spawned => exact congrArg Chain.failed (chain_pushChain has)
  | opened | stored => rfl

theorem outcomes_quiet (quiet : event.Quiet) (events : List Event) :
    outcomes id (event :: events) = outcomes id events := by
  cases event with
  | failed | called => exact quiet.elim
  | began | spawned | entered | left | opened | stored => rfl

namespace Lawful

/-- A moment in lawful events is followed by lawful events, unless it is the moment between a
failure and its announcement. -/
theorem cut {events : List Event} (lawful : Lawful stage events)
    (split : events = before ++ after) : Lawful (stage.replay before) after ∨
      ∃ earlier id outcome rest, before = earlier ++ [.failed id] ∧
        after = .called id outcome :: rest ∧ outcome.finding.passed = false ∧
        ((stage.replay earlier).chain id).failed = false := by
  induction lawful generalizing before with
  | nil =>
    obtain ⟨rfl, rfl⟩ := List.append_eq_nil_iff.mp split.symm
    exact .inl .nil
  | @quiet stage event rest silent tail ih =>
    cases before with
    | nil =>
      cases split
      exact .inl (.quiet silent tail)
    | cons first before =>
      cases split
      rcases ih rfl with whole | ⟨earlier, id, outcome, rest, rfl, rfl, failing, live⟩
      · exact .inl whole
      · exact .inr ⟨event :: earlier, id, outcome, rest, rfl, rfl, failing, live⟩
  | @success stage own outcome rest live passed tail ih =>
    cases before with
    | nil =>
      cases split
      exact .inl (.success live passed tail)
    | cons first before =>
      cases split
      rcases ih rfl with whole | ⟨earlier, id, other, rest, rfl, rfl, failing, live⟩
      · exact .inl whole
      · exact .inr ⟨.called own outcome :: earlier, id, other, rest, rfl, rfl, failing, live⟩
  | @failure stage own outcome rest live failing tail ih =>
    match before with
    | [] =>
      cases split
      exact .inl (.failure live failing tail)
    | [.failed _] =>
      cases split
      exact .inr ⟨[], own, outcome, rest, rfl, rfl, failing, live⟩
    | first :: second :: before =>
      cases split
      rcases ih rfl with whole | ⟨earlier, id, other, rest, rfl, rfl, failing', live'⟩
      · exact .inl whole
      · exact .inr ⟨.failed own :: .called own outcome :: earlier, id, other, rest, rfl, rfl,
          failing', live'⟩

theorem marked {events : List Event} (lawful : Lawful stage events) {outcome : Outcome}
    (split : events = before ++ .called id outcome :: after)
    (failing : outcome.finding.passed = false) :
    (stage.replay before).Has id ∧ ((stage.replay before).chain id).failed = true := by
  rcases lawful.cut split with whole | ⟨earlier, own, _, _, rfl, next, _, live⟩
  · cases whole with
    | quiet silent => exact silent.elim
    | success _ passed =>
      rw [passed] at failing
      cases failing
  · cases next
    have has : (stage.replay earlier).Has id := Stage.has_of_live live
    rw [Stage.replay_append, Stage.replay_cons, Stage.replay_nil]
    refine ⟨Stage.has_after _ has, ?_⟩
    rw [Stage.after, Stage.chain_changeChain has]

/-- The only call that a failed chain still makes, and right at once: the one that announces its
failure. -/
def Announces (before between : List Event) (failed caller : ChainId) (outcome : Outcome) : Prop :=
  caller = failed ∧ outcome.finding.passed = false ∧ between = [] ∧
    ∃ earlier, before = earlier ++ [.failed failed]

theorem silent {events : List Event} (lawful : Lawful stage events) {outcome : Outcome}
    {failed : ChainId} (split : events = before ++ between ++ .called id outcome :: after)
    (has : (stage.replay before).Has failed)
    (marked : ((stage.replay before).chain failed).failed = true)
    (member : id ∈ (stage.replay before).lineage [failed] between) :
    Announces before between failed id outcome := by
  have start : (stage.replay before).AllFailed [failed] := by
    intro other single
    cases List.mem_singleton.mp single
    exact ⟨has, marked⟩
  rcases lawful.cut split with whole | ⟨earlier, own, _, _, moment, next, failing, live⟩
  · rw [Stage.replay_append] at whole
    cases whole with
    | quiet silent => exact silent.elim
    | success live => exact ((start.replay between).not_mem live member).elim
  · cases next
    rcases List.eq_nil_or_concat between with rfl | ⟨between, last, rfl⟩
    · rw [List.append_nil] at moment
      cases List.mem_singleton.mp member
      exact ⟨rfl, failing, rfl, earlier, moment⟩
    · -- the chain was live right before the call, but its lineage had failed long ago
      rw [List.concat_eq_append, ← List.append_assoc] at moment
      obtain ⟨rfl, same⟩ := List.append_inj' moment rfl
      cases same
      rw [List.concat_eq_append, Stage.lineage_append] at member
      rw [Stage.replay_append] at live
      exact ((start.replay between).not_mem live member).elim

theorem outcomes_nil {events : List Event} (lawful : Lawful stage events) (has : stage.Has id)
    (failed : (stage.chain id).failed = true) : outcomes id events = [] := by
  apply List.filterMap_eq_nil_iff.mpr
  intro event member
  cases event with
  | called own outcome =>
    refine if_neg fun same => ?_
    obtain ⟨between, after, split⟩ := List.append_of_mem member
    have split : events = [] ++ between ++ .called own outcome :: after := split
    have descends : own ∈ stage.lineage [id] between :=
      Stage.mem_lineage (List.mem_singleton.mpr same) between
    obtain ⟨_, _, _, earlier, moment⟩ := lawful.silent split has failed descends
    cases earlier <;> cases moment
  | began | spawned | entered | left | failed | opened | stored => rfl

theorem outcomes_once {events : List Event} (lawful : Lawful stage events) (id : ChainId) :
    ∃ successes failures, outcomes id events = successes ++ failures ∧ failures.length ≤ 1 ∧
      (∀ outcome ∈ successes, outcome.finding.passed = true) ∧
      ∀ outcome ∈ failures, outcome.finding.passed = false := by
  induction lawful with
  | nil => exact ⟨[], [], rfl, Nat.zero_le 1, by simp, by simp⟩
  | @quiet stage event rest quiet _ ih =>
    rw [outcomes_quiet quiet]
    exact ih
  | @success stage own outcome rest live passed _ ih =>
    by_cases same : own = id
    · obtain ⟨successes, failures, whole, few, hs, hf⟩ := ih
      refine ⟨outcome :: successes, failures, ?_, few, ?_, hf⟩
      · simp only [outcomes, List.filterMap_cons, Event.outcome?, if_pos same, List.cons_append]
        exact congrArg (outcome :: ·) whole
      · intro other member
        rcases List.mem_cons.mp member with first | later
        · exact first ▸ passed
        · exact hs other later
    · simpa only [outcomes, List.filterMap_cons, Event.outcome?, if_neg same] using ih
  | @failure stage own outcome rest live failing tail ih =>
    by_cases same : own = id
    · cases same
      have has := Stage.has_of_live live
      have marked : ((stage.after (.failed id)).chain id).failed = true := by
        rw [Stage.after, Stage.chain_changeChain has]
      have nothing := tail.outcomes_nil (Stage.has_after _ has) marked
      refine ⟨[], [outcome], ?_, Nat.le_refl 1, by simp, ?_⟩
      · simp only [outcomes, List.filterMap_cons, Event.outcome?, if_true, List.nil_append]
        exact congrArg (outcome :: ·) nothing
      · intro other member
        exact List.mem_singleton.mp member ▸ failing
    · simpa only [outcomes, List.filterMap_cons, Event.outcome?, if_neg same] using ih

theorem failed_iff {events : List Event} (lawful : Lawful stage events) (has : stage.Has id) :
    ((stage.replay events).chain id).failed = true ↔ (stage.chain id).failed = true ∨
      ∃ outcome ∈ outcomes id events, outcome.finding.passed = false := by
  induction lawful with
  | nil => simp [outcomes]
  | @quiet stage event rest quiet _ ih =>
    rw [Stage.replay_cons, ih (Stage.has_after event has), Stage.failed_quiet has quiet,
      outcomes_quiet quiet]
  | @success stage own outcome rest live passed _ ih =>
    have same : stage.after (.called own outcome) = stage := rfl
    rw [Stage.replay_cons, same, ih has]
    by_cases mine : own = id
    · simp [outcomes, Event.outcome?, mine, passed]
    · simp [outcomes, Event.outcome?, mine]
  | @failure stage own outcome rest live failing _ ih =>
    have same : (stage.after (.failed own)).after (.called own outcome) =
        stage.after (.failed own) := rfl
    rw [Stage.replay_cons, Stage.replay_cons, same, ih (Stage.has_after _ has)]
    by_cases mine : own = id
    · have marked : ((stage.after (.failed own)).chain id).failed = true := by
        rw [mine, Stage.after, Stage.chain_changeChain has]
      have heard : outcome ∈ outcomes id (.failed own :: .called own outcome :: rest) := by
        simp [outcomes, Event.outcome?, mine]
      exact iff_of_true (.inl marked) (.inr ⟨outcome, heard, failing⟩)
    · have foreign : (stage.after (.failed own)).chain id = stage.chain id :=
        Stage.chain_changeChain_other (Ne.symm mine)
      simp [outcomes, Event.outcome?, mine, foreign]

end Lawful

theorem Follows.failed_iff {ω : Type} {first last : World ω} {events : List Event}
    (follows : Follows first events last) (has : first.Has id) :
    (last.chain id).failed = true ↔ (first.chain id).failed = true ∨
      ∃ outcome ∈ outcomes id events, outcome.finding.passed = false := by
  rw [follows.stage]
  exact follows.lawful.failed_iff has

/-- What failing means in the course of events. -/
structure Suppressed (stage : Stage) (events : List Event) : Prop where
  /-- A failed chain stays failed. -/
  stays : ∀ before between after id, events = before ++ between ++ after →
    (stage.replay before).Has id → ((stage.replay before).chain id).failed = true →
    ((stage.replay (before ++ between)).chain id).failed = true
  /-- A handler hears of a failure when the chain is already marked. -/
  marked : ∀ before after id outcome, events = before ++ .called id outcome :: after →
    outcome.finding.passed = false →
    (stage.replay before).Has id ∧ ((stage.replay before).chain id).failed = true
  /-- From then on, neither the chain nor its later lineage calls a handler again. -/
  silent : ∀ before between after failed caller outcome,
    events = before ++ between ++ .called caller outcome :: after →
    (stage.replay before).Has failed → ((stage.replay before).chain failed).failed = true →
    caller ∈ (stage.replay before).lineage [failed] between →
    Lawful.Announces before between failed caller outcome
  /-- A chain delivers successes, and then at most one failure. -/
  once : ∀ id, ∃ successes failures,
    outcomes id events = successes ++ failures ∧ failures.length ≤ 1 ∧
      (∀ outcome ∈ successes, outcome.finding.passed = true) ∧
      ∀ outcome ∈ failures, outcome.finding.passed = false

theorem Lawful.suppressed {events : List Event} (lawful : Lawful stage events) :
    Suppressed stage events where
  stays before between after id split has failed := by
    rw [Stage.replay_append]
    exact Stage.failed_replay has failed
  marked before after id outcome split failing := lawful.marked split failing
  silent before between after failed caller outcome split has failing member :=
    lawful.silent split has failing member
  once id := lawful.outcomes_once id

/-- Failures are suppressed in every run: whatever the program does, whichever configurations it
uses, and wherever their handlers unwind. -/
theorem Program.suppression {ω κ α : Type} (configs : κ → Config ω) (program : Program ω κ α)
    (world : World ω) : ∃ events, Follows world events (program.run configs world).2 ∧
      Suppressed world.toStage events := by
  obtain ⟨events, follows, _⟩ := program.orderly configs world
  exact ⟨events, follows, follows.lawful.suppressed⟩

end FluentAssert
