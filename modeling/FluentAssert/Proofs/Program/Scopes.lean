import FluentAssert.Proofs.Program.History

/-! Scopes and breadcrumbs. The path of a chain is made of the scopes that are open on it. Nested
programs close every scope they open, however they end, and every outcome says where it was made. -/
namespace FluentAssert

variable {ω κ α : Type} {id : ChainId} {labels labels' : List String}

/-- The scopes open on a chain after an event, outermost first. There is no answer if the event
closes a scope where none is open. -/
def Event.scopes (id : ChainId) (labels : List String) : Event → Option (List String)
  | .entered own label => some (if own = id then labels ++ [label] else labels)
  | .left own =>
    if own = id then (if labels = [] then none else some labels.dropLast) else some labels
  | _ => some labels

/-- The scopes open on a chain after events. -/
def openScopes (id : ChainId) (labels : List String) : List Event → Option (List String)
  | [] => some labels
  | event :: rest => (event.scopes id labels).bind fun labels => openScopes id labels rest

namespace Event

variable {event : Event}

theorem scopes_flat (flat : event.Flat) : event.scopes id labels = some labels := by
  cases event with
  | entered | left => exact flat.elim
  | began | spawned | failed | called | opened | stored => rfl

theorem scopes_inside (base : List String) (h : event.scopes id labels = some labels') :
    event.scopes id (base ++ labels) = some (base ++ labels') := by
  cases event with
  | entered own label =>
    cases h
    simp only [scopes]
    split
    · rw [List.append_assoc]
    · rfl
  | left own =>
    simp only [scopes] at h ⊢
    split at h
    · rename_i mine
      split at h
      · cases h
      · rename_i some
        cases h
        have more : base ++ labels ≠ [] := fun none => some (List.append_eq_nil_iff.mp none).2
        rw [if_pos mine, if_neg more, List.dropLast_append_of_ne_nil some]
    · rename_i other
      cases h
      rw [if_neg other]
  | began | spawned | failed | called | opened | stored =>
    cases h
    rfl

end Event

theorem openScopes_append (first rest : List Event) : openScopes id labels (first ++ rest) =
    (openScopes id labels first).bind fun labels => openScopes id labels rest := by
  induction first generalizing labels with
  | nil => rfl
  | cons event first ih =>
    simp only [List.cons_append, openScopes, ih, Option.bind_assoc]

theorem openScopes_inside (base : List String) {events : List Event}
    (h : openScopes id labels events = some labels') :
    openScopes id (base ++ labels) events = some (base ++ labels') := by
  induction events generalizing labels with
  | nil =>
    cases h
    rfl
  | cons event rest ih =>
    obtain ⟨middle, first, later⟩ := Option.bind_eq_some_iff.mp h
    rw [openScopes, Event.scopes_inside base first]
    exact ih later

theorem openScopes_flat {events : List Event} (flat : ∀ event ∈ events, event.Flat) :
    openScopes id labels events = some labels := by
  induction events with
  | nil => rfl
  | cons event rest ih =>
    obtain ⟨first, later⟩ := List.forall_mem_cons.mp flat
    rw [openScopes, Event.scopes_flat first]
    exact ih later

theorem openScopes_foreign {events : List Event}
    (foreign : ∀ event ∈ events, event.chain? ≠ some id) :
    openScopes id labels events = some labels := by
  induction events with
  | nil => rfl
  | cons event rest ih =>
    obtain ⟨first, later⟩ := List.forall_mem_cons.mp foreign
    have same : event.scopes id labels = some labels := by
      cases event with
      | entered own label => exact congrArg some (if_neg fun mine => first (congrArg some mine))
      | left own => exact if_neg fun mine => first (congrArg some mine)
      | began | spawned | failed | called | opened | stored => rfl
    rw [openScopes, same]
    exact ih later

namespace Stage

variable {stage : Stage} {event : Event} {events : List Event} {base : List String}

theorem path_after (has : stage.Has id) (flat : event.Flat) :
    ((stage.after event).chain id).path = (stage.chain id).path := by
  cases event with
  | entered | left => exact flat.elim
  | began | spawned => exact congrArg Chain.path (chain_pushChain has)
  | called | opened | stored => rfl
  | failed own =>
    by_cases same : id = own
    · cases same
      rw [after, chain_changeChain has]
    · exact congrArg Chain.path (chain_changeChain_other same)

theorem path_scopes (has : stage.Has id) (h : event.scopes id labels = some labels')
    (path : (stage.chain id).path = base ++ labels) :
    ((stage.after event).chain id).path = base ++ labels' := by
  cases event with
  | entered own label =>
    cases h
    by_cases mine : own = id
    · cases mine
      rw [after, chain_changeChain has, if_pos rfl, path, List.append_assoc]
    · rw [after, chain_changeChain_other (Ne.symm mine), if_neg mine, path]
  | left own =>
    by_cases mine : own = id
    · cases mine
      rw [Event.scopes, if_pos rfl] at h
      split at h
      · cases h
      · rename_i some
        cases h
        rw [after, chain_changeChain has, path, List.dropLast_append_of_ne_nil some]
    · rw [Event.scopes, if_neg mine] at h
      cases h
      rw [after, chain_changeChain_other (Ne.symm mine), path]
  | began | spawned | failed | called | opened | stored =>
    cases h
    refine (path_after has ?_).trans path
    trivial

theorem path_replay (has : stage.Has id) (h : openScopes id labels events = some labels')
    (path : (stage.chain id).path = base ++ labels) :
    ((stage.replay events).chain id).path = base ++ labels' := by
  induction events generalizing stage labels with
  | nil =>
    cases h
    exact path
  | cons event rest ih =>
    obtain ⟨middle, first, later⟩ := Option.bind_eq_some_iff.mp h
    exact ih (has_after event has) later (path_scopes has first path)

end Stage

/-- Every scope that is opened is closed, and no other. -/
def Closing (events : List Event) : Prop := ∀ id, openScopes id [] events = some []

theorem Event.flat_ofReport {own : ChainId} {chain : Chain} {finding : Finding} :
    ∀ event ∈ ofReport own chain finding, event.Flat := by
  intro event member
  unfold ofReport at member
  split at member
  · cases member
  · split at member
    · cases List.mem_singleton.mp member
      trivial
    · rcases List.mem_cons.mp member with rfl | later
      · trivial
      · cases List.mem_singleton.mp later
        trivial

theorem Closing.additive : Additive (fun _ => True) fun _ events => Closing events where
  nil _ _ := rfl
  append first rest id := by rw [openScopes_append, first id]; exact rest id
  one _ _ _ flat _ id := openScopes_flat fun _ member => List.mem_singleton.mp member ▸ flat
  report _ _ _ _ id := openScopes_flat Event.flat_ofReport
  within {_ own events} label _ closing id := by
    by_cases mine : own = id
    · have inner := openScopes_inside [label] (closing id)
      have opened : (Event.entered own label).scopes id [] = some [label] := by
        rw [Event.scopes, if_pos mine]
        rfl
      rw [openScopes, opened, Option.bind_some, openScopes_append]
      rw [List.append_nil] at inner
      rw [inner]
      simp [openScopes, Event.scopes, mine]
    · simp only [openScopes, Event.scopes, if_neg mine, Option.bind_some, openScopes_append,
        closing id]

theorem Closing.moment {before between after : List Event}
    (closing : Closing (before ++ between ++ after)) (clear : openScopes id [] before = some []) :
    ∃ labels, openScopes id [] between = some labels := by
  have whole := closing id
  rw [List.append_assoc, openScopes_append, clear, Option.bind_some, openScopes_append] at whole
  obtain ⟨labels, h, _⟩ := Option.bind_eq_some_iff.mp whole
  exact ⟨labels, h⟩

theorem Closing.path {stage : Stage} {events : List Event} (closing : Closing events)
    (has : stage.Has id) : ((stage.replay events).chain id).path = (stage.chain id).path := by
  have path := Stage.path_replay has (closing id) (List.append_nil (stage.chain id).path).symm
  rwa [List.append_nil] at path

/-- An outcome says where its chain is. -/
def Event.PlacedIn (stage : Stage) : Event → Prop
  | .called id outcome => outcome.place = (stage.chain id).place
  | _ => True

def Placed (stage : Stage) : List Event → Prop
  | [] => True
  | event :: rest => event.PlacedIn stage ∧ Placed (stage.after event) rest

theorem Placed.append {stage : Stage} {first rest : List Event} (h : Placed stage first)
    (h' : Placed (stage.replay first) rest) : Placed stage (first ++ rest) := by
  induction first generalizing stage with
  | nil => exact h'
  | cons event first ih => exact ⟨h.1, ih h.2 h'⟩

theorem Placed.moment {stage : Stage} {before after : List Event} {outcome : Outcome}
    (h : Placed stage (before ++ .called id outcome :: after)) :
    outcome.place = ((stage.replay before).chain id).place := by
  induction before generalizing stage with
  | nil => exact h.1
  | cons event before ih => exact ih h.2

theorem Placed.one {stage : Stage} {event : Event} (silent : event.Quiet) :
    Placed stage [event] := by
  cases event with
  | failed | called => exact silent.elim
  | began | spawned | entered | left | opened | stored => exact ⟨trivial, trivial⟩

theorem Placed.report (stage : Stage) (own : ChainId) (finding : Finding) :
    Placed stage (Event.ofReport own (stage.chain own) finding) := by
  unfold Event.ofReport
  split
  · trivial
  · rename_i live
    have has : stage.Has own := Stage.has_of_live (Bool.eq_false_iff.mpr live)
    split
    · exact ⟨rfl, trivial⟩
    · refine ⟨trivial, ?_, trivial⟩
      show _ = ((stage.after (.failed own)).chain own).place
      rw [Stage.after, Stage.chain_changeChain has]
      rfl

theorem Placed.additive : Additive (fun _ => True) Placed where
  nil _ := trivial
  append := .append
  one _ _ silent _ _ := .one silent
  report stage own finding _ := .report stage own finding
  within _ _ h := ⟨trivial, .append h (.one trivial)⟩

theorem Program.closing (configs : κ → Config ω) {program : Program ω κ α}
    (nested : program.Nested) : Traces (fun _ events => Closing events) (program.run configs) :=
  program.traces Closing.additive configs (.inl nested)

theorem Program.placed (configs : κ → Config ω) (program : Program ω κ α) :
    Traces Placed (program.run configs) :=
  program.traces Placed.additive configs (.inr fun _ _ => ⟨fun _ => .one trivial, .one trivial⟩)

/-- However a plain program ends, the chains that were there are back in the scopes they were in. -/
theorem Program.balanced (configs : κ → Config ω) {program : Program ω κ α}
    (plain : program.Plain) (world : World ω) (id : ChainId) (has : world.Has id) :
    (program.run configs world).2.Has id ∧
      ((program.run configs world).2.chain id).path = (world.chain id).path := by
  obtain ⟨events, follows, closing⟩ := program.closing configs plain.nested world
  rw [follows.stage]
  exact ⟨Stage.has_replay has, closing.path has⟩

end FluentAssert
