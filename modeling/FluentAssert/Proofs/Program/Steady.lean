import FluentAssert.Proofs.Fields
import FluentAssert.Proofs.Program.History

/-! Steady programs. Where handlers return and only add to the journal, and where no store holds a
value that unwinds, plain programs return and add to what was there. -/
namespace FluentAssert

variable {ω κ α β : Type}

/-- Handlers return and only add to the journal; no stored value unwinds. -/
structure World.Calm (world : World ω) : Prop where
  handlers : ∀ id, (world.handler id).Adds fun _ => True
  stores : ∀ id, ∀ field ∈ world.store id, field.2.alarm? = none

/-- The second world has what the first has, and maybe more. -/
structure World.Grows (first last : World ω) : Prop where
  journal : ∃ entries, last.journal = first.journal ++ entries
  history : ∃ events, last.history = first.history ++ events

namespace World.Grows

variable {first middle last : World ω}

theorem refl (world : World ω) : world.Grows world :=
  ⟨⟨#[], Array.append_empty.symm⟩, ⟨#[], Array.append_empty.symm⟩⟩

theorem trans (h : first.Grows middle) (h' : middle.Grows last) : first.Grows last := by
  obtain ⟨⟨entries, journal⟩, ⟨events, history⟩⟩ := h
  obtain ⟨⟨entries', journal'⟩, ⟨events', history'⟩⟩ := h'
  refine ⟨⟨entries ++ entries', ?_⟩, ⟨events ++ events', ?_⟩⟩
  · rw [journal', journal, Array.append_assoc]
  · rw [history', history, Array.append_assoc]

theorem happen (world : World ω) (event : Event) : world.Grows (Run.happen event world).2 :=
  ⟨⟨#[], Array.append_empty.symm⟩, ⟨#[event], Array.push_eq_append⟩⟩

end World.Grows

/-- A run returns, leaves a calm world and only adds to what was there. -/
structure SteadyAt (world : World ω) (run : Run ω α) : Prop where
  returns : ∃ a, (run world).1 = .ok a
  calm : (run world).2.Calm
  grows : world.Grows (run world).2

def Steady (run : Run ω α) : Prop := ∀ world, world.Calm → SteadyAt world run

theorem SteadyAt.congr {world : World ω} {run run' : Run ω α} (h : SteadyAt world run')
    (same : run world = run' world) : SteadyAt world run :=
  ⟨same ▸ h.returns, same ▸ h.calm, same ▸ h.grows⟩

theorem SteadyAt.bind {world : World ω} {first : Run ω α} {next : α → Run ω β}
    (hf : SteadyAt world first) (hn : ∀ a, Steady (next a)) : SteadyAt world (first >>= next) := by
  obtain ⟨⟨a, returns⟩, calm, grows⟩ := hf
  have whole := Run.bind_returned returns next
  obtain ⟨returns', calm', grows'⟩ := hn a _ calm
  exact ⟨whole ▸ returns', whole ▸ calm', whole ▸ grows.trans grows'⟩

namespace Steady

theorem still {run : Run ω α} (h : ∀ world, ∃ a, run world = (.ok a, world)) : Steady run := by
  intro world calm
  obtain ⟨a, same⟩ := h world
  exact ⟨⟨a, same ▸ rfl⟩, same ▸ calm, same ▸ .refl world⟩

theorem pure (a : α) : Steady (ω := ω) (Pure.pure a) := still fun _ => ⟨a, rfl⟩

theorem world : Steady (ω := ω) Run.world := still fun world => ⟨world, rfl⟩

theorem bind {first : Run ω α} {next : α → Run ω β} (hf : Steady first)
    (hn : ∀ a, Steady (next a)) : Steady (first >>= next) :=
  fun world calm => (hf world calm).bind hn

theorem map {run : Run ω α} (f : α → β) (h : Steady run) : Steady (do return f (← run)) :=
  .bind h fun _ => .pure _

theorem happen {event : Event}
    (h : ∀ world : World ω, world.Calm → (Run.happen event world).2.Calm) :
    Steady (ω := ω) (Run.happen event) :=
  fun world calm => ⟨⟨(), rfl⟩, h world calm, .happen world event⟩

theorem quiet (event : Event) (h : ∀ id contents, event ≠ .stored id contents) :
    Steady (ω := ω) (Run.happen event) := by
  apply happen
  intro world calm
  constructor
  · exact calm.handlers
  · intro id field member
    cases event with
    | stored id contents => exact (h id contents rfl).elim
    | began | spawned | entered | left | failed | called => exact calm.stores id field member
    | opened => exact calm.stores id field (Stage.store_opened id ▸ member)

theorem within {own : ChainId} (label : String) {body : Run ω α} (h : Steady body) :
    Steady (own.within label body) := by
  intro world calm
  obtain ⟨_, calm, opening⟩ := quiet (.entered own label) nofun world calm
  obtain ⟨returns, calm, growing⟩ := h _ calm
  obtain ⟨_, calm, closing⟩ := quiet (.left own) nofun _ calm
  exact ⟨returns, calm, (opening.trans growing).trans closing⟩

theorem spawn (own : ChainId) : Steady (ω := ω) own.spawn :=
  .bind .world fun _ => .bind (.quiet _ nofun) fun _ => .pure _

theorem newStore : Steady (ω := ω) Run.newStore :=
  .bind .world fun _ => .bind (.quiet _ nofun) fun _ => .pure _

theorem record (entry : Entry) : Steady (ω := ω) (Run.record entry) := by
  intro world calm
  have kept : (Run.record entry world).2.Calm := ⟨calm.handlers, calm.stores⟩
  have grows : world.Grows (Run.record entry world).2 :=
    ⟨⟨#[entry], Array.push_eq_append⟩, ⟨#[], Array.append_empty.symm⟩⟩
  exact ⟨⟨(), rfl⟩, kept, grows⟩

theorem deliver (own : ChainId) (outcome : Outcome) : Steady (ω := ω) (own.deliver outcome) := by
  intro world calm
  obtain ⟨entries, same, _⟩ := calm.handlers (world.chain own).handler outcome
    (world.store outcome.place.store) world.journal
  have whole : own.deliver outcome world = (.ok (), { world with
      journal := world.journal ++ entries
      history := world.history.push (.called own outcome) }) := by
    rw [ChainId.deliver_apply, Run.callOut]
    simp only [same]
    rfl
  refine ⟨⟨(), whole ▸ rfl⟩, ?_, ?_⟩
  · rw [whole]
    exact ⟨calm.handlers, calm.stores⟩
  · rw [whole]
    exact ⟨⟨entries, rfl⟩, ⟨_, Array.push_eq_append⟩⟩

theorem report (own : ChainId) (finding : Finding) : Steady (ω := ω) (own.report finding) := by
  intro world calm
  have whole := own.report_apply finding world
  split at whole
  · exact (record _ world calm).congr whole
  · split at whole
    · exact (deliver own _ world calm).congr whole
    · exact ((quiet (.failed own) nofun world calm).bind fun _ => deliver own _).congr whole

theorem change (store : StoreId) {new : Store} {leaving : List Stored} {world : World ω}
    (calm : world.Calm) (staying : ∀ field ∈ new, field.2.alarm? = none)
    (going : ∀ stored ∈ leaving, stored.alarm? = none) :
    SteadyAt world (store.change new leaving) := by
  have silent : Store.alarm? leaving = none := List.findSome?_eq_none_iff.mpr going
  have whole : store.change new leaving world = Run.happen (.stored store new) world := by
    unfold StoreId.change
    rw [silent]
    rfl
  refine ⟨⟨(), whole ▸ rfl⟩, ?_, whole ▸ .happen world _⟩
  rw [whole]
  constructor
  · exact calm.handlers
  · intro id field member
    rcases Stage.store_stored store id new with changed | kept
    · exact staying field (changed ▸ member)
    · exact calm.stores id field (kept ▸ member)

theorem harmless_get {contents : Store} (all : ∀ field ∈ contents, field.2.alarm? = none)
    (key : String) : ∀ stored ∈ (Fields.get? contents key).toList, stored.alarm? = none :=
  fun _ member => all _ (Fields.mem_of_get? (Option.mem_toList.mp member))

theorem use (store : StoreId) {use : Use α} (harmless : use.Harmless) :
    Steady (ω := ω) (use.perform store) := by
  intro world calm
  have held := calm.stores store
  cases use with
  | has key => exact map _ (map _ .world) world calm
  | keys => exact map _ (map _ .world) world calm
  | put key value =>
    have staying : ∀ field ∈ Fields.insert key value (world.store store),
        field.2.alarm? = none := by
      intro field member
      rcases Fields.mem_insert member with rfl | old
      · exact harmless
      · exact held field old
    exact (change store calm staying (harmless_get held key)).congr rfl
  | delete key =>
    have staying : ∀ field ∈ Fields.erase key (world.store store), field.2.alarm? = none := by
      intro field member
      have old := (List.mem_filter.mp member).1
      exact held field old
    exact ((change store calm staying (harmless_get held key)).bind fun _ => .pure _).congr rfl
  | clear =>
    have going : ∀ stored ∈ Fields.values (world.store store), stored.alarm? = none := by
      intro stored member
      obtain ⟨field, inside, rfl⟩ := List.mem_map.mp member
      exact held field inside
    exact (change store calm (by simp) going).congr rfl

theorem getD_push (handlers : Array Handler) (new : Handler) (index : Nat) :
    (handlers.push new).getD index .audit =
      if index = handlers.size then new else handlers.getD index .audit := by
  rw [Array.getD_eq_getD_getElem?, Array.getElem?_push]
  split
  · rfl
  · rw [Array.getD_eq_getD_getElem?]

theorem newHandler {handler : Handler} (adds : handler.Adds fun _ => True) :
    Steady (ω := ω) (Run.newHandler handler) := by
  intro world calm
  have grows : world.Grows (Run.newHandler handler world).2 :=
    ⟨⟨#[], Array.append_empty.symm⟩, ⟨#[], Array.append_empty.symm⟩⟩
  refine ⟨⟨_, rfl⟩, ?_, grows⟩
  constructor
  · intro id
    show ((world.handlers.push handler).getD id.index .audit).Adds _
    rw [getD_push]
    split
    · exact adds
    · exact calm.handlers id
  · exact calm.stores

theorem newChain (chain : Chain) : Steady (ω := ω) (Run.newChain chain) :=
  .bind .world fun _ => .bind (.quiet _ nofun) fun _ => .pure _

end Steady
end FluentAssert
