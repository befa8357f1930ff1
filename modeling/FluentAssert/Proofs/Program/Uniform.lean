import FluentAssert.Proofs.Program.History

/-! Uniform runs. Handlers that return cannot change the course of a run: how it ends, what it
changes and whom it calls with what are settled before anything is known of them, and the journal is
what they then make of the calls. -/
namespace FluentAssert

variable {ω κ α β : Type}

/-- What an event tells a handler: an outcome, and what is in its store at the time. -/
def Event.told? (stage : Stage) : Event → Option (Outcome × Store)
  | .called _ outcome => some (outcome, stage.store outcome.place.store)
  | _ => none

def Stage.told (stage : Stage) : List Event → List (Outcome × Store)
  | [] => []
  | event :: rest => (event.told? stage).toList ++ (stage.after event).told rest

theorem Stage.told_append (stage : Stage) (first rest : List Event) :
    stage.told (first ++ rest) = stage.told first ++ (stage.replay first).told rest := by
  induction first generalizing stage with
  | nil => rfl
  | cons event first ih =>
    simp only [List.cons_append, told, ih, Stage.replay_cons, List.append_assoc]

theorem Stage.told_push (stage : Stage) (history : Array Event) (event : Event) :
    stage.told (history.push event).toList =
      stage.told history.toList ++ (event.told? (stage.replay history.toList)).toList := by
  rw [Array.toList_push, told_append]
  simp only [told, List.append_nil]

structure Call (κ : Type) where
  name : κ
  outcome : Outcome
  store : Store

/-- What leaves a run: an entry of its own, or a call. -/
inductive Utterance (κ : Type) where
  | own (entry : Entry)
  | call (made : Call κ)

def Utterance.call? : Utterance κ → Option (Call κ)
  | .own _ => none
  | .call made => some made

def calls (transcript : List (Utterance κ)) : List (Call κ) :=
  transcript.filterMap Utterance.call?

theorem calls_append (transcript : List (Utterance κ)) (utterance : Utterance κ) :
    calls (transcript ++ [utterance]) = calls transcript ++ utterance.call?.toList := by
  rw [calls, List.filterMap_append]
  cases utterance <;> rfl

def Utterance.write (handlers : κ → Handler) (journal : Journal) : Utterance κ → Journal
  | .own entry => journal.push entry
  | .call made => ((handlers made.name).receive made.outcome made.store journal).journal

/-- A world but for its handlers and what they wrote: only the names of the handlers, and a
transcript of what left the run. -/
structure Course (ω κ : Type) extends Stage where
  names : Array κ
  transcript : List (Utterance κ)
  host : ω
  history : Array Event

namespace Course

def world (course : Course ω κ) (handlers : κ → Handler) : World ω where
  toStage := course.toStage
  handlers := course.names.map handlers
  journal := course.transcript.foldl (Utterance.write handlers) #[]
  host := course.host
  history := course.history

def start (host : ω) : Course ω κ := ⟨⟨#[], #[]⟩, #[], [], host, #[]⟩

def happen (event : Event) (course : Course ω κ) : Course ω κ :=
  { course with toStage := course.after event, history := course.history.push event }

def utter (utterance : Utterance κ) (course : Course ω κ) : Course ω κ :=
  { course with transcript := course.transcript ++ [utterance] }

def withRoot (name : κ) (chain : HandlerId → Chain) (course : Course ω κ) : Course ω κ :=
  happen (.began (chain ⟨course.names.size⟩)) { course with names := course.names.push name }

def tell (name : κ) (id : ChainId) (outcome : Outcome) (course : Course ω κ) : Course ω κ :=
  happen (.called id outcome)
    (course.utter (.call ⟨name, outcome, course.store outcome.place.store⟩))

/-- A course that a run can take. -/
structure Sound (course : Course ω κ) : Prop where
  assigned : course.Assigned course.names.size
  replayed : course.toStage = Stage.replay ⟨#[], #[]⟩ course.history.toList
  /-- The calls of the transcript are those of the history. -/
  told : (calls course.transcript).map (fun call => (call.outcome, call.store)) =
    Stage.told ⟨#[], #[]⟩ course.history.toList
  own : ∀ entry, .own entry ∈ course.transcript → entry.Own

variable {course : Course ω κ} {handlers : κ → Handler}

theorem world_start (host : ω) (handlers : κ → Handler) :
    (start host).world handlers = World.start host := by
  simp [world, start, World.start]

theorem world_utter (utterance : Utterance κ) : (course.utter utterance).world handlers =
    { course.world handlers with
      journal := utterance.write handlers (course.world handlers).journal } := by
  simp only [world, utter, List.foldl_append, List.foldl_cons, List.foldl_nil]

theorem world_tell (name : κ) (id : ChainId) (outcome : Outcome) :
    (course.tell name id outcome).world handlers =
      { course.world handlers with
        history := course.history.push (.called id outcome)
        journal := ((handlers name).receive outcome (course.store outcome.place.store)
          (course.world handlers).journal).journal } := by
  show ({ (course.utter _).world handlers with history := _ } : World ω) = _
  rw [world_utter]
  rfl

theorem handler_world {id : HandlerId} (small : id.index < course.names.size) :
    (course.world handlers).handler id = handlers course.names[id.index] := by
  simp [World.handler, world, Array.getD, small]

namespace Sound

theorem start (host : ω) : Sound (κ := κ) (Course.start host) where
  assigned id live := (Nat.not_lt_zero id.index (Stage.has_of_live live)).elim
  replayed := rfl
  told := rfl
  own _ member := by cases member

theorem replayed_happen (sound : course.Sound) (event : Event) :
    (course.happen event).toStage =
      Stage.replay ⟨#[], #[]⟩ (course.happen event).history.toList := by
  show course.after event = Stage.replay _ (course.history.push event).toList
  rw [Stage.replay_push, ← sound.replayed]

theorem happen (sound : course.Sound) {event : Event} (internal : event.Internal) :
    (course.happen event).Sound where
  assigned := sound.assigned.after internal
  replayed := sound.replayed_happen event
  told := by
    have silent (stage : Stage) : event.told? stage = none := by
      cases event with
      | began | called => exact internal.elim
      | spawned | entered | left | failed | opened | stored => rfl
    show _ = Stage.told _ (course.history.push event).toList
    rw [Stage.told_push, silent, ← sound.told]
    exact (List.append_nil _).symm
  own := sound.own

theorem utter (sound : course.Sound) {entry : Entry} (mine : entry.Own) :
    (course.utter (.own entry)).Sound where
  assigned := sound.assigned
  replayed := sound.replayed
  told := by
    show (calls (course.transcript ++ [.own entry])).map _ = _
    rw [calls_append, List.map_append, sound.told]
    exact List.append_nil _
  own other member := by
    rcases List.mem_append.mp member with before | now
    · exact sound.own other before
    · cases List.mem_singleton.mp now
      exact mine

theorem tell (sound : course.Sound) (name : κ) (id : ChainId) (outcome : Outcome) :
    (course.tell name id outcome).Sound where
  assigned := sound.assigned
  replayed := sound.replayed_happen (.called id outcome)
  told := by
    show (calls (course.transcript ++ [.call _])).map _ =
      Stage.told _ (course.history.push (.called id outcome)).toList
    rw [Stage.told_push, calls_append, List.map_append, sound.told, ← sound.replayed]
    rfl
  own entry member := by
    rcases List.mem_append.mp member with before | now
    · exact sound.own entry before
    · cases List.mem_singleton.mp now

theorem withRoot (sound : course.Sound) (name : κ) (chain : HandlerId → Chain)
    (assigned : ∀ id, (chain id).handler = id) : (course.withRoot name chain).Sound where
  assigned := by
    have larger : (course.withRoot name chain).names.size = course.names.size + 1 :=
      Array.size_push _
    rw [larger]
    exact sound.assigned.began (assigned _)
  replayed := sound.replayed_happen (.began (chain ⟨course.names.size⟩))
  told := by
    show _ = Stage.told _ (course.history.push (.began _)).toList
    rw [Stage.told_push, ← sound.told]
    exact (List.append_nil _).symm
  own := sound.own

end Sound
end Course

/-- From this course on, a run that is given for all handlers takes one course with all that
return. -/
def UniformAt (course : Course ω κ) (run : (κ → Handler) → Run ω α) : Prop :=
  ∃ (ending : Except String α) (last : Course ω κ), last.Sound ∧
    ∀ handlers, (∀ name, (handlers name).Returns) →
      run handlers (course.world handlers) = (ending, last.world handlers)

def Uniform (run : (κ → Handler) → Run ω α) : Prop :=
  ∀ course : Course ω κ, course.Sound → UniformAt course run

namespace Uniform

theorem look {run : (κ → Handler) → Run ω α} (read : Course ω κ → α)
    (h : ∀ course handlers,
      run handlers (course.world handlers) = (.ok (read course), course.world handlers)) :
    Uniform run :=
  fun course sound => ⟨.ok (read course), course, sound, fun handlers _ => h course handlers⟩

theorem pure (a : α) : Uniform fun _ : κ → Handler => (Pure.pure a : Run ω α) :=
  look (fun _ => a) fun _ _ => rfl

theorem bind {first : (κ → Handler) → Run ω α} {next : (κ → Handler) → α → Run ω β}
    (hf : Uniform first) (hn : ∀ a, Uniform fun handlers => next handlers a) :
    Uniform fun handlers => first handlers >>= next handlers := by
  intro course sound
  obtain ⟨ending, middle, sound', h⟩ := hf course sound
  cases ending with
  | error reason =>
    refine ⟨.error reason, middle, sound', fun handlers returns => ?_⟩
    show (first handlers >>= next handlers) _ = _
    rw [Run.bind_apply, h handlers returns]
  | ok a =>
    -- With all handlers the first run returns the same, so there is one run to go on with.
    obtain ⟨ending, last, sound'', h'⟩ := hn a middle sound'
    refine ⟨ending, last, sound'', fun handlers returns => ?_⟩
    show (first handlers >>= next handlers) _ = _
    rw [Run.bind_apply, h handlers returns]
    exact h' handlers returns

theorem unwind (reason : String) : Uniform fun _ : κ → Handler => (Run.unwind reason : Run ω α) :=
  fun course sound => ⟨.error reason, course, sound, fun _ _ => rfl⟩

theorem observe {run : (κ → Handler) → Run ω α} (h : Uniform run) :
    Uniform fun handlers => Run.observe (run handlers) := by
  intro course sound
  obtain ⟨ending, last, sound', h'⟩ := h course sound
  refine ⟨.ok ending, last, sound', fun handlers returns => ?_⟩
  show Run.observe (run handlers) _ = _
  rw [Run.observe_apply, h' handlers returns]

theorem host (change : ω → α × ω) : Uniform fun _ : κ → Handler => Run.onHost change :=
  fun course sound => ⟨.ok (change course.host).1, { course with host := (change course.host).2 },
    ⟨sound.assigned, sound.replayed, sound.told, sound.own⟩, fun _ _ => rfl⟩

theorem happen {event : Event} (internal : event.Internal) :
    Uniform (ω := ω) fun _ : κ → Handler => Run.happen event :=
  fun course sound => ⟨.ok (), course.happen event, sound.happen internal, fun _ _ => rfl⟩

theorem record (entry : Entry) (mine : entry.Own) :
    Uniform (ω := ω) fun _ : κ → Handler => Run.record entry :=
  fun course sound => ⟨.ok (), course.utter (.own entry), sound.utter mine, fun _ _ => by
    rw [Course.world_utter]
    rfl⟩

theorem state (id : ChainId) : Uniform (ω := ω) fun _ : κ → Handler => id.state :=
  look (fun course => course.chain id) fun _ _ => rfl

theorem contents (id : StoreId) : Uniform (ω := ω) fun _ : κ → Handler => id.contents :=
  look (fun course => course.store id) fun _ _ => rfl

theorem spawn (id : ChainId) : Uniform (ω := ω) fun _ : κ → Handler => id.spawn :=
  fun course sound => ⟨.ok course.fresh, course.happen (.spawned id), sound.happen trivial,
    fun _ _ => rfl⟩

theorem newStore : Uniform (ω := ω) fun _ : κ → Handler => Run.newStore :=
  fun course sound => ⟨.ok ⟨course.stores.size⟩, course.happen .opened, sound.happen trivial,
    fun _ _ => rfl⟩

theorem within (id : ChainId) (label : String) {body : (κ → Handler) → Run ω α}
    (h : Uniform body) : Uniform fun handlers => id.within label (body handlers) := by
  intro course sound
  have opened : (course.happen (.entered id label)).Sound := sound.happen trivial
  obtain ⟨ending, last, sound', h'⟩ := h _ opened
  refine ⟨ending, last.happen (.left id), sound'.happen trivial, fun handlers returns => ?_⟩
  have moved : (Run.happen (.entered id label) (course.world handlers)).2 =
      (course.happen (.entered id label)).world handlers := rfl
  show id.within label (body handlers) _ = _
  rw [ChainId.within_apply, moved, h' handlers returns]
  rfl

theorem deliver {course : Course ω κ} (sound : course.Sound) {id : ChainId}
    (assigned : (course.chain id).handler.index < course.names.size) (outcome : Outcome) :
    UniformAt course fun _ => id.deliver outcome := by
  let name := course.names[(course.chain id).handler.index]
  refine ⟨.ok (), course.tell name id outcome, sound.tell name id outcome, ?_⟩
  intro handlers returns
  have chosen : (course.world handlers).handler ((course.world handlers).chain id).handler =
      handlers name := Course.handler_world assigned
  show id.deliver outcome _ = _
  rw [ChainId.deliver_apply, chosen, Course.world_tell]
  unfold Run.callOut
  simp only [returns _ _ _ _]
  rfl

theorem report (id : ChainId) (finding : Finding) :
    Uniform (ω := ω) fun _ : κ → Handler => id.report finding := by
  intro course sound
  by_cases failed : (course.chain id).failed = true
  · obtain ⟨ending, last, sound', h⟩ :=
      record (ChainId.suppressed (course.chain id) finding) trivial course sound
    refine ⟨ending, last, sound', fun handlers returns => ?_⟩
    exact (id.report_apply finding _).trans ((if_pos failed).trans (h handlers returns))
  · have live : (course.chain id).failed = false := Bool.eq_false_iff.mpr failed
    have assigned := sound.assigned id live
    by_cases passed : finding.passed = true
    · obtain ⟨ending, last, sound', h⟩ :=
        deliver sound assigned ⟨(course.chain id).place, finding⟩
      refine ⟨ending, last, sound', fun handlers returns => ?_⟩
      refine (id.report_apply finding _).trans ((if_neg failed).trans ((if_pos passed).trans ?_))
      exact h handlers returns
    · -- The chain is marked first; its handler is still the one it had when it was live.
      have marked : (course.happen (.failed id)).Sound := sound.happen trivial
      have kept : ((course.after (.failed id)).chain id).handler = (course.chain id).handler :=
        Stage.handler_after (Stage.has_of_live live) _
      obtain ⟨ending, last, sound', h⟩ :=
        deliver marked (kept ▸ assigned) ⟨(course.chain id).place, finding⟩
      refine ⟨ending, last, sound', fun handlers returns => ?_⟩
      refine (id.report_apply finding _).trans ((if_neg failed).trans ((if_neg passed).trans ?_))
      exact h handlers returns

theorem composed :
    Composed (ω := ω) (fun _ => True) fun run => Uniform fun _ : κ → Handler => run where
  pure := .pure
  bind hf hn := .bind hf hn
  within id label _ _ h := .within id label h
  state := .state
  spawn id _ := .spawn id
  report id finding _ := .report id finding
  newStore := .newStore
  contents := .contents
  record := .record

theorem use (store : StoreId) (use : Use α) :
    Uniform (ω := ω) fun _ : κ → Handler => use.perform store := by
  apply composed.use
  intro new leaving
  have stored : Uniform (ω := ω) fun _ : κ → Handler => Run.happen (.stored store new) :=
    happen trivial
  apply bind stored
  intro _
  cases Store.alarm? leaving with
  | none => exact pure _
  | some reason => exact unwind reason

theorem of_parts {nested plain : Prop} {subject : Option ChainId} {run : Run ω α}
    (h : Parts nested plain subject run) : Uniform fun _ : κ → Handler => run := by
  cases h with
  | on h => exact composed.of_local trivial h
  | child h => exact bind (spawn _) fun child => composed.of_local trivial (h child)
  | free h => exact composed.of_local trivial (h ⟨0⟩)
  | state chain => exact state chain
  | through chain what => exact bind (state chain) fun _ => use _ what
  | use store what => exact use store what
  | enter chain label => exact happen (show (Event.entered chain label).Internal from trivial)
  | leave chain => exact happen (show (Event.left chain).Internal from trivial)

theorem newRoot (name : κ) (chain : HandlerId → Chain)
    (assigned : ∀ id, (chain id).handler = id) :
    Uniform (ω := ω) fun handlers : κ → Handler =>
      Run.newHandler (handlers name) >>= fun id => Run.newChain (chain id) := by
  intro course sound
  refine ⟨.ok course.fresh, course.withRoot name chain, sound.withRoot name chain assigned, ?_⟩
  intro handlers _
  show (_, (Run.happen (.began (chain ⟨(course.names.map handlers).size⟩)) _).2) = _
  rw [Array.size_map]
  show (_, (Run.happen _ { course.world handlers with
    handlers := (course.names.map handlers).push (handlers name) }).2) = _
  rw [← Array.map_push]
  rfl

end Uniform
end FluentAssert
