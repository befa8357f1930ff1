import FluentAssert.Proofs.Chain.Calls

/-! An environment is one map. Whoever has a handle reads and writes the same store, so what a
program learns of it, in whatever order its handles take turns, is what a single map answers. -/
namespace FluentAssert

variable {ω κ α β : Type}

namespace Read

def neutral : {α : Type} → Read α → α
  | _, .glob _ => []
  | _, .get _ _ => none
  | _, .text _ => ""
  | _, .integer _ => 0
  | _, .number _ => .zero false
  | _, .bool _ => false
  | _, .bytes _ => []
  | _, .duration _ => .zero

/-- What a map has for a read: an answer, or the failure that is reported instead. -/
def Finds (table : Table) : {α : Type} → Read α → Except Finding α → Prop
  | _, .glob pattern, result =>
    ∃ keys, table.Globs pattern keys ∧ result = keys.mapError (Handle.badPattern pattern)
  | _, .get type key, result =>
    result = (Handle.lookUp key type.label (Stored.ofType? type) (table key)).map some
  | _, .text key, result => result = Handle.lookUp key "string" Stored.text? (table key)
  | _, .integer key, result => result = Handle.lookUp key "integer" Stored.integer? (table key)
  | _, .number key, result => result = Handle.lookUp key "number" Stored.number? (table key)
  | _, .bool key, result => result = Handle.lookUp key "boolean" Stored.bool? (table key)
  | _, .bytes key, result => result = Handle.lookUp key "bytes" Stored.bytes? (table key)
  | _, .duration key, result => result = Handle.lookUp key "duration" Stored.duration? (table key)

end Read

namespace Inquiry

variable {own : ChainId} {world : World ω} {contents : Store} {table : Table}

def Gives (inquiry : Inquiry α) (contents : Store) : Except Finding α → Prop
  | .ok a => inquiry.findings contents = [] ∧ inquiry.answer contents = a
  | .error finding =>
    inquiry.findings contents = [finding] ∧ inquiry.answer contents = inquiry.neutral

theorem gives_ofResult {label : String} {neutral : α} {result : Store → Except Finding α}
    {failing : ∀ contents finding, result contents = .error finding → finding.passed = false}
    (contents : Store) : (ofResult label neutral result failing).Gives contents (result contents) := by
  cases found : result contents with
  | ok a => simp [Gives, ofResult, found]
  | error finding => simp [Gives, ofResult, found]

theorem gives_globbing (pattern : String) (contents : Store) :
    (globbing pattern).Gives contents
      ((contents.glob pattern).mapError (Handle.badPattern pattern)) :=
  gives_ofResult contents

theorem Gives.map {inquiry : Inquiry α} {result : Except Finding α}
    (gives : inquiry.Gives contents result) (f : α → β) :
    (inquiry.map f).Gives contents (result.map f) := by
  cases result with
  | ok a => exact ⟨gives.1, congrArg f gives.2⟩
  | error finding => exact ⟨gives.1, congrArg f gives.2⟩

theorem gives_lookUp (accessor key type : String) (convert : Stored → Option α)
    (contents : Store) :
    (reading accessor key type convert).Gives contents
      ((Handle.lookUp key type convert (Fields.get? contents key)).map some) :=
  gives_ofResult contents

/-- A conversion's answer is taken as it is; the default stands in for a failure. -/
theorem gives_reading (accessor key type : String) (convert : Stored → Option α) (neutral : α)
    (contents : Store) :
    ((reading accessor key type convert).map (·.getD neutral)).Gives contents
      (Handle.lookUp key type convert (Fields.get? contents key)) := by
  have whole := (gives_lookUp accessor key type convert contents).map (·.getD neutral)
  cases found : Handle.lookUp key type convert (Fields.get? contents key) with
  | ok a =>
    rw [found] at whole
    exact whole
  | error finding =>
    rw [found] at whole
    exact whole

/-- An answer in silence; or a failure that is heard once, and in its place the default, unless the
handler unwinds. -/
def Concludes (own : ChainId) (world : World ω) (neutral : α) (result : Except Finding α)
    (ended : Except String α × World ω) : Prop :=
  match result with
  | .ok a => ended.1 = .ok a ∧ Heard own world ended.2 []
  | .error finding => Heard own world ended.2 [finding] ∧
      (world.HandlerReturns own → ended.1 = .ok neutral) ∧ ∀ a, ended.1 = .ok a → a = neutral

/-- What is done inside the scope. -/
def look (inquiry : Inquiry α) (own : ChainId) : Run ω α := do
  if ← own.isFailed then return inquiry.neutral
  inquiry.settle own (← (← (⟨own⟩ : Handle).store).contents)

theorem look_failed (inquiry : Inquiry α) (failed : (world.chain own).failed = true) :
    inquiry.look own world = (.ok inquiry.neutral, world) := by
  show (if (world.chain own).failed then _ else _ : Run ω α) world = _
  rw [if_pos failed]
  rfl

theorem look_live (inquiry : Inquiry α) (live : (world.chain own).failed = false) :
    inquiry.look own world =
      inquiry.settle own (world.store (world.chain own).store) world := by
  show (if (world.chain own).failed then _ else _ : Run ω α) world = _
  rw [if_neg (by simp [live])]
  rfl

theorem perform_failed (inquiry : Inquiry α) (failed : (world.chain own).failed = true) :
    (inquiry.perform ⟨own⟩ world).1 = .ok inquiry.neutral ∧
      Heard own world (inquiry.perform ⟨own⟩ world).2 [] := by
  let opened : World ω := (Run.happen (.entered own inquiry.label) world).2
  have entered : (opened.chain own).failed = true := (Stage.failed_entered own own _).trans failed
  have still : inquiry.look own opened = (.ok inquiry.neutral, opened) := inquiry.look_failed entered
  have unheard : Heard own opened (inquiry.look own opened).2 [] := by
    rw [still]
    exact .refl _
  exact ⟨congrArg Prod.fst still, .within unheard⟩

theorem perform_live (inquiry : Inquiry α) (live : (world.chain own).failed = false)
    {result : Except Finding α}
    (gives : inquiry.Gives (world.store (world.chain own).store) result) :
    Concludes own world inquiry.neutral result (inquiry.perform ⟨own⟩ world) := by
  let opened : World ω := (Run.happen (.entered own inquiry.label) world).2
  have has : world.Has own := Stage.has_of_live live
  have entered : (opened.chain own).failed = false := (Stage.failed_entered own own _).trans live
  have same : (opened.chain own).store = (world.chain own).store :=
    congrArg (·.2.2) (Stage.origin_after has (.entered own inquiry.label))
  have looked := inquiry.look_live entered
  rw [same] at looked
  -- The scope is left whether or not the look returns, so its ending is that of the look.
  have first : (inquiry.perform ⟨own⟩ world).1 = (inquiry.look own opened).1 := rfl
  cases result with
  | ok a =>
    obtain ⟨quiet, answer⟩ := gives
    have still : inquiry.look own opened = (.ok a, opened) := by
      rw [looked]
      show inquiry.settle own (world.store _) opened = _
      rw [settle, quiet, answer]
      rfl
    refine ⟨congrArg Prod.fst still, .within ?_⟩
    show Heard own opened (inquiry.look own opened).2 []
    rw [still]
    exact .refl _
  | error finding =>
    obtain ⟨once, answer⟩ := gives
    have lost : inquiry.look own opened =
        (own.report finding >>= fun _ => pure inquiry.neutral) opened := by
      rw [looked]
      show inquiry.settle own (world.store _) opened = _
      rw [settle, once, answer]
      simp only [ChainId.reportAll, bind_assoc, pure_bind]
    have heard : Heard own opened (inquiry.look own opened).2 [finding] := by
      rw [lost]
      exact (Heard.report_live entered finding).bind_quiet fun _ => .refl _
    refine ⟨.within heard, fun handlerReturns => ?_, fun a returned => ?_⟩
    · have returns : Tells own opened (own.report finding) [finding] :=
        .report_live entered (handlerReturns.happen has _) finding
      obtain ⟨_, returned⟩ := returns.returns
      rw [first, lost, Run.bind_returned returned]
      rfl
    · rw [first, lost, Run.bind_apply] at returned
      generalize own.report finding opened = ended at returned
      obtain ⟨ending, last⟩ := ended
      cases ending with
      | error reason => cases returned
      | ok _ => exact (Except.ok.inj returned).symm

end Inquiry

theorem Read.neutral_eq (read : Read α) : read.inquiry.neutral = read.neutral := by
  cases read <;> rfl

theorem Read.finds (read : Read α) {contents : Store} {table : Table}
    (depicts : contents.Depicts table) :
    ∃ result, read.Finds table result ∧ read.inquiry.Gives contents result := by
  cases read with
  | glob pattern =>
    refine ⟨_, ⟨_, depicts.globs pattern, rfl⟩, ?_⟩
    exact Inquiry.gives_globbing pattern contents
  | get type key =>
    refine ⟨_, rfl, ?_⟩
    rw [← depicts.holds]
    exact Inquiry.gives_lookUp "get" key type.label _ contents
  | text | integer | number | bool | bytes | duration =>
    refine ⟨_, rfl, ?_⟩
    rw [← depicts.holds]
    exact Inquiry.gives_reading ..

/-- Whatever the world, the run changes nothing in this store. -/
def Run.Spares (id : StoreId) (run : Run ω α) : Prop :=
  ∀ world, (run world).2.store id = world.store id

namespace Run.Spares

variable {id : StoreId}

theorem composed : Composed (ω := ω) (fun _ => True) fun run => Spares id run := by
  refine @Composed.constant ω _ (fun world => world.store id) ?_ fun _ _ => rfl
  intro event world other
  cases event with
  | opened => exact Stage.store_opened id
  | stored written contents => exact absurd rfl (other written contents)
  | began | spawned | entered | left | failed | called => rfl

theorem bind {first : Run ω α} {next : α → Run ω β} (hf : Spares id first)
    (hn : ∀ a, Spares id (next a)) : Spares id (first >>= next) := composed.bind hf hn

theorem of_parts {nested plain : Prop} {own : ChainId} {run : Run ω α}
    (h : Parts nested plain (some own) run) : Spares id run := by
  cases h with
  | on h => exact composed.of_local trivial h
  | child h =>
    refine bind (composed.spawn _ trivial) fun child => ?_
    exact composed.of_local trivial (h child)
  | enter | leave => exact fun _ => rfl

theorem of_subject (action : Action ω α) {own : ChainId} (on : action.subject = some own) :
    Spares id action.run := by
  have parts := action.parts
  rw [on] at parts
  exact of_parts parts

theorem start (config : Config ω) : Spares id (Session.start? config) := by
  have root : Spares id config.root := by
    unfold Config.root
    cases config.handlerOf with
    | error e => exact fun _ => rfl
    | ok handler =>
      refine bind (composed.storeOf config) fun store => ?_
      exact fun _ => rfl
  refine bind root fun result => ?_
  cases result with
  | error e => exact fun _ => rfl
  | ok chain => exact fun _ => rfl

end Run.Spares

/-- What is done to one store: plain access, a look at all of it, or a read for a chain. -/
inductive Access : Type → Type 1 where
  | use {α : Type} (use : Use α) : Access α
  | look : Access Store
  | read {α : Type} (chain : ChainId) (read : Read α) : Access α

namespace Access

def write? : {α : Type} → Access α → Option Write
  | _, .use what => what.write?
  | _, .look | _, .read _ _ => none

/-- What a map answers. Plain access is the same whatever state a chain is in; a read answers with
the default on a failed chain, in silence, and looks into the map on a live one. -/
def Answers (table : Table) (world : World ω) :
    {α : Type} → Access α → Except String α × World ω → Prop
  | _, .use what, ended => what.Answers table ended.1 ∧ ended.2.calls = world.calls
  | _, .look, ended => ∃ contents, ended.1 = .ok contents ∧
      (∀ type key, contents.tryGet type key = (table key).bind (Stored.ofType? type)) ∧
      ∀ pattern, table.Globs pattern (contents.glob pattern)
  | _, .read chain what, ended =>
    if (world.chain chain).failed then ended.1 = .ok what.neutral ∧ ended.2.calls = world.calls
    else ∃ result, what.Finds table result ∧
      Inquiry.Concludes chain world what.neutral result ended

end Access

/-- The store that an action accesses, and how. A handle has the store of its chain. -/
def Action.access? (stage : Stage) : {α : Type} → Action ω α → Option (StoreId × Access α)
  | _, .use account what => some ((stage.chain account.chain).store, .use what)
  | _, .useStore store what => some (store, .use what)
  | _, .contents store => some (store, .look)
  | _, .read account what => some ((stage.chain account.chain).store, .read account.chain what)
  | _, _ => none

/-- An access with the world it is made in and what comes of it. -/
structure Exchange (ω : Type) where
  {α : Type}
  access : Access α
  world : World ω
  result : Except String α × World ω

namespace Exchange

/-- The exchanges are those of a single map, which begins with these writes. -/
def Replay : List Write → List (Exchange ω) → Prop
  | _, [] => True
  | writes, exchange :: rest =>
    exchange.access.Answers (latest writes) exchange.world exchange.result ∧
      Replay (writes ++ exchange.access.write?.toList) rest

def writes (exchanges : List (Exchange ω)) : List Write :=
  exchanges.flatMap fun exchange => exchange.access.write?.toList

theorem Replay.append {writes : List Write} {first rest : List (Exchange ω)}
    (hf : Replay writes first) (hr : Replay (writes ++ Exchange.writes first) rest) :
    Replay writes (first ++ rest) := by
  induction first generalizing writes with
  | nil =>
    rw [Exchange.writes, List.flatMap_nil, List.append_nil] at hr
    exact hr
  | cons exchange first ih =>
    refine ⟨hf.1, ih hf.2 ?_⟩
    rw [Exchange.writes, List.flatMap_cons, ← List.append_assoc] at hr
    exact hr

end Exchange

/-- The access that an action makes to this store, if it does, while there is such a store. -/
def Action.exchanges (id : StoreId) (action : Action ω α) (world : World ω) : List (Exchange ω) :=
  match action.access? world.toStage with
  | some (store, access) =>
    if store = id ∧ world.HasStore id then [⟨access, world, action.run world⟩] else []
  | none => []

/-- All accesses of a program to one store, in order, by whichever handle. -/
def Program.exchanges (configs : κ → Config ω) (id : StoreId) :
    {α : Type} → Program ω κ α → World ω → List (Exchange ω)
  | _, .andThen first next, world =>
    first.exchanges configs id world ++ match first.run configs world with
      | (.ok a, world) => (next a).exchanges configs id world
      | (.error _, _) => []
  | _, .act action, world => action.exchanges id world
  | _, .within chain label body, world =>
    body.exchanges configs id (Run.happen (.entered chain label) world).2
  | _, .observe body, world => body.exchanges configs id world
  | _, .done _, _ | _, .start _, _ | _, .host _, _ | _, .unwind _, _ => []

/-- The exchanges go on with the map, and leave it in the store. -/
structure Continues (id : StoreId) (writes : List Write) (exchanges : List (Exchange ω))
    (last : World ω) : Prop where
  replay : Exchange.Replay writes exchanges
  depicts : (last.store id).Depicts (latest (writes ++ Exchange.writes exchanges))

theorem Continues.still {id : StoreId} {writes : List Write} {world last : World ω}
    (same : last.store id = world.store id) (depicts : (world.store id).Depicts (latest writes)) :
    Continues id writes [] last := by
  refine ⟨trivial, ?_⟩
  rw [same, Exchange.writes, List.flatMap_nil, List.append_nil]
  exact depicts

theorem Exchange.writes_one (exchange : Exchange ω) :
    Exchange.writes [exchange] = exchange.access.write?.toList := List.flatMap_singleton ..

theorem Continues.use (what : Use α) (store id : StoreId) {writes : List Write} {world : World ω}
    (depicts : (world.store id).Depicts (latest writes)) :
    Continues id writes
      (if store = id ∧ world.HasStore id then [⟨.use what, world, what.perform store world⟩] else [])
      (what.perform store world).2 := by
  by_cases mine : store = id ∧ world.HasStore id
  · obtain ⟨rfl, has⟩ := mine
    rw [if_pos ⟨rfl, has⟩]
    have silent : Heard ⟨0⟩ world (what.perform store world).2 [] := .use ⟨0⟩ store what world
    refine ⟨⟨⟨what.answers store world depicts, silent.quiet⟩, trivial⟩, ?_⟩
    rw [Exchange.writes_one, Use.perform_world]
    show Store.Depicts _ (latest (writes ++ what.write?.toList))
    cases what.write? with
    | none =>
      rw [Option.toList_none, List.append_nil]
      exact depicts
    | some write =>
      have changed : (Run.happen (.stored store (write.apply (world.store store))) world).2.store
          store = write.apply (world.store store) := Stage.store_stored_self has
      rw [Option.toList_some]
      exact changed ▸ depicts.write write
  · rw [if_neg mine]
    refine .still ?_ depicts
    rw [Use.perform_world]
    cases what.write? with
    | none => rfl
    | some write =>
      by_cases same : id = store
      · subst same
        exact Stage.store_stored_missing fun has => mine ⟨rfl, has⟩
      · exact Stage.store_stored_other same

theorem Continues.look {access : Access α} (id store : StoreId) {writes : List Write}
    {world : World ω} {result : Except String α × World ω} (none : access.write? = none)
    (same : result.2.store id = world.store id)
    (answers : store = id → access.Answers (latest writes) world result)
    (depicts : (world.store id).Depicts (latest writes)) :
    Continues id writes
      (if store = id ∧ world.HasStore id then [⟨access, world, result⟩] else []) result.2 := by
  by_cases mine : store = id ∧ world.HasStore id
  · rw [if_pos mine]
    refine ⟨⟨answers mine.1, trivial⟩, ?_⟩
    rw [Exchange.writes_one, same]
    show Store.Depicts _ (latest (writes ++ access.write?.toList))
    rw [none, Option.toList_none, List.append_nil]
    exact depicts
  · rw [if_neg mine]
    exact .still same depicts

theorem Access.answers_read (account : Handle) (what : Read α) {table : Table} {world : World ω}
    (depicts : (world.store (world.chain account.chain).store).Depicts table) :
    (Access.read account.chain what).Answers table world (what.perform account world) := by
  rw [what.perform_inquiry, Access.Answers, ← what.neutral_eq]
  by_cases failed : (world.chain account.chain).failed = true
  · rw [if_pos failed]
    obtain ⟨returned, heard⟩ := what.inquiry.perform_failed failed
    exact ⟨returned, heard.quiet⟩
  · rw [if_neg failed]
    obtain ⟨result, finds, gives⟩ := what.finds depicts
    have live : (world.chain account.chain).failed = false := Bool.eq_false_iff.mpr failed
    exact ⟨result, finds, what.inquiry.perform_live live gives⟩

theorem Action.continues (action : Action ω α) (id : StoreId) {writes : List Write}
    {world : World ω} (depicts : (world.store id).Depicts (latest writes)) :
    Continues id writes (action.exchanges id world) (action.run world).2 := by
  cases action with
  | use account what =>
    have whole : what.through account world =
        what.perform (world.chain account.chain).store world := by
      cases what <;> rfl
    show Continues id writes (if _ then [⟨_, _, what.through account world⟩] else [])
      (what.through account world).2
    rw [whole]
    exact .use what _ id depicts
  | useStore store what => exact .use what store id depicts
  | contents store =>
    refine .look id store rfl rfl (fun mine => ?_) depicts
    subst mine
    exact ⟨world.store store, rfl, depicts.tryGet, depicts.globs⟩
  | read account what =>
    have same : (what.perform account world).2.store id = world.store id :=
      Run.Spares.composed.of_local trivial (.read account what) world
    refine .look id _ rfl same (fun mine => ?_) depicts
    exact Access.answers_read account what (mine ▸ depicts)
  | newStore => exact .still (Stage.store_opened id) depicts
  | state chain => exact .still rfl depicts
  | copy | handle | entry | response | send | check | step | iter | clone | spawn | report | enter |
      leave => exact .still (Run.Spares.of_subject _ rfl world) depicts

theorem Program.continues (configs : κ → Config ω) (id : StoreId) (program : Program ω κ α)
    {writes : List Write} {world : World ω}
    (depicts : (world.store id).Depicts (latest writes)) :
    Continues id writes (program.exchanges configs id world) (program.run configs world).2 := by
  induction program generalizing writes world with
  | done a => exact .still rfl depicts
  | andThen first next ihFirst ihNext =>
    -- What the first part wrote is there for the second, or stays where the first unwinds.
    have one := ihFirst depicts
    simp only [run, exchanges, Run.bind_apply]
    generalize first.run configs world = result at one
    obtain ⟨ending, middle⟩ := result
    cases ending with
    | error reason =>
      simp only [List.append_nil]
      exact one
    | ok a =>
      have two := ihNext a one.depicts
      refine ⟨one.replay.append two.replay, ?_⟩
      have later := two.depicts
      rw [List.append_assoc, Exchange.writes, Exchange.writes, ← List.flatMap_append] at later
      exact later
  | start name => exact .still (Run.Spares.start (configs name) world) depicts
  | act action => exact action.continues id depicts
  | host change => exact .still rfl depicts
  | within chain label body ih =>
    have inner := @ih writes (Run.happen (.entered chain label) world).2 depicts
    exact ⟨inner.replay, inner.depicts⟩
  | unwind reason => exact .still rfl depicts
  | observe body ih => exact ih depicts

/-- Whatever a program does with its handles on an environment, whichever session or node they are
of, it gets the answers of one map that is empty at first. -/
theorem Program.one_map (configs : κ → Config ω) (program : Program ω κ α) (host : ω)
    (id : StoreId) :
    Exchange.Replay [] (program.exchanges configs id (World.start host)) := by
  have empty : ((World.start host).store id).Depicts (latest []) := Store.Depicts.empty
  exact (program.continues configs id empty).replay

end FluentAssert
