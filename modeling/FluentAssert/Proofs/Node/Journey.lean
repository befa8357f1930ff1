import FluentAssert.Proofs.Chain.Calls
import FluentAssert.Proofs.Fields
import FluentAssert.Proofs.Node.Label
import FluentAssert.Proofs.Program.Scopes

/-! Journeys from node to node. The path of the node at the end is the path of the node at the start
and the labels of the calls in between, and labels tell calls apart, so the path tells the journey.
-/
namespace FluentAssert

variable {ω ω' κ ι α β : Type} {kind middle target target' : NodeKind}

/-- The chain is there, and this is its path. -/
structure Stage.At (stage : Stage) (id : ChainId) (path : List String) : Prop where
  has : stage.Has id
  path : (stage.chain id).path = path

/-- The chains that were there are at the same paths as before. -/
def Stage.Undisturbed (first last : Stage) : Prop := ∀ id path, first.At id path → last.At id path

/-- However the run ends, the chains that were there are back at their paths. -/
def Run.Level (run : Run ω α) : Prop :=
  ∀ world : World ω, Stage.Undisturbed world.toStage (run world).2.toStage

theorem Run.Level.of_closing {run : Run ω α} (h : Traces (fun _ events => Closing events) run) :
    run.Level := by
  intro world id path place
  obtain ⟨events, follows, closing⟩ := h world
  rw [follows.stage]
  exact ⟨Stage.has_replay place.has, (closing.path place.has).trans place.path⟩

theorem Run.Level.report (own : ChainId) (finding : Finding) :
    (own.report (ω := ω) finding).Level :=
  .of_closing (.report fun stage => Closing.additive.report stage own finding trivial)

theorem Program.level (configs : κ → Config ω) {program : Program ω κ α} (nested : program.Nested) :
    (program.run configs).Level :=
  .of_closing (program.closing configs nested)

/-- A chain has made a child, so much deeper than itself, and no path has changed. -/
structure Branched (own child : ChainId) (deeper : List String) (first last : Stage) : Prop where
  other : child ≠ own
  child : ∀ path, first.At own path → last.At child (path ++ deeper)
  kept : first.Undisturbed last

namespace Branched

variable {own child : ChainId} {first middle last : Stage} {deeper : List String}

theorem spawned (has : first.Has own) :
    Branched own first.fresh [] first (first.after (.spawned own)) where
  other same := Nat.lt_irrefl _ (same ▸ has : first.Has first.fresh)
  child path start := by
    have copy : (first.after (.spawned own)).chain first.fresh = first.chain own :=
      Stage.chain_pushChain_fresh
    exact ⟨Stage.has_pushChain, by rw [copy, start.path, List.append_nil]⟩
  kept id path place := by
    have same : (first.after (.spawned own)).chain id = first.chain id :=
      Stage.chain_pushChain place.has
    exact ⟨Stage.has_after _ place.has, by rw [same, place.path]⟩

theorem after (before : first.Undisturbed middle)
    (h : Branched own child deeper middle last) : Branched own child deeper first last where
  other := h.other
  child path start := h.child path (before own path start)
  kept id path place := h.kept id path (before id path place)

theorem before (h : Branched own child deeper first middle) (later : middle.Undisturbed last) :
    Branched own child deeper first last where
  other := h.other
  child path start := later child _ (h.child path start)
  kept id path place := later id path (h.kept id path place)

theorem closed {label : String} (has : first.Has own)
    (h : Branched own child [] (first.after (.entered own label)) middle) :
    Branched own child [label] first (middle.after (.left own)) := by
  have entered (path : List String) (start : first.At own path) :
      (first.after (.entered own label)).At own (path ++ [label]) := by
    refine ⟨Stage.has_after _ start.has, ?_⟩
    rw [Stage.after, Stage.chain_changeChain has, start.path]
  have left (id : ChainId) (path : List String) (differ : id ≠ own) (place : middle.At id path) :
      (middle.after (.left own)).At id path := by
    refine ⟨Stage.has_after _ place.has, ?_⟩
    rw [Stage.after, Stage.chain_changeChain_other differ, place.path]
  refine ⟨h.other, ?_, ?_⟩
  · intro path start
    have deep := h.child _ (entered path start)
    rw [List.append_nil] at deep
    exact left child _ h.other deep
  · intro id path place
    by_cases same : id = own
    · rw [same] at place ⊢
      have inside := h.kept own _ (entered path place)
      refine ⟨Stage.has_after _ inside.has, ?_⟩
      rw [Stage.after, Stage.chain_changeChain inside.has, inside.path, List.dropLast_concat]
    · have apart : (first.after (.entered own label)).chain id = first.chain id :=
        Stage.chain_changeChain_other same
      have inside : (first.after (.entered own label)).At id path :=
        ⟨Stage.has_after _ place.has, by rw [apart, place.path]⟩
      exact left id path same (h.kept id path inside)

end Branched

/-- What the code around does with items that it is handed. It leaves the scopes that it enters. -/
structure Callbacks (ω : Type) where
  item : Nat → ValueNode → Run ω Unit
  field : String → ValueNode → Run ω Unit
  item_level : ∀ index node, (item index node).Level
  field_level : ∀ key node, (field key node).Level

def Callbacks.programs (configs : κ → Config ω) (item : Nat → ValueNode → Program ω κ Unit)
    (field : String → ValueNode → Program ω κ Unit) (items : ∀ index node, (item index node).Nested)
    (fields : ∀ key node, (field key node).Nested) : Callbacks ω where
  item index node := (item index node).run configs
  field key node := (field key node).run configs
  item_level index node := Program.level configs (items index node)
  field_level key node := Program.level configs (fields key node)

namespace Run

/-- Takes this, unless something was taken before, and lets the visit go on beside. -/
def hand (take : Bool) (b : β) (visit : Run ω Unit) : Run (ω × Option β) Unit := do
  if take then modify fun world => { world with host := (world.host.1, world.host.2.or (some b)) }
  onPart Prod.fst (fun host part => (part, host.2)) visit

/-- What the run takes, if anything, however it ends. -/
def taken (run : Run (ω × Option β) Unit) : Run ω (Option β) :=
  onPart (fun host => (host, none)) (fun _ host => host.1) do
    let _ ← observe run
    return (← world).host.2

end Run

/-- What a call leads to, unless it unwinds. An item is handed to a callback or out in a list, if
there is such an item. -/
def ChildCall.perform (callbacks : Callbacks ω) : {kind target : NodeKind} → ChildCall kind target →
    Node (Held kind) → Run ω (Option (Node (Held target)))
  | _, _, .step what, node => do return some (← what.perform node)
  | _, _, .eachItem index, node => .taken <| ArrayNode.each node fun place item =>
    .hand (place == index) item (callbacks.item place item)
  | _, _, .iterItem index, node => do return (← ArrayNode.iter node)[index]?
  | _, _, .eachField key, node => .taken <| ObjectNode.each node fun name item =>
    .hand (name == key) item (callbacks.field name item)

def ChildCall.target? : {kind target : NodeKind} → ChildCall kind target → Held kind →
    Option (Held target)
  | _, target, .step what, held => some ((what.target? held).getD target.neutral)
  | _, _, .eachItem index, held => held[index]?
  | _, _, .iterItem index, held => held[index]?
  | _, _, .eachField key, held => Fields.get? held key

variable {own : ChainId} {label : String} {path : List String}

theorem Routed.branched {target : Option β} {neutral : β}
    {body : ∀ ω : Type, ChainId → Run ω (Node β)} (routed : Routed label target neutral body)
    {world last : World ω} {node : Node β} (has : world.Has own)
    (returned : body ω own world = (.ok node, last)) :
    node.value = target.getD neutral ∧
      Branched own node.chain [label] world.toStage last.toStage := by
  obtain ⟨lack, fails, same⟩ := routed
  let opened : World ω := (Run.happen (.entered own label) world).2
  have there : opened.Has own := Stage.has_after _ has
  rw [same, ChainId.within_apply] at returned
  cases target with
  | some held =>
    cases returned
    exact ⟨rfl, (Branched.spawned there).closed has⟩
  | none =>
    have level := Run.Level.report own lack opened
    have settles : Node.spawnFailed own lack neutral opened =
        (own.report lack >>= fun _ => Node.spawn own neutral) opened := rfl
    rw [ChainId.arrive, settles, Run.bind_apply] at returned
    cases result : own.report lack opened with
    | mk ending inner =>
      rw [result] at returned level
      cases ending with
      | error reason => cases returned
      | ok =>
        cases returned
        have inside : inner.Has own := (level own _ ⟨there, rfl⟩).has
        exact ⟨rfl, ((Branched.spawned inside).after level).closed has⟩

section Items

variable {label : ι → String} {value : ι → Canonical} {chosen : ι → Bool}

namespace Run

theorem Level.hand {visit : Run ω Unit} (level : visit.Level) (take : Bool) (b : β) :
    (hand take b visit).Level := by
  intro world id path place
  cases take with
  | true => exact level _ id path place
  | false => exact level _ id path place

theorem hand_host (take : Bool) (b : β) (visit : Run ω Unit) (world : World (ω × Option β)) :
    (hand take b visit world).2.host.2 =
      if take then world.host.2.or (some b) else world.host.2 := by
  cases take <;> rfl

end Run

/-- Visits an item in a scope of its own, and takes its node if it is the first chosen one. -/
def ChainId.offer (own : ChainId) (label : ι → String) (value : ι → Canonical) (chosen : ι → Bool)
    (visit : ι → ValueNode → Run ω Unit) (item : ι) : Run (ω × Option ValueNode) Unit :=
  own.within (label item) do
    let node ← Node.spawn own (value item)
    Run.hand (chosen item) node (visit item node)

theorem ChainId.offer_branched {visit : ι → ValueNode → Run ω Unit}
    (level : ∀ item node, (visit item node).Level) (label : ι → String) (value : ι → Canonical)
    (chosen : ι → Bool) {world : World (ω × Option ValueNode)} (has : world.Has own) (item : ι) :
    ∃ child, Branched own child [label item] world.toStage
        (own.offer label value chosen visit item world).2.toStage ∧
      (own.offer label value chosen visit item world).2.host.2 =
        if chosen item then world.host.2.or (some ⟨child, value item⟩) else world.host.2 := by
  let opened : World (ω × Option ValueNode) := (Run.happen (.entered own (label item)) world).2
  let inner : World (ω × Option ValueNode) := (Run.happen (.spawned own) opened).2
  let node : ValueNode := ⟨opened.fresh, value item⟩
  have there : opened.Has own := Stage.has_after _ has
  have visited := (level item node).hand (chosen item) node inner
  have whole : (own.offer label value chosen visit item world).2 =
      (Run.happen (.left own) (Run.hand (chosen item) node (visit item node) inner).2).2 := rfl
  rw [whole]
  exact ⟨opened.fresh, ((Branched.spawned there).before visited).closed has, Run.hand_host ..⟩

/-- What is taken now was taken before, or it is the node of the first chosen item. -/
structure Offered (own : ChainId) (path : List String) (label : ι → String) (value : ι → Canonical)
    (chosen : ι → Bool) (items : List ι) (first last : World (ω × Option ValueNode)) : Prop where
  kept : first.Undisturbed last.toStage
  taken : ∀ node, last.host.2 = some node → first.host.2 = some node ∨
    first.host.2 = none ∧ ∃ item, items.find? chosen = some item ∧ value item = node.value ∧
      last.At node.chain (path ++ [label item])

namespace Offered

variable {first middle last : World (ω × Option ValueNode)} {items : List ι}

theorem refl (items : List ι) (world : World (ω × Option ValueNode)) :
    Offered own path label value chosen items world world :=
  ⟨fun _ _ place => place, fun _ same => .inl same⟩

theorem cons {item : ι} {child : ChainId} (start : first.At own path)
    (branched : Branched own child [label item] first.toStage middle.toStage)
    (holds : middle.host.2 =
      if chosen item then first.host.2.or (some ⟨child, value item⟩) else first.host.2)
    (h : Offered own path label value chosen items middle last) :
    Offered own path label value chosen (item :: items) first last := by
  refine ⟨fun id path place => h.kept id path (branched.kept id path place), ?_⟩
  intro node same
  cases chooses : chosen item with
  | true =>
    simp only [chooses, ite_true] at holds
    have now : middle.host.2 = some node := by
      rcases h.taken node same with taken | ⟨none, -⟩
      · exact taken
      · rw [none] at holds
        simp at holds
    cases before : first.host.2 with
    | some other =>
      rw [before, now] at holds
      exact .inl holds.symm
    | none =>
      rw [before, now] at holds
      cases holds
      refine .inr ⟨rfl, item, List.find?_cons_of_pos chooses, rfl, ?_⟩
      exact h.kept _ _ (branched.child path start)
  | false =>
    simp only [chooses, Bool.false_eq_true, ite_false] at holds
    have skips : (item :: items).find? chosen = items.find? chosen :=
      List.find?_cons_of_neg (by simp [chooses])
    rw [skips, ← holds]
    exact h.taken node same

theorem visits {visit : ι → ValueNode → Run ω Unit} (level : ∀ item node, (visit item node).Level)
    (items : List ι) {world : World (ω × Option ValueNode)} (start : world.At own path) :
    Offered own path label value chosen items world
      (items.forM (own.offer label value chosen visit) world).2 := by
  induction items generalizing world with
  | nil => exact .refl [] world
  | cons item rest ih =>
    obtain ⟨child, branched, holds⟩ :=
      ChainId.offer_branched level label value chosen start.has item
    rw [List.forM_eq_forM, List.forM_cons, Run.bind_apply]
    cases result : own.offer label value chosen visit item world with
    | mk ending middle =>
      rw [result] at branched holds
      refine .cons start branched holds ?_
      cases ending with
      | error reason => exact .refl rest middle
      | ok => exact ih (branched.kept own path start)

end Offered

theorem Run.taken_visits (label : ι → String) (value : ι → Canonical) (chosen : ι → Bool)
    {visit : ι → ValueNode → Run ω Unit} (level : ∀ item node, (visit item node).Level)
    {world last : World ω} {items : List ι} {node : ValueNode} (start : world.At own path)
    (returned : Run.taken (items.forM (own.offer label value chosen visit)) world =
      (.ok (some node), last)) :
    ∃ item, items.find? chosen = some item ∧ value item = node.value ∧
      last.At node.chain (path ++ [label item]) := by
  let bare : World (ω × Option ValueNode) := { world with host := (world.host, none) }
  have offered : Offered own path label value chosen items bare _ := .visits level items start
  obtain ⟨same, rfl⟩ := Prod.mk.inj returned
  rcases offered.taken node (Except.ok.inj same) with nothing | ⟨-, item, found, held, place⟩
  · cases nothing
  · exact ⟨item, found, held, place.has, place.path⟩

theorem Run.mapM_visits (label : ι → String) (value : ι → Canonical) {items : List ι}
    {world last : World ω} {nodes : List ValueNode} (start : world.At own path)
    (returned : (items.mapM fun item => own.within (label item) (Node.spawn own (value item)))
      world = (.ok nodes, last)) :
    world.Undisturbed last.toStage ∧
      ∀ (index : Nat) (node : ValueNode), nodes[index]? = some node →
        ∃ item, items[index]? = some item ∧ value item = node.value ∧
          last.At node.chain (path ++ [label item]) := by
  obtain ⟨nodes', last', returns, unheard, -, -, each⟩ :=
    Offspring.of_mapM start.has label value items
  cases returns.symm.trans returned
  refine ⟨fun id path place => ?_, fun index node same => ?_⟩
  · obtain ⟨has, state⟩ := unheard.kept id place.has
    exact ⟨has, by rw [state, place.path]⟩
  · obtain ⟨item, there, held, made⟩ := each index node same
    exact ⟨item, there, held, made.there, by rw [made.state, Chain.inside, start.path]⟩

end Items

/-- A call leads to a child under its label, with the value that it looks for. -/
theorem ChildCall.arrives (callbacks : Callbacks ω) (call : ChildCall kind target)
    {node : Node (Held kind)} {next : Node (Held target)} {world last : World ω}
    (start : world.At node.chain path)
    (returned : call.perform callbacks node world = (.ok (some next), last)) :
    call.target? node.value = some next.value ∧ last.At next.chain (path ++ [call.label]) := by
  cases call with
  | step what =>
    simp only [perform, Run.bind_apply] at returned
    split at returned
    · rename_i child final arrived
      cases returned
      obtain ⟨held, branched⟩ := (what.routed node.value).branched start.has arrived
      exact ⟨congrArg some held.symm, branched.child path start⟩
    · cases returned
  | eachItem index =>
    obtain ⟨⟨held, place⟩, found, rfl, arrived⟩ := Run.taken_visits
      (fun item : Canonical × Nat => "each()[" ++ toString item.2 ++ "]") Prod.fst
      (fun item => item.2 == index) (fun item => callbacks.item_level item.2) start returned
    have here : place = index := by simpa using List.find?_some found
    have member := List.mem_of_find?_eq_some found
    cases here
    exact ⟨List.mem_zipIdx_iff_getElem?.mp member, arrived⟩
  | iterItem index =>
    simp only [perform, ArrayNode.iter, Run.bind_apply] at returned
    split at returned
    · rename_i nodes final visited
      obtain ⟨same, rfl⟩ := Prod.mk.inj returned
      obtain ⟨-, visits⟩ := Run.mapM_visits
        (fun item : Canonical × Nat => "iter()[" ++ toString item.2 ++ "]") Prod.fst start visited
      obtain ⟨⟨held, place⟩, found, rfl, arrived⟩ := visits index next (Except.ok.inj same)
      rw [List.getElem?_zipIdx, Option.map_eq_some_iff] at found
      obtain ⟨value, found, same⟩ := found
      simp only [Nat.zero_add] at same
      cases same
      exact ⟨found, arrived⟩
    · cases returned
  | eachField key =>
    obtain ⟨⟨name, held⟩, found, rfl, arrived⟩ := Run.taken_visits
      (fun field : String × Canonical => "each()[" ++ Text.quoted field.1 ++ "]") Prod.snd
      (fun field => field.1 == key) (fun field => callbacks.field_level field.1) start returned
    have here : name = key := by simpa using List.find?_some found
    cases here
    refine ⟨?_, arrived⟩
    simp only [target?, Fields.get?_eq_find?, found, Option.map_some]

/-- Calls in a row, each on the node that the one before leads to. -/
inductive Journey : NodeKind → NodeKind → Type where
  | stay {kind : NodeKind} : Journey kind kind
  | go {kind middle target : NodeKind} (call : ChildCall kind middle) (rest : Journey middle target) :
    Journey kind target

namespace Journey

def labels {kind target : NodeKind} : Journey kind target → List String
  | .stay => []
  | .go call rest => call.label :: rest.labels

def target? {kind target : NodeKind} : Journey kind target → Held kind → Option (Held target)
  | .stay, held => some held
  | .go call rest, held => call.target? held >>= rest.target?

theorem labels_inj {journey : Journey kind target} {journey' : Journey kind target'}
    (same : journey.labels = journey'.labels) :
    (⟨target, journey⟩ : Σ target, Journey kind target) = ⟨target', journey'⟩ := by
  induction journey with
  | stay =>
    cases journey' with
    | stay => rfl
    | go => cases same
  | go call rest ih =>
    cases journey' with
    | stay => cases same
    | go call' rest' =>
      obtain ⟨first, later⟩ := List.cons.inj same
      cases ChildCall.label_inj first
      cases ih later
      rfl

end Journey

/-- The journey leads from a node to another. Between its calls anything may happen, as long as the
next node is back in the scopes that it was made in. -/
inductive Navigates {ω : Type} : {kind target : NodeKind} → Journey kind target →
    Node (Held kind) → World ω → Node (Held target) → World ω → Prop where
  | stay {kind : NodeKind} (node : Node (Held kind)) (world : World ω) :
    Navigates .stay node world node world
  | go {kind middle target : NodeKind} {call : ChildCall kind middle} {rest : Journey middle target}
    {node : Node (Held kind)} {next : Node (Held middle)} {goal : Node (Held target)}
    {world last later final : World ω} (callbacks : Callbacks ω) :
    call.perform callbacks node world = (.ok (some next), last) →
    later.At next.chain (last.chain next.chain).path →
    Navigates rest next later goal final → Navigates (.go call rest) node world goal final

namespace Navigates

/-- The labels of a journey are added to the path, and the node at its end holds what the journey
finds in the node at its start. -/
theorem arrives {journey : Journey kind target} {node : Node (Held kind)}
    {goal : Node (Held target)} {world final : World ω}
    (navigates : Navigates journey node world goal final) (start : world.At node.chain path) :
    journey.target? node.value = some goal.value ∧
      final.At goal.chain (path ++ journey.labels) := by
  -- Along the journey it is known of the present node where its chain is, whatever the pauses did.
  induction navigates generalizing path with
  | stay node world => exact ⟨rfl, by rwa [Journey.labels, List.append_nil]⟩
  | @go _ _ _ call rest _ _ _ _ _ _ _ callbacks returned pause _ ih =>
    obtain ⟨found, arrived⟩ := call.arrives callbacks start returned
    rw [arrived.path] at pause
    obtain ⟨found', arrived'⟩ := ih pause
    constructor
    · rw [Journey.target?, found]
      exact found'
    · rw [List.append_assoc] at arrived'
      exact arrived'

/-- Two journeys from one node to nodes of the same path are the same calls with the same arguments,
and the nodes hold the same. -/
theorem told_by_path {journey : Journey kind target} {journey' : Journey kind target'}
    {node : Node (Held kind)} {goal : Node (Held target)} {goal' : Node (Held target')}
    {world final : World ω} {world' final' : World ω'}
    (start : world.At node.chain path) (start' : world'.At node.chain path)
    (navigates : Navigates journey node world goal final)
    (navigates' : Navigates journey' node world' goal' final')
    (same : (final.chain goal.chain).path = (final'.chain goal'.chain).path) :
    (⟨target, journey⟩ : Σ target, Journey kind target) = ⟨target', journey'⟩ ∧
      (⟨target, goal.value⟩ : Σ target, Held target) = ⟨target', goal'.value⟩ := by
  obtain ⟨found, arrived⟩ := navigates.arrives start
  obtain ⟨found', arrived'⟩ := navigates'.arrives start'
  rw [arrived.path, arrived'.path] at same
  cases Journey.labels_inj (List.append_cancel_left same)
  have held : goal.value = goal'.value := Option.some.inj (found.symm.trans found')
  exact ⟨rfl, by rw [held]⟩

end Navigates

/-- From an object under a key that needs escapes, through the array there, to its first element. -/
def Journey.intoQuoted : Journey .object .value :=
  .go (.eachField "a\"b\\).") (.go (.step ValueNode.Step.array) (.go (.iterItem 0) .stay))

def Callbacks.checking : Callbacks Unit :=
  .programs (fun _ : Unit => {}) (fun _ item => .act (@Action.check Unit .value item .isNull))
    (fun _ item => .act (@Action.check Unit .value item .isNull)) (fun _ _ => trivial)
    fun _ _ => trivial

theorem Navigates.told_by_path_quoted : ∃ goal final goal' final',
    Navigates .intoQuoted ⟨⟨0⟩, [("a\"b\\).", .array [.bool true])]⟩
      { World.start () with chains := #[⟨none, ["object()"], false, ⟨0⟩, ⟨0⟩⟩] } goal final ∧
    Navigates .intoQuoted ⟨⟨0⟩, [("a\"b\\).", .array [.bool true])]⟩
      { World.start () with chains := #[⟨none, ["object()"], true, ⟨0⟩, ⟨0⟩⟩] } goal' final' ∧
    (⟨.value, goal.value⟩ : Σ target, Held target) = ⟨.value, goal'.value⟩ := by
  let node : ObjectNode := ⟨⟨0⟩, [("a\"b\\).", .array [.bool true])]⟩
  let world (failed : Bool) : World Unit :=
    { World.start () with chains := #[⟨none, ["object()"], failed, ⟨0⟩, ⟨0⟩⟩] }
  have start (failed : Bool) : (world failed).At node.chain ["object()"] :=
    ⟨by simp [world, Stage.Has, node], rfl⟩
  have navigates (failed : Bool) : ∃ goal final,
      Navigates .intoQuoted node (world failed) goal final := by
    cases failed with
    | false | true =>
      exact ⟨_, _, .go .checking rfl ⟨by decide, rfl⟩ (.go .checking rfl ⟨by decide, rfl⟩
        (.go .checking rfl ⟨by decide, rfl⟩ (.stay _ _)))⟩
  obtain ⟨goal, final, there⟩ := navigates false
  obtain ⟨goal', final', there'⟩ := navigates true
  refine ⟨goal, final, goal', final', there, there', ?_⟩
  have place := (there.arrives (start false)).2.path
  have place' := (there'.arrives (start true)).2.path
  exact (told_by_path (start false) (start true) there there' (place.trans place'.symm)).2

end FluentAssert
