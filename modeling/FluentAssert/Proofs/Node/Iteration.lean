import FluentAssert.Proofs.Node.Fields
import FluentAssert.Proofs.Node.Journey

/-! Iteration. Elements are visited in order, each once, until a callback unwinds. Every item is new
and starts in the state that the receiver has at that moment. From then on a chain fails by its own
outcomes only, whatever the callbacks do. -/
namespace FluentAssert

variable {ω κ : Type}

/-- An element that is to be visited: the label of its scope, and what is called with its item. -/
structure Visit (ω κ : Type) where
  label : String
  element : Canonical
  call : ValueNode → Program ω κ Unit

def Visit.perform (configs : κ → Config ω) (own : ChainId) (visit : Visit ω κ) : Run ω Unit :=
  own.within visit.label do (visit.call (← Node.spawn own visit.element)).run configs

namespace ArrayNode

def visits (held : List Canonical) (call : Nat → ValueNode → Program ω κ Unit) :
    List (Visit ω κ) :=
  held.mapIdx fun index element => ⟨"each()[" ++ toString index ++ "]", element, call index⟩

theorem getElem?_visits (held : List Canonical) (call : Nat → ValueNode → Program ω κ Unit)
    (i : Nat) : (visits held call)[i]? =
      held[i]?.map fun element => ⟨"each()[" ++ toString i ++ "]", element, call i⟩ :=
  List.getElem?_mapIdx

theorem each_visits (configs : κ → Config ω) (own : ChainId) (held : List Canonical)
    (call : Nat → ValueNode → Program ω κ Unit) :
    each ⟨own, held⟩ (fun index item => (call index item).run configs) =
      (visits held call).forM (Visit.perform configs own) := by
  simp only [each, visits, List.forM_eq_forM, List.mapIdx_eq_zipIdx_map, List.forM_map,
    Visit.perform]

end ArrayNode

namespace ObjectNode

def visits (held : Fields Canonical) (call : String → ValueNode → Program ω κ Unit) :
    List (Visit ω κ) :=
  held.map fun (key, element) => ⟨"each()[" ++ Text.quoted key ++ "]", element, call key⟩

theorem each_visits (configs : κ → Config ω) (own : ChainId) (held : Fields Canonical)
    (call : String → ValueNode → Program ω κ Unit) :
    each ⟨own, held⟩ (fun key item => (call key item).run configs) =
      (visits held call).forM (Visit.perform configs own) := by
  simp only [each, visits, List.forM_eq_forM, List.forM_map, Visit.perform]

end ObjectNode

/-- A visit that was made: the worlds before it, where the callback begins and where it ends, how it
ends, and the item that it is called with. -/
structure Round (ω : Type) where
  before : World ω
  item : ValueNode
  begins : World ω
  ending : Except String Unit
  ends : World ω

namespace Round

def after (own : ChainId) (round : Round ω) : World ω := (Run.happen (.left own) round.ends).2

/-- The receiver fails while the callback runs. -/
def Fails (own : ChainId) (round : Round ω) : Prop :=
  (round.begins.chain own).failed = false ∧ (round.ends.chain own).failed = true

/-- The callback is called with a new item that holds the element. Receiver and item are then in the
state that the receiver had before, one label deeper. -/
structure Makes (configs : κ → Config ω) (own : ChainId) (visit : Visit ω κ) (round : Round ω) :
    Prop where
  begins : round.begins =
    (Run.happen (.spawned own) (Run.happen (.entered own visit.label) round.before).2).2
  called : (visit.call round.item).run configs round.begins = (round.ending, round.ends)
  value : round.item.value = visit.element
  new : ¬ round.before.Has round.item.chain
  there : round.begins.Has round.item.chain
  item : round.begins.chain round.item.chain = (round.before.chain own).inside visit.label
  receiver : round.begins.chain own = (round.before.chain own).inside visit.label

end Round

variable {configs : κ → Config ω} {own : ChainId} {world : World ω} {visit : Visit ω κ}

theorem Visit.made (configs : κ → Config ω) (has : world.Has own) (visit : Visit ω κ) :
    ∃ round : Round ω, round.before = world ∧ round.Makes configs own visit ∧
      visit.perform configs own world = (round.ending, round.after own) := by
  let opened : World ω := (Run.happen (.entered own visit.label) world).2
  let begins : World ω := (Run.happen (.spawned own) opened).2
  let item : ValueNode := ⟨opened.fresh, visit.element⟩
  let result := (visit.call item).run configs begins
  have there : opened.Has own := Stage.has_after _ has
  have inside : opened.chain own = (world.chain own).inside visit.label :=
    Stage.chain_changeChain has
  refine ⟨⟨world, item, begins, result.1, result.2⟩, rfl, ⟨rfl, rfl, rfl, ?_, ?_, ?_, ?_⟩, rfl⟩
  · exact fun known => Nat.lt_irrefl _ (Stage.has_after (.entered own visit.label) known)
  · exact Stage.has_pushChain
  · exact Stage.chain_pushChain_fresh.trans inside
  · exact (Stage.chain_pushChain there).trans inside

namespace Round.Makes

variable {round : Round ω} (makes : round.Makes configs own visit)

include makes

theorem opens : Follows round.before [.entered own visit.label, .spawned own] round.begins := by
  have opened : Follows round.before [.entered own visit.label] _ := .happen _ trivial
  rw [makes.begins]
  exact opened.trans (.happen _ trivial)

theorem runs : ∃ events, Follows round.begins events round.ends := by
  obtain ⟨events, follows, -⟩ := (visit.call round.item).orderly configs round.begins
  rw [makes.called] at follows
  exact ⟨events, follows⟩

theorem closes : ∃ events, Follows round.begins events (round.after own) := by
  obtain ⟨events, follows⟩ := makes.runs
  exact ⟨_, follows.trans (.happen round.ends trivial : Follows _ [.left own] _)⟩

theorem starts : (round.begins.chain own).failed = (round.before.chain own).failed := by
  rw [makes.receiver, Chain.inside]

theorem failed_after (has : round.before.Has own) :
    ((round.after own).chain own).failed = true ↔
      (round.before.chain own).failed = true ∨ round.Fails own := by
  obtain ⟨events, follows⟩ := makes.runs
  have close : ((round.after own).chain own).failed = (round.ends.chain own).failed :=
    Stage.failed_left own own
  rw [close, Fails, makes.starts]
  cases before : (round.before.chain own).failed with
  | false => simp
  | true =>
    have still := (follows.failed_iff (makes.opens.has has)).mpr (.inl (makes.starts.trans before))
    simp [still]

theorem level (nested : (visit.call round.item).Nested) {path : List String}
    (start : round.before.At own path) : (round.after own).At own path := by
  have inside : round.begins.At own (path ++ [visit.label]) :=
    ⟨makes.opens.has start.has, by rw [makes.receiver, Chain.inside, start.path]⟩
  have ended := Program.level configs nested round.begins own _ inside
  rw [makes.called] at ended
  refine ⟨Stage.has_after (.left own) ended.has, ?_⟩
  have closed : (round.after own).chain own = _ := Stage.chain_changeChain ended.has
  rw [closed, ended.path, List.dropLast_concat]

end Round.Makes

/-- The rounds of a loop over visits, and what it comes to. -/
inductive Rounds (configs : κ → Config ω) (own : ChainId) :
    List (Visit ω κ) → World ω → List (Round ω) → Except String Unit × World ω → Prop where
  | done (world : World ω) : Rounds configs own [] world [] (.ok (), world)
  | unwound {visit : Visit ω κ} {rest : List (Visit ω κ)} {round : Round ω} {reason : String} :
    round.Makes configs own visit → round.ending = .error reason →
      Rounds configs own (visit :: rest) round.before [round] (.error reason, round.after own)
  | next {visit : Visit ω κ} {rest : List (Visit ω κ)} {round : Round ω} {rounds : List (Round ω)}
    {result : Except String Unit × World ω} :
    round.Makes configs own visit → round.ending = .ok () →
      Rounds configs own rest (round.after own) rounds result →
      Rounds configs own (visit :: rest) round.before (round :: rounds) result

theorem Rounds.of_forM (configs : κ → Config ω) (has : world.Has own)
    (visits : List (Visit ω κ)) : ∃ rounds,
      Rounds configs own visits world rounds (visits.forM (Visit.perform configs own) world) := by
  induction visits generalizing world with
  | nil => exact ⟨[], .done world⟩
  | cons visit rest ih =>
    obtain ⟨round, rfl, makes, performed⟩ := visit.made configs has
    rw [List.forM_eq_forM, List.forM_cons, Run.bind_apply, performed]
    cases ending : round.ending with
    | error reason => exact ⟨[round], .unwound makes ending⟩
    | ok =>
      obtain ⟨events, follows⟩ := makes.closes
      obtain ⟨rounds, later⟩ := ih (follows.has (makes.opens.has has))
      exact ⟨round :: rounds, .next makes ending later⟩

namespace Rounds

variable {visits : List (Visit ω κ)} {rounds : List (Round ω)}
  {result : Except String Unit × World ω} {i j : Nat} {round later : Round ω}

theorem visited (h : Rounds configs own visits world rounds result)
    (at' : rounds[i]? = some round) :
    ∃ visit, visits[i]? = some visit ∧ round.Makes configs own visit := by
  induction h generalizing i with
  | done => cases at'
  | unwound makes =>
    cases i with
    | zero =>
      cases at'
      exact ⟨_, rfl, makes⟩
    | succ => cases at'
  | next makes _ _ ih =>
    cases i with
    | zero =>
      cases at'
      exact ⟨_, rfl, makes⟩
    | succ i => exact ih at'

theorem first (h : Rounds configs own visits world rounds result)
    (at' : rounds[0]? = some round) : round.before = world := by
  cases h with
  | done => cases at'
  | unwound | next =>
    cases at'
    rfl

theorem linked (h : Rounds configs own visits world rounds result)
    (at' : rounds[i]? = some round) (next : rounds[i + 1]? = some later) :
    round.ending = .ok () ∧ later.before = round.after own := by
  induction h generalizing i with
  | done => cases at'
  | unwound => cases next
  | next _ returned rest ih =>
    cases i with
    | zero =>
      cases at'
      exact ⟨returned, rest.first next⟩
    | succ i => exact ih at' next

theorem last (h : Rounds configs own visits world rounds result) :
    result = rounds.getLast?.elim (.ok (), world) fun round => (round.ending, round.after own) := by
  induction h with
  | done => rfl
  | unwound _ unwound => rw [List.getLast?_singleton, Option.elim_some, unwound]
  | @next _ _ round rounds _ _ returned _ ih =>
    rw [ih, List.getLast?_cons, Option.elim_some]
    cases rounds.getLast? with
    | none => rw [Option.getD_none, Option.elim_none, returned]
    | some => rfl

theorem all (h : Rounds configs own visits world rounds result) (returned : result.1 = .ok ()) :
    rounds.length = visits.length := by
  induction h with
  | done => rfl
  | unwound => cases returned
  | next _ _ _ ih => exact congrArg (· + 1) (ih returned)

theorem follows (h : Rounds configs own visits world rounds result) (member : round ∈ rounds) :
    ∃ events, Follows world events round.before := by
  induction h with
  | done => cases member
  | unwound =>
    cases List.mem_singleton.mp member
    exact ⟨[], .refl _⟩
  | next makes _ _ ih =>
    rcases List.mem_cons.mp member with rfl | member
    · exact ⟨[], .refl _⟩
    · obtain ⟨events, closes⟩ := makes.closes
      obtain ⟨events', follows⟩ := ih member
      exact ⟨_, (makes.opens.trans closes).trans follows⟩

theorem leads (h : Rounds configs own visits world rounds result) (order : i ≤ j)
    (at' : rounds[i]? = some round) (at'' : rounds[j]? = some later) :
    ∃ events, Follows round.begins events later.ends := by
  induction h generalizing i j with
  | done => cases at'
  | unwound makes =>
    cases i with
    | zero =>
      cases j with
      | zero =>
        cases at'
        cases at''
        exact makes.runs
      | succ => cases at''
    | succ => cases at'
  | next makes _ rest ih =>
    cases i with
    | zero =>
      cases at'
      cases j with
      | zero =>
        cases at''
        exact makes.runs
      | succ j =>
        -- From the first round through those between to the later one.
        obtain ⟨_, closes⟩ := makes.closes
        obtain ⟨_, between⟩ := rest.follows (List.mem_of_getElem? at'')
        obtain ⟨_, -, makes'⟩ := rest.visited at''
        obtain ⟨_, runs⟩ := makes'.runs
        exact ⟨_, ((closes.trans between).trans makes'.opens).trans runs⟩
    | succ i =>
      cases j with
      | zero => cases order
      | succ j => exact ih (Nat.le_of_succ_le_succ order) at' at''

theorem not_mem (h : Rounds configs own visits world rounds result) {id : ChainId}
    (has : world.Has id) : id ∉ rounds.map (·.item.chain) := by
  intro inside
  obtain ⟨round, member, rfl⟩ := List.mem_map.mp inside
  obtain ⟨i, at'⟩ := List.mem_iff_getElem?.mp member
  obtain ⟨_, -, makes⟩ := h.visited at'
  obtain ⟨_, follows⟩ := h.follows member
  exact makes.new (follows.has has)

theorem nodup (h : Rounds configs own visits world rounds result) :
    (rounds.map (·.item.chain)).Nodup := by
  induction h with
  | done => exact .nil
  | unwound => exact List.nodup_singleton _
  | @next _ _ round rounds _ makes _ rest ih =>
    refine List.nodup_cons.mpr ⟨fun member => ?_, ih⟩
    obtain ⟨_, closes⟩ := makes.closes
    exact rest.not_mem (closes.has makes.there) member

theorem distinct (h : Rounds configs own visits world rounds result) (has : world.Has own) :
    (own :: rounds.map (·.item.chain)).Nodup :=
  List.nodup_cons.mpr ⟨h.not_mem has, h.nodup⟩

theorem failed_iff (h : Rounds configs own visits world rounds result) (has : world.Has own)
    (at' : rounds[i]? = some round) :
    (round.before.chain own).failed = true ↔ (world.chain own).failed = true ∨
      ∃ j < i, ∃ earlier, rounds[j]? = some earlier ∧ earlier.Fails own := by
  induction h generalizing i with
  | done => cases at'
  | unwound =>
    cases i with
    | zero =>
      cases at'
      simp
    | succ => cases at'
  | next makes _ rest ih =>
    cases i with
    | zero =>
      cases at'
      simp
    | succ i =>
      obtain ⟨_, closes⟩ := makes.closes
      rw [ih (closes.has (makes.opens.has has)) at', makes.failed_after has,
        Nat.exists_lt_succ_left]
      simp [or_assoc]

theorem starts (h : Rounds configs own visits world rounds result) (has : world.Has own)
    (at' : rounds[i]? = some round) :
    (round.begins.chain round.item.chain).failed = true ↔ (world.chain own).failed = true ∨
      ∃ j < i, ∃ earlier, rounds[j]? = some earlier ∧ earlier.Fails own := by
  obtain ⟨_, -, makes⟩ := h.visited at'
  rw [makes.item, ← h.failed_iff has at', Chain.inside]

/-- What the receiver fails in is its first failure, so of all items those of later rounds start
failed. -/
theorem spreads (h : Rounds configs own visits world rounds result) (has : world.Has own)
    (there : rounds[j]? = some later) (fails : later.Fails own) (at' : rounds[i]? = some round) :
    (round.begins.chain round.item.chain).failed = true ↔ j < i := by
  obtain ⟨_, -, makes⟩ := h.visited there
  -- Still live in this round, the receiver had not failed before and not in an earlier round.
  have live : ¬ (later.before.chain own).failed = true := by
    rw [← makes.starts, fails.1]
    exact Bool.false_ne_true
  rw [h.failed_iff has there, not_or] at live
  rw [h.starts has at']
  constructor
  · rintro (before | ⟨k, early, earlier, at'', fails'⟩)
    · exact absurd before live.1
    · by_contra late
      exact live.2 ⟨k, by omega, earlier, at'', fails'⟩
  · exact fun before => .inr ⟨j, before, later, there, fails⟩

theorem level (h : Rounds configs own visits world rounds result) {path : List String}
    (nested : ∀ visit ∈ visits, ∀ item, (visit.call item).Nested) (start : world.At own path)
    (member : round ∈ rounds) : round.before.At own path := by
  induction h with
  | done => cases member
  | unwound =>
    cases List.mem_singleton.mp member
    exact start
  | next makes _ _ ih =>
    rcases List.mem_cons.mp member with rfl | member
    · exact start
    · refine ih (fun visit inside => nested visit (List.mem_cons_of_mem _ inside)) ?_ member
      exact makes.level (nested _ List.mem_cons_self _) start

end Rounds

/-- What an iteration does to a world, told by its rounds. -/
structure Iterates (configs : κ → Config ω) (own : ChainId) (visits : List (Visit ω κ))
    (world : World ω) (run : Run ω Unit) (rounds : List (Round ω)) : Prop where
  /-- Each round makes the visit of its place. -/
  visited : ∀ (i : Nat) (round : Round ω), rounds[i]? = some round →
    ∃ visit, visits[i]? = some visit ∧ round.Makes configs own visit
  first : ∀ round, rounds[0]? = some round → round.before = world
  /-- A round begins where the one before has returned. -/
  linked : ∀ (i : Nat) (round later : Round ω), rounds[i]? = some round →
    rounds[i + 1]? = some later → round.ending = .ok () ∧ later.before = round.after own
  /-- The iteration ends as its last round does. -/
  last : run world =
    rounds.getLast?.elim (.ok (), world) fun round => (round.ending, round.after own)
  /-- No visit is left out unless a callback unwinds. -/
  all : (run world).1 = .ok () → rounds.length = visits.length
  distinct : (own :: rounds.map (·.item.chain)).Nodup
  /-- A chain fails by the failures that it delivers itself, so items do not affect one another. -/
  independent : ∀ (i j : Nat) (round later : Round ω), i ≤ j → rounds[i]? = some round →
    rounds[j]? = some later → ∃ events, Follows round.begins events later.ends ∧
      ∀ id, round.begins.Has id → ((later.ends.chain id).failed = true ↔
        (round.begins.chain id).failed = true ∨
          ∃ outcome ∈ outcomes id events, outcome.finding.passed = false)
  /-- An item starts failed if the receiver had failed before, or fails in an earlier round. -/
  starts : ∀ (i : Nat) (round : Round ω), rounds[i]? = some round →
    ((round.begins.chain round.item.chain).failed = true ↔ (world.chain own).failed = true ∨
      ∃ j < i, ∃ earlier, rounds[j]? = some earlier ∧ earlier.Fails own)
  /-- If the receiver fails in a round, the items of later rounds start failed, and no others. -/
  spreads : ∀ (k : Nat) (failing : Round ω), rounds[k]? = some failing → failing.Fails own →
    ∀ (i : Nat) (round : Round ω), rounds[i]? = some round →
      ((round.begins.chain round.item.chain).failed = true ↔ k < i)
  /-- Callbacks that leave the scopes they enter leave the receiver at its path. -/
  level : (∀ visit ∈ visits, ∀ item, (visit.call item).Nested) → ∀ round ∈ rounds,
    (round.before.chain own).path = (world.chain own).path

theorem Rounds.iterates {visits : List (Visit ω κ)} {rounds : List (Round ω)} {run : Run ω Unit}
    (h : Rounds configs own visits world rounds (run world)) (has : world.Has own) :
    Iterates configs own visits world run rounds where
  visited _ _ := h.visited
  first _ := h.first
  linked _ _ _ := h.linked
  last := h.last
  all := h.all
  distinct := h.distinct has
  independent i j round later order at' at'' := by
    obtain ⟨events, follows⟩ := h.leads order at' at''
    exact ⟨events, follows, fun id known => follows.failed_iff known⟩
  starts _ _ := h.starts has
  spreads _ _ there fails _ _ := h.spreads has there fails
  level nested _ member := (h.level nested ⟨has, rfl⟩ member).path

/-- The chain with another label for its innermost scope. -/
def Chain.relabelled (chain : Chain) (label : String) : Chain :=
  { chain with path := chain.path.dropLast ++ [label] }

theorem Chain.relabelled_inside (chain : Chain) (label other : String) :
    (chain.inside label).relabelled other = chain.inside other := by
  simp only [relabelled, inside, List.dropLast_concat]

/-- What an array is iterated over by: a node for each element, in order. -/
structure Lists (own : ChainId) (held : List Canonical) (world last : World ω)
    (nodes : List ValueNode) : Prop extends Unheard world last where
  returns : ArrayNode.iter ⟨own, held⟩ world = (.ok nodes, last)
  values : nodes.map (·.value) = held
  distinct : (nodes.map (·.chain)).Nodup
  made : ∀ (i : Nat) (node : ValueNode), nodes[i]? = some node →
    Offspring own ("iter()[" ++ toString i ++ "]") node.chain world last
  element : ∀ (i : Nat) (node : ValueNode) (there : World ω), nodes[i]? = some node →
    there.Has own → there.chain own = world.chain own → ∃ other later,
      ArrayNode.element ⟨own, held⟩ i there = (.ok other, later) ∧ other.value = node.value ∧
        later.chain other.chain =
          (last.chain node.chain).relabelled ("element(" ++ toString i ++ ")")

theorem ArrayNode.element_made (has : world.Has own) {held : List Canonical} {i : Nat}
    {value : Canonical} (inside : held[i]? = some value) : ∃ other later,
      element ⟨own, held⟩ i world = (.ok other, later) ∧ other.value = value ∧
        Offspring own ("element(" ++ toString i ++ ")") other.chain world later := by
  have whole : element (ω := ω) ⟨own, held⟩ i =
      own.within ("element(" ++ toString i ++ ")") (Node.spawn own value) := by
    simp only [element, inside, Node.step]
  rw [whole]
  exact Offspring.of_spawn has _ value

theorem ArrayNode.iter_lists (has : world.Has own) (held : List Canonical) :
    ∃ nodes last, Lists own held world last nodes := by
  obtain ⟨nodes, last, returns, unheard, values, distinct, each⟩ := Offspring.of_mapM has
    (fun item : Canonical × Nat => "iter()[" ++ toString item.2 ++ "]") Prod.fst held.zipIdx
  rw [List.zipIdx_map_fst] at values
  have made (i : Nat) (node : ValueNode) (at' : nodes[i]? = some node) :
      Offspring own ("iter()[" ++ toString i ++ "]") node.chain world last := by
    obtain ⟨⟨value, place⟩, item, -, made⟩ := each i node at'
    rw [List.getElem?_zipIdx, Option.map_eq_some_iff] at item
    obtain ⟨_, -, same⟩ := item
    simp only [Prod.mk.injEq, Nat.zero_add] at same
    exact same.2 ▸ made
  refine ⟨nodes, last, unheard, returns, values, distinct, made, ?_⟩
  intro i node there at' has' same
  have inside : held[i]? = some node.value := by
    rw [← values, List.getElem?_map, at', Option.map_some]
  obtain ⟨other, later, arrived, value, made'⟩ := element_made has' inside
  refine ⟨other, later, arrived, value, ?_⟩
  rw [made'.state, (made i node at').state, Chain.relabelled_inside, same]

/-- Arrays and objects call back for every element, in order of places and keys, each once until a
callback unwinds, and no item has a part in another. An array lists a node for each element, just
as it has one at each place. -/
theorem elements_visited (configs : κ → Config ω) (has : world.Has own) :
    (∀ (held : List Canonical) (call : Nat → ValueNode → Program ω κ Unit), ∃ rounds,
      Iterates configs own (ArrayNode.visits held call) world
        (ArrayNode.each ⟨own, held⟩ fun index item => (call index item).run configs) rounds) ∧
    (∀ (held : Fields Canonical) (call : String → ValueNode → Program ω κ Unit),
      (Origin held → (Fields.keys held).Pairwise (· < ·)) ∧ ∃ rounds,
        Iterates configs own (ObjectNode.visits held call) world
          (ObjectNode.each ⟨own, held⟩ fun key item => (call key item).run configs) rounds) ∧
    ∀ held : List Canonical, ∃ nodes last, Lists own held world last nodes := by
  refine ⟨fun held call => ?_, fun held call => ⟨Origin.ordered, ?_⟩, ArrayNode.iter_lists has⟩
  · rw [ArrayNode.each_visits]
    obtain ⟨rounds, h⟩ := Rounds.of_forM configs has (ArrayNode.visits held call)
    exact ⟨rounds, h.iterates has⟩
  · rw [ObjectNode.each_visits]
    obtain ⟨rounds, h⟩ := Rounds.of_forM configs has (ObjectNode.visits held call)
    exact ⟨rounds, h.iterates has⟩

/-- The receiver fails in the first call, so the second item starts failed and the first not. -/
theorem elements_visited_failing :
    let receiver : ArrayNode := ⟨⟨0⟩, [.null, .bool true]⟩
    let world : World Unit :=
      { World.start () with chains := #[⟨none, ["array()"], false, ⟨0⟩, ⟨0⟩⟩] }
    let call (_ : Nat) (_ : ValueNode) : Program Unit Unit Unit :=
      .act (@Action.check Unit .array receiver .isEmpty)
    ∃ first second : Round Unit,
      Iterates (fun _ => {}) ⟨0⟩ (ArrayNode.visits receiver.value call) world
        (receiver.each fun index item => (call index item).run fun _ => {}) [first, second] ∧
      first.Fails ⟨0⟩ ∧
      (first.begins.chain first.item.chain).failed = false ∧
      (second.begins.chain second.item.chain).failed = true ∧
      (second.begins.chain second.item.chain).path = ["array()", "each()[1]"] ∧
      second.item.value = .bool true := by
  intro receiver world call
  have has : world.Has ⟨0⟩ := by decide
  obtain ⟨rounds, h⟩ := (elements_visited (fun _ : Unit => {}) has).1 receiver.value call
  have size : rounds.length = 2 := h.all (by decide +kernel)
  obtain ⟨first, second, rfl⟩ := List.length_eq_two.mp size
  have makes (i : Nat) (round : Round Unit) (element : Canonical)
      (at' : [first, second][i]? = some round) (item : receiver.value[i]? = some element) :
      round.Makes (fun _ => {}) ⟨0⟩ ⟨"each()[" ++ toString i ++ "]", element, call i⟩ := by
    obtain ⟨visit, there, makes⟩ := h.visited i round at'
    rw [ArrayNode.getElem?_visits, item] at there
    cases there
    exact makes
  have one := makes 0 first .null rfl rfl
  have two := makes 1 second (.bool true) rfl rfl
  have fails : first.Fails ⟨0⟩ := by
    have called : receiver.isEmpty first.begins = (first.ending, first.ends) := one.called
    rw [Round.Fails, ← show (receiver.isEmpty first.begins).2 = first.ends by rw [called],
      one.begins, h.first first rfl]
    decide +kernel
  have spreads := h.spreads 0 first rfl fails
  refine ⟨first, second, h, fails, ?_, (spreads 1 second rfl).mpr Nat.zero_lt_one, ?_, two.value⟩
  · exact Bool.eq_false_iff.mpr fun failed => Nat.lt_irrefl 0 ((spreads 0 first rfl).mp failed)
  · have nested : ∀ visit ∈ ArrayNode.visits receiver.value call, ∀ item,
        (visit.call item).Nested := by
      intro visit member item
      obtain ⟨i, _, rfl⟩ := List.mem_mapIdx.mp member
      trivial
    have path : (second.begins.chain second.item.chain).path =
        (second.before.chain ⟨0⟩).path ++ ["each()[" ++ toString 1 ++ "]"] :=
      congrArg Chain.path two.item
    rw [path, h.level nested second (by simp)]
    decide +kernel

end FluentAssert
