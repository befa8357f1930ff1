import FluentAssert.Proofs.Fields
import FluentAssert.Proofs.Operation.Inquiry

/-! Environments as maps. A map is made by writes alone: what is under a key is up to the last write
that affects it. A store that depicts the map answers as the map does. -/
namespace FluentAssert

variable {ω α : Type}

inductive Write where
  | put (key : String) (value : Stored)
  | delete (key : String)
  | clear

namespace Write

def affects (key : String) : Write → Bool
  | put k _ => k == key
  | delete k => k == key
  | clear => true

def leaves : Write → Option Stored
  | put _ value => some value
  | delete _ => none
  | clear => none

def apply (contents : Store) : Write → Store
  | put key value => Fields.insert key value contents
  | delete key => Fields.erase key contents
  | clear => []

end Write

abbrev Table := String → Option Stored

def latest (writes : List Write) : Table := fun key =>
  (writes.reverse.find? (·.affects key)).bind Write.leaves

theorem latest_push (writes : List Write) (write : Write) (key : String) :
    latest (writes ++ [write]) key =
      if write.affects key then write.leaves else latest writes key := by
  simp only [latest, List.reverse_append, List.reverse_singleton, List.singleton_append,
    List.find?_cons]
  cases write.affects key <;> rfl

structure Store.Depicts (contents : Store) (table : Table) : Prop where
  ordered : Fields.Ordered contents
  holds : ∀ key, Fields.get? contents key = table key

/-- In strictly ascending order, and without any twice, just the keys that the map has. -/
structure Table.Lists (table : Table) (keys : List String) : Prop where
  ascending : keys.Pairwise (· < ·)
  present : ∀ key, key ∈ keys ↔ (table key).isSome

/-- The keys that match a pattern, in the order of all keys. -/
def Table.Globs (table : Table) (pattern : String) (result : Except Glob.PatternError (List String)) :
    Prop :=
  match Glob.parse pattern with
  | .error e => result = .error e
  | .ok parsed => ∃ keys, table.Lists keys ∧ result = .ok (keys.filter (Glob.isMatch parsed))

namespace Store.Depicts

variable {contents : Store} {table : Table}

theorem empty : Store.Depicts [] (latest []) := ⟨Fields.ordered_nil, fun _ => rfl⟩

theorem lists (depicts : contents.Depicts table) : table.Lists (Fields.keys contents) where
  ascending := depicts.ordered
  present key := by rw [Fields.mem_keys, depicts.holds]

theorem globs (depicts : contents.Depicts table) (pattern : String) :
    table.Globs pattern (contents.glob pattern) := by
  unfold Table.Globs Store.glob
  cases Glob.parse pattern with
  | error e => rfl
  | ok parsed => exact ⟨Fields.keys contents, depicts.lists, rfl⟩

theorem tryGet (depicts : contents.Depicts table) (type : StoredType) (key : String) :
    contents.tryGet type key = (table key).bind (Stored.ofType? type) := by
  rw [Store.tryGet, depicts.holds]

/-- Every value in the store is under some key of the map. -/
theorem mem_values (depicts : contents.Depicts table) {stored : Stored} :
    stored ∈ Fields.values contents ↔ ∃ key, table key = some stored := by
  constructor
  · intro member
    obtain ⟨⟨key, value⟩, inside, rfl⟩ := List.mem_map.mp member
    exact ⟨key, depicts.holds key ▸ Fields.get?_of_mem depicts.ordered inside⟩
  · rintro ⟨key, held⟩
    have found : Fields.get? contents key = some stored := (depicts.holds key).trans held
    exact List.mem_map_of_mem (f := (·.2)) (Fields.mem_of_get? found)

theorem write {writes : List Write} (depicts : contents.Depicts (latest writes)) (write : Write) :
    (write.apply contents).Depicts (latest (writes ++ [write])) := by
  cases write with
  | put key value =>
    refine ⟨Fields.ordered_insert depicts.ordered, fun k => ?_⟩
    rw [latest_push, Write.apply, Fields.get?_insert, depicts.holds]
    simp [Write.affects, Write.leaves]
  | delete key =>
    refine ⟨Fields.ordered_erase depicts.ordered, fun k => ?_⟩
    rw [latest_push, Write.apply, Fields.get?_erase, depicts.holds]
    simp [Write.affects, Write.leaves]
  | clear =>
    refine ⟨Fields.ordered_nil, fun k => ?_⟩
    rw [latest_push]
    rfl

end Store.Depicts

namespace Use

def write? : {α : Type} → Use α → Option Write
  | _, .put key value => some (.put key value)
  | _, .delete key => some (.delete key)
  | _, .clear => some .clear
  | _, .has _ | _, .keys => none

/-- What a map answers, unless the value that leaves it unwinds. -/
def unlessAlarmed (leaving : Option Stored) (answer : α) : Except String α :=
  match leaving.bind Stored.alarm? with
  | some reason => .error reason
  | none => .ok answer

def Answers (table : Table) : {α : Type} → Use α → Except String α → Prop
  | _, .put key _, ending => ending = unlessAlarmed (table key) ()
  | _, .has key, ending => ending = .ok (table key).isSome
  | _, .delete key, ending => ending = unlessAlarmed (table key) (table key).isSome
  | _, .clear, ending =>
    (ending = .ok () ∧ ∀ key stored, table key = some stored → stored.alarm? = none) ∨
      ∃ key stored reason, table key = some stored ∧ stored.alarm? = some reason ∧
        ending = .error reason
  | _, .keys, ending => ∃ keys, table.Lists keys ∧ ending = .ok keys

variable {table : Table}

theorem alarm?_one (leaving : Option Stored) :
    Store.alarm? leaving.toList = leaving.bind Stored.alarm? := by
  cases leaving with
  | none => rfl
  | some stored =>
    simp only [Store.alarm?, Option.toList_some, List.findSome?_cons, List.findSome?_nil,
      Option.bind_some]
    cases stored.alarm? <;> rfl

theorem change_apply (store : StoreId) (new : Store) (leaving : List Stored) (world : World ω) :
    store.change new leaving world = (match Store.alarm? leaving with
      | some reason => .error reason
      | none => .ok (), (Run.happen (.stored store new) world).2) := by
  simp only [StoreId.change, Run.bind_apply]
  cases Store.alarm? leaving <;> rfl

theorem perform_world (use : Use α) (store : StoreId) (world : World ω) :
    (use.perform store world).2 = match use.write? with
      | some write => (Run.happen (.stored store (write.apply (world.store store))) world).2
      | none => world := by
  cases use with
  | put key value =>
    show (store.change _ _ world).2 = _
    rw [change_apply]
    rfl
  | delete key =>
    show ((store.change _ _ >>= fun _ => pure _) world).2 = _
    rw [Run.bind_apply, change_apply]
    cases Store.alarm? (Fields.get? (world.store store) key).toList <;> rfl
  | clear =>
    show (store.change _ _ world).2 = _
    rw [change_apply]
    rfl
  | has | keys => rfl

theorem answers (use : Use α) (store : StoreId) (world : World ω)
    (depicts : (world.store store).Depicts table) :
    use.Answers table (use.perform store world).1 := by
  have leaving (key : String) : Store.alarm? (Fields.get? (world.store store) key).toList =
      (table key).bind Stored.alarm? := by
    rw [alarm?_one, depicts.holds]
  have present (key : String) : Fields.has (world.store store) key = (table key).isSome :=
    congrArg Option.isSome (depicts.holds key)
  cases use with
  | put key value =>
    show (store.change _ _ world).1 = unlessAlarmed _ _
    rw [change_apply, leaving]
    rfl
  | has key => exact congrArg Except.ok (present key)
  | delete key =>
    show ((store.change _ _ >>= fun _ => pure _) world).1 = unlessAlarmed _ _
    rw [Run.bind_apply, change_apply, leaving, ← present key, unlessAlarmed]
    cases (table key).bind Stored.alarm? <;> rfl
  | clear =>
    have whole : (Use.clear.perform store world).1 =
        (store.change [] (Fields.values (world.store store)) world).1 := rfl
    rw [whole, change_apply]
    cases alarmed : Store.alarm? (Fields.values (world.store store)) with
    | none =>
      refine .inl ⟨rfl, fun key stored held => ?_⟩
      exact List.findSome?_eq_none_iff.mp alarmed stored (depicts.mem_values.mpr ⟨key, held⟩)
    | some reason =>
      obtain ⟨stored, member, reasoned⟩ := List.exists_of_findSome?_eq_some alarmed
      obtain ⟨key, held⟩ := depicts.mem_values.mp member
      exact .inr ⟨key, stored, reason, held, reasoned, rfl⟩
  | keys => exact ⟨_, depicts.lists, rfl⟩

end Use
end FluentAssert
