import FluentAssert.Proofs.Canonical.Containment

/-! Leaves: what lies at the ends of values without arrays. Such a value is contained in another
just if the same keys lead there to the same leaves. -/
namespace FluentAssert.Canonical

variable {outer inner : Canonical}

/-- What is found under keys, each in the object before it. -/
def under? (value : Canonical) : List String → Option Canonical
  | [] => some value
  | key :: keys => do
    let inner ← Fields.get? (← value.fields?) key
    inner.under? keys

/-- Scalars and empty objects, where keys lead no further. -/
def Leaf (value : Canonical) : Prop := value.isContainer = false ∨ value = object []

theorem under?_cons {value found : Canonical} {key : String} {keys : List String} :
    value.under? (key :: keys) = some found ↔ ∃ fields : Fields Canonical, value = object fields ∧
      ∃ inner, Fields.get? fields key = some inner ∧ inner.under? keys = some found := by
  cases value with
  | object fields => simp [under?, fields?, Option.bind_eq_some_iff]
  | null | bool | number | text | array => simp [under?, fields?]

theorem contains_empty {found : Canonical} :
    found.containsSubset (object []) = true ↔ ∃ fields : Fields Canonical, found = object fields := by
  simp [contains_object]

theorem exists_leaf (flat : inner.Arrayless) :
    ∃ path leaf, inner.under? path = some leaf ∧ leaf.Leaf := by
  induction inner with
  | null | bool | number | text => exact ⟨[], _, rfl, .inl rfl⟩
  | array items => cases flat.here
  | object fields ih =>
    cases fields with
    | nil => exact ⟨[], _, rfl, .inr rfl⟩
    | cons field rest =>
      obtain ⟨path, leaf, leads, last⟩ :=
        ih field List.mem_cons_self (flat.field List.mem_cons_self)
      exact ⟨field.1 :: path, leaf, under?_cons.mpr ⟨_, rfl, field.2, if_pos rfl, leads⟩, last⟩

theorem contains_under {path : List String} {part : Canonical}
    (contains : outer.containsSubset inner = true) (leads : inner.under? path = some part) :
    ∃ found, outer.under? path = some found ∧ found.containsSubset part = true := by
  induction path generalizing outer inner with
  | nil =>
    cases leads
    exact ⟨outer, rfl, contains⟩
  | cons key keys ih =>
    obtain ⟨fields, rfl, value, found, leads⟩ := under?_cons.mp leads
    obtain ⟨others, rfl, within⟩ := contains_object.mp contains
    obtain ⟨other, found', contains⟩ := within (key, value) (Fields.mem_of_get? found)
    obtain ⟨reached, leads', contains⟩ := ih contains leads
    exact ⟨reached, under?_cons.mpr ⟨others, rfl, other, found', leads'⟩, contains⟩

theorem contains_of_leaves (arranged : inner.Arranged) (flat : inner.Arrayless)
    (leaves : ∀ path leaf, inner.under? path = some leaf → leaf.Leaf →
      ∃ found, outer.under? path = some found ∧ found.containsSubset leaf = true) :
    outer.containsSubset inner = true := by
  induction inner generalizing outer with
  | array items => cases flat.here
  | null | bool | number | text =>
    obtain ⟨found, same, contains⟩ := leaves [] _ rfl (.inl rfl)
    cases same
    exact contains
  | object fields ih =>
    -- Some leaf there is, be it the empty object itself, and it is reached in objects only.
    have object : ∃ others : Fields Canonical, outer = object others := by
      obtain ⟨path, leaf, leads, last⟩ := exists_leaf flat
      obtain ⟨reached, leads', contains⟩ := leaves path leaf leads last
      cases path with
      | nil =>
        cases leads
        cases leads'
        obtain ⟨others, same, -⟩ := contains_object.mp contains
        exact ⟨others, same⟩
      | cons key keys =>
        obtain ⟨others, same, -⟩ := under?_cons.mp leads'
        exact ⟨others, same⟩
    obtain ⟨others, rfl⟩ := object
    refine contains_object.mpr ⟨others, rfl, fun field inside => ?_⟩
    -- The leaves below a field lead through one value of the other object.
    have below (path : List String) (leaf : Canonical) (leads : field.2.under? path = some leaf)
        (last : leaf.Leaf) : ∃ other, Fields.get? others field.1 = some other ∧
          ∃ reached, other.under? path = some reached ∧ reached.containsSubset leaf = true := by
      have found := Fields.get?_of_mem arranged.ordered inside
      obtain ⟨reached, leads', contains⟩ := leaves (field.1 :: path) leaf
        (under?_cons.mpr ⟨fields, rfl, field.2, found, leads⟩) last
      obtain ⟨_, same, other, found', leads'⟩ := under?_cons.mp leads'
      cases same
      exact ⟨other, found', reached, leads', contains⟩
    obtain ⟨path, leaf, leads, last⟩ := exists_leaf (flat.field inside)
    obtain ⟨other, found, -⟩ := below path leaf leads last
    refine ⟨other, found, ih field inside (arranged.field inside) (flat.field inside) ?_⟩
    intro path leaf leads last
    obtain ⟨other', found', reached⟩ := below path leaf leads last
    cases found.symm.trans found'
    exact reached

theorem contains_iff_leaves (arranged : inner.Arranged) (flat : inner.Arrayless) :
    outer.containsSubset inner = true ↔ ∀ path leaf, inner.under? path = some leaf → leaf.Leaf →
      ∃ found, outer.under? path = some found ∧ found.containsSubset leaf = true := by
  constructor
  · intro contains path leaf leads _
    exact contains_under contains leads
  · exact contains_of_leaves arranged flat

end FluentAssert.Canonical
