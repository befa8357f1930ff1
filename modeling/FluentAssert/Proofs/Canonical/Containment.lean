import FluentAssert.Proofs.Canonical.Idempotence

/-! Containment of values is a preorder that extends equality. Between values without arrays it is
an order: what contains each other is equal. -/
namespace FluentAssert.Canonical

/-- The keys of all objects inside are in order, as maps keep them. -/
def Arranged : Canonical → Prop :=
  Throughout fun part => ∀ fields : Fields Canonical, part = object fields → fields.Ordered

def Arrayless : Canonical → Prop := Throughout fun part => part.items? = none

theorem arrayless_scalar {value : Canonical} (scalar : value.isContainer = false) :
    value.Arrayless := by
  have plain : value.items? = none := by
    cases value with
    | array | object => cases scalar
    | null | bool | number | text => rfl
  exact Throughout.scalar scalar plain

theorem arrayless_object {fields : Fields Canonical} :
    (object fields).Arrayless ↔ ∀ field ∈ fields, field.2.Arrayless := by
  constructor
  · intro flat field inside
    exact flat.field inside
  · exact Throughout.object rfl

theorem Arranged.ordered {fields : Fields Canonical} (arranged : (object fields).Arranged) :
    fields.Ordered :=
  arranged.here fields rfl

theorem Proper.arranged {value : Canonical} (proper : Proper value) : value.Arranged := by
  intro part inside fields same
  subst same
  cases proper.throughout _ inside with
  | object ordered => exact ordered

variable {outer middle inner : Canonical}

theorem containsFields_iff {outer inner : Fields Canonical} :
    containsFields outer inner = true ↔ ∀ field ∈ inner, ∃ value,
      Fields.get? outer field.1 = some value ∧ value.containsSubset field.2 = true := by
  induction inner with
  | nil => simp [containsFields]
  | cons field rest ih =>
    obtain ⟨key, value⟩ := field
    rw [containsFields, Bool.and_eq_true, ih, List.forall_mem_cons]
    cases Fields.get? outer key <;> simp

theorem containsItems_iff {outer inner : List Canonical} :
    containsItems outer inner = true ↔
      ∀ item ∈ inner, ∃ other ∈ outer, other.containsSubset item = true := by
  induction inner with
  | nil => simp [containsItems]
  | cons item rest ih => simp [containsItems, ih]

theorem contains_object {fields : Fields Canonical} :
    outer.containsSubset (object fields) = true ↔ ∃ others : Fields Canonical,
      outer = object others ∧ ∀ field ∈ fields, ∃ value,
        Fields.get? others field.1 = some value ∧ value.containsSubset field.2 = true := by
  cases outer <;> simp [containsSubset, containsFields_iff]

theorem contains_array {items : List Canonical} :
    outer.containsSubset (array items) = true ↔ ∃ others, outer = array others ∧
      ∀ item ∈ items, ∃ other ∈ others, other.containsSubset item = true := by
  cases outer <;> simp [containsSubset, containsItems_iff]

theorem contains_scalar (scalar : inner.isContainer = false) :
    outer.containsSubset inner = (outer == inner) := by
  cases inner with
  | array | object => cases scalar
  | null | bool | number | text => simp [containsSubset]

theorem contains_of_beq (arranged : outer.Arranged) (same : (outer == inner) = true) :
    outer.containsSubset inner = true := by
  induction inner generalizing outer with
  | null | bool | number | text => rwa [contains_scalar rfl]
  | array items ih =>
    cases outer with
    | null | bool | number | text | object => cases same
    | array others =>
      refine contains_array.mpr ⟨others, rfl, fun item inside => ?_⟩
      obtain ⟨other, inside', same⟩ := exists_of_forall₂ (equalItems_iff.mp same) inside
      exact ⟨other, inside', ih item inside (arranged.item inside') same⟩
  | object fields ih =>
    cases outer with
    | null | bool | number | text | array => cases same
    | object others =>
      refine contains_object.mpr ⟨others, rfl, fun field inside => ?_⟩
      obtain ⟨other, inside', keys, same⟩ := exists_of_forall₂ (equalFields_iff.mp same) inside
      have found : Fields.get? others field.1 = some other.2 :=
        keys ▸ Fields.get?_of_mem arranged.ordered inside'
      exact ⟨other.2, found, ih field inside (arranged.field inside') same⟩

theorem scalar_of_beq (scalar : inner.isContainer = false) (same : (middle == inner) = true) :
    middle.isContainer = false := by
  rw [beq_comm] at same
  cases inner with
  | array | object => cases scalar
  | null => exact null_beq.mp same ▸ rfl
  | bool b => exact bool_beq.mp same ▸ rfl
  | text s => exact text_beq.mp same ▸ rfl
  | number z =>
    obtain ⟨y, rfl, -⟩ := number_beq.mp same
    rfl

theorem contains_trans (first : outer.containsSubset middle = true)
    (second : middle.containsSubset inner = true) : outer.containsSubset inner = true := by
  -- The shape of the innermost value tells those of the other two.
  induction inner generalizing outer middle with
  | null | bool | number | text =>
    rw [contains_scalar rfl] at second ⊢
    rw [contains_scalar (scalar_of_beq rfl second)] at first
    exact beq_trans_scalar rfl first second
  | array items ih =>
    obtain ⟨others, rfl, within⟩ := contains_array.mp second
    obtain ⟨wholes, rfl, within'⟩ := contains_array.mp first
    refine contains_array.mpr ⟨wholes, rfl, fun item inside => ?_⟩
    obtain ⟨other, inside', contains⟩ := within item inside
    obtain ⟨whole, inside'', contains'⟩ := within' other inside'
    exact ⟨whole, inside'', ih item inside contains' contains⟩
  | object fields ih =>
    obtain ⟨others, rfl, within⟩ := contains_object.mp second
    obtain ⟨wholes, rfl, within'⟩ := contains_object.mp first
    refine contains_object.mpr ⟨wholes, rfl, fun field inside => ?_⟩
    obtain ⟨value, found, contains⟩ := within field inside
    obtain ⟨whole, found', contains'⟩ := within' (field.1, value) (Fields.mem_of_get? found)
    exact ⟨whole, found', ih field inside contains' contains⟩

theorem contains_self (arranged : outer.Arranged) (free : outer.NaNFree) :
    outer.containsSubset outer = true :=
  contains_of_beq arranged (equal_self free)

/-- Equals contain each other, containment goes on from one value to the next, and a value contains
itself if no number in it is NaN, as in every canonical form. -/
theorem containsSubset_preorder :
    (∀ outer inner : Canonical, outer.Arranged → (outer == inner) = true →
      outer.containsSubset inner = true) ∧
    (∀ outer middle inner : Canonical, outer.containsSubset middle = true →
      middle.containsSubset inner = true → outer.containsSubset inner = true) ∧
    (∀ value : Canonical, value.Arranged → value.NaNFree → value.containsSubset value = true) ∧
    ∀ (value : Native) (form : Canonical), ofNative value = .ok form →
      form.containsSubset form = true := by
  refine ⟨fun _ _ => contains_of_beq, fun _ _ _ => contains_trans, fun _ => contains_self, ?_⟩
  intro value form canonical
  have proper := proper_ofNative canonical
  exact contains_self proper.arranged proper.nanFree

/-- Zeros of both signs equal each other, and the null beside them is all that is asked for last. -/
theorem containsSubset_preorder_signed :
    let held (negative : Bool) : Canonical := object [("k", array [number (.zero negative), null])]
    let part : Canonical := object [("k", array [null])]
    (held false).containsSubset (held true) = true ∧ (held false).containsSubset part = true ∧
      (held false).containsSubset (held false) = true ∧
      (held true).containsSubset (held true) = true := by
  intro held part
  have canonical (negative : Bool) :
      ofNative (.struct [("k", .seq [.double (.zero negative), .none])]) = .ok (held negative) := by
    cases negative <;> rfl
  have proper := proper_ofNative (canonical false)
  have equal := containsSubset_preorder.1 (held false) (held true) proper.arranged rfl
  refine ⟨equal, ?_, ?_, ?_⟩
  · exact containsSubset_preorder.2.1 (held false) (held true) part equal (by rfl)
  · exact containsSubset_preorder.2.2.1 (held false) proper.arranged proper.nanFree
  · exact containsSubset_preorder.2.2.2 _ (held true) (canonical true)

theorem keys_of_contains {fields others : Fields Canonical} {key : String}
    (within : ∀ field ∈ fields, ∃ value,
      Fields.get? others field.1 = some value ∧ value.containsSubset field.2 = true)
    (known : key ∈ Fields.keys fields) : key ∈ Fields.keys others := by
  obtain ⟨field, inside, rfl⟩ := List.mem_map.mp known
  obtain ⟨value, found, -⟩ := within field inside
  exact Fields.mem_keys.mpr (Option.isSome_iff_exists.mpr ⟨value, found⟩)

theorem beq_of_contains (arranged : outer.Arranged) (arranged' : inner.Arranged)
    (flat : inner.Arrayless) (contains : outer.containsSubset inner = true)
    (contained : inner.containsSubset outer = true) : (outer == inner) = true := by
  induction inner generalizing outer with
  | null | bool | number | text => rwa [contains_scalar rfl] at contains
  | array items => cases flat.here
  | object fields ih =>
    obtain ⟨others, rfl, within⟩ := contains_object.mp contains
    obtain ⟨_, same, within'⟩ := contains_object.mp contained
    cases same
    -- Each way of containment gives one inclusion of keys.
    have keys (key : String) : key ∈ Fields.keys others ↔ key ∈ Fields.keys fields :=
      ⟨fun known => keys_of_contains within' known, fun known => keys_of_contains within known⟩
    have values (key : String) (value other : Canonical) (found : Fields.get? others key = some value)
        (found' : Fields.get? fields key = some other) : (value == other) = true := by
      have inside := Fields.mem_of_get? found'
      have outside := Fields.mem_of_get? found
      obtain ⟨value', again, contains⟩ := within (key, other) inside
      obtain ⟨other', again', contained⟩ := within' (key, value) outside
      cases found.symm.trans again
      cases found'.symm.trans again'
      exact ih (key, other) inside (arranged.field outside) (arranged'.field inside)
        (flat.field inside) contains contained
    exact equalFields_iff.mpr
      (Fields.forall₂_of_keys arranged.ordered arranged'.ordered keys values)

theorem contains_both (arranged : outer.Arranged) (arranged' : inner.Arranged)
    (flat : inner.Arrayless) :
    outer.containsSubset inner = true ∧ inner.containsSubset outer = true ↔
      (outer == inner) = true := by
  constructor
  · rintro ⟨contains, contained⟩
    exact beq_of_contains arranged arranged' flat contains contained
  · intro same
    have same' : (inner == outer) = true := beq_comm outer inner ▸ same
    exact ⟨contains_of_beq arranged same, contains_of_beq arranged' same'⟩

/-- With arrays it is not an order: these two are told apart by how often they hold the item. -/
example : (array [null, null]).containsSubset (array [null]) = true ∧
    (array [null]).containsSubset (array [null, null]) = true ∧
    (array [null, null] == array [null]) = false := by
  decide

end FluentAssert.Canonical
