import FluentAssert.Proofs.Canonical.Leaves
import FluentAssert.Proofs.Node.Judgement

/-! Containment on nodes. An object that passes it both ways passes equality, and it passes just if
the keys of the subset, followed from node to node, lead to all that is in there. -/
namespace FluentAssert

variable {ω : Type}

namespace ObjectNode

/-- The value under keys, through the objects in between. -/
def follow (node : ObjectNode) (key : String) : List String → Run ω ValueNode
  | [] => node.field key
  | next :: keys => do
    let value ← node.field key
    let inner ← value.object
    inner.follow next keys

theorem seeks_field (held : Fields Canonical) (key : String) :
    Seeks (fun _ id => field ⟨id, held⟩ key) (Fields.get? held key) :=
  @Seeks.step .object .value (Step.field key) held

theorem seeks_follow (held : Fields Canonical) (key : String) (keys : List String) :
    Seeks (fun _ id => follow ⟨id, held⟩ key keys)
      ((Canonical.object held).under? (key :: keys)) := by
  induction keys generalizing held key with
  | nil =>
    have same : (Canonical.object held).under? [key] = Fields.get? held key := by
      simp [Canonical.under?, Canonical.fields?]
    rw [same]
    exact seeks_field held key
  | cons next keys ih =>
    have inner (value : Canonical) :
        Seeks (fun _ id => ValueNode.object ⟨id, value⟩ >>= fun inner => inner.follow next keys)
          (value.under? (next :: keys)) := by
      have object : Seeks (fun _ id => ValueNode.object ⟨id, value⟩) value.fields? :=
        @Seeks.step .value .object ValueNode.Step.object value
      exact object.bind fun fields => ih fields next
    exact (seeks_field held key).bind inner

theorem judges_containsSubset (held : Fields Canonical) (subset : Native) :
    Judges (fun _ id => containsSubset ⟨id, held⟩ subset)
      (∃ form, Canonical.ofNative subset = .ok form ∧
        (Canonical.object held).containsSubset form = true) := by
  simp only [containsSubset, actual]
  refine (Judges.argument "contains_subset()" held subset _).congr ?_
  simp

theorem judges_hasValue (held : Fields Canonical) (key : String) (expected : Native) :
    Judges (fun _ id => hasValue ⟨id, held⟩ key expected)
      (∃ form, Canonical.ofNative expected = .ok form ∧
        ∃ value, Fields.get? held key = some value ∧ (value == form) = true) := by
  simp only [hasValue, noKey, actual]
  refine (Judges.argument ("has_value(" ++ Text.quoted key ++ ")") held expected _).congr ?_
  cases Fields.get? held key <;> simp

end ObjectNode

/-- Without arrays, containment in both directions is equality, of values and of what is asserted
on objects. -/
theorem Canonical.containsSubset_mutual :
    (∀ value other : Canonical, value.Arranged → other.Arranged → other.Arrayless →
      (value.containsSubset other = true ∧ other.containsSubset value = true ↔
        (value == other) = true)) ∧
    ∀ (here there elsewhere : Standpoint) (held others : Fields Canonical) (this that : Native),
      Canonical.ofNative this = .ok (.object held) →
      Canonical.ofNative that = .ok (.object others) → (Canonical.object others).Arrayless →
      (here.Passes (fun _ id => ObjectNode.containsSubset ⟨id, held⟩ that) ∧
        there.Passes (fun _ id => ObjectNode.containsSubset ⟨id, others⟩ this) ↔
      elsewhere.Passes fun _ id => ObjectNode.isEqual ⟨id, held⟩ that) := by
  refine ⟨fun value other arranged arranged' flat => contains_both arranged arranged' flat, ?_⟩
  intro here there elsewhere held others this that form form' flat
  rw [(ObjectNode.judges_containsSubset held that).passes_iff,
    (ObjectNode.judges_containsSubset others this).passes_iff,
    (ObjectNode.judges_isEqual held that).passes_iff]
  simp only [form, form', Except.ok.injEq, exists_eq_left']
  exact contains_both (proper_ofNative form).arranged (proper_ofNative form').arranged flat

/-- A record and a map, with zeros of different signs a level below. -/
theorem Canonical.containsSubset_mutual_signed :
    let held (negative : Bool) : Fields Canonical :=
      [("a", .null), ("b", .object [("zero", .number (.zero negative))])]
    let this : Native := .struct [("a", .none), ("b", .map [(.text "zero", .double (.zero false))])]
    let that : Native :=
      .map [(.text "b", .struct [("zero", .newtype (.double (.zero true)))]), (.char 'a', .unit)]
    let world : World Unit := { World.start () with chains := #[⟨none, [], false, ⟨0⟩, ⟨0⟩⟩] }
    let here : Standpoint := ⟨world, ⟨0⟩, rfl⟩
    ((Canonical.object (held false)).containsSubset (.object (held true)) = true ∧
      (Canonical.object (held true)).containsSubset (.object (held false)) = true) ∧
    here.Passes (fun _ id => ObjectNode.containsSubset ⟨id, held false⟩ that) ∧
    here.Passes (fun _ id => ObjectNode.containsSubset ⟨id, held true⟩ this) ∧
    here.Passes fun _ id => ObjectNode.isEqual ⟨id, held false⟩ that := by
  intro held this that world here
  have form : ofNative this = .ok (.object (held false)) := by rfl
  have form' : ofNative that = .ok (.object (held true)) := by rfl
  have flat : (Canonical.object (held true)).Arrayless := by
    have null : Canonical.null.Arrayless := arrayless_scalar rfl
    have zero : (number (.zero true)).Arrayless := arrayless_scalar rfl
    simp [held, arrayless_object, null, zero]
  have same : (Canonical.object (held false) == .object (held true)) = true := by decide
  have equal : here.Passes fun _ id => ObjectNode.isEqual ⟨id, held false⟩ that :=
    ((ObjectNode.judges_isEqual (held false) that).passes_iff here).mpr ⟨_, form', same⟩
  have both := (containsSubset_mutual.2 here here here _ _ this that form form' flat).mpr equal
  refine ⟨?_, both.1, both.2, equal⟩
  exact (containsSubset_mutual.1 _ _ (proper_ofNative form).arranged
    (proper_ofNative form').arranged flat).mpr same

/-- Keys that lead to a leaf of the subset lead from here to its like: to an equal scalar, or to an
object where the leaf is an empty one. -/
def Standpoint.ReachesLeaves (here : Standpoint) (held subset : Fields Canonical) : Prop :=
  ∀ (key : String) (keys : List String) (leaf : Canonical),
    (Canonical.object subset).under? (key :: keys) = some leaf →
    (leaf.isContainer = false → ∃ found,
      here.Reaches (fun _ id => ObjectNode.follow ⟨id, held⟩ key keys) found ∧
      (found == leaf) = true) ∧
    (leaf = .object [] → ∃ fields : Fields Canonical,
      here.Reaches (fun _ id => ObjectNode.follow ⟨id, held⟩ key keys) (.object fields))

theorem ObjectNode.contains_iff_reaches (here : Standpoint) (held subset : Fields Canonical)
    (arranged : (Canonical.object subset).Arranged) (flat : (Canonical.object subset).Arrayless) :
    (Canonical.object held).containsSubset (.object subset) = true ↔
      here.ReachesLeaves held subset := by
  rw [Canonical.contains_iff_leaves arranged flat]
  unfold Standpoint.ReachesLeaves
  simp only [(seeks_follow held _ _).reaches_iff]
  constructor
  · intro leaves key keys leaf leads
    constructor
    · intro scalar
      obtain ⟨found, same, contains⟩ := leaves (key :: keys) leaf leads (.inl scalar)
      rw [Canonical.contains_scalar scalar] at contains
      exact ⟨found, same, contains⟩
    · rintro rfl
      obtain ⟨found, same, contains⟩ := leaves (key :: keys) _ leads (.inr rfl)
      obtain ⟨fields, rfl⟩ := Canonical.contains_empty.mp contains
      exact ⟨fields, same⟩
  · intro leaves path leaf leads last
    cases path with
    | nil =>
      cases leads
      rcases last with scalar | empty
      · cases scalar
      · exact ⟨_, rfl, empty ▸ Canonical.contains_empty.mpr ⟨held, rfl⟩⟩
    | cons key keys =>
      obtain ⟨whole, emptied⟩ := leaves key keys leaf leads
      rcases last with scalar | rfl
      · obtain ⟨found, same, equal⟩ := whole scalar
        exact ⟨found, same, (Canonical.contains_scalar scalar).trans equal⟩
      · obtain ⟨fields, same⟩ := emptied rfl
        exact ⟨_, same, Canonical.contains_empty.mpr ⟨fields, rfl⟩⟩

/-- What an object contains is what keys lead to in it, whichever standpoints it is asserted from
and followed from. With one field and a scalar under it, containment is the check of that value. -/
theorem ObjectNode.containsSubset_navigable (here there : Standpoint) (held : Fields Canonical) :
    (∀ subset : Fields Canonical, (Canonical.object subset).Arranged →
      (Canonical.object subset).Arrayless →
      ((Canonical.object held).containsSubset (.object subset) = true ↔
        there.ReachesLeaves held subset)) ∧
    (∀ (given : Native) (subset : Fields Canonical),
      Canonical.ofNative given = .ok (.object subset) → (Canonical.object subset).Arrayless →
      (here.Passes (fun _ id => containsSubset ⟨id, held⟩ given) ↔
        there.ReachesLeaves held subset)) ∧
    ∀ (key : String) (given whole : Native) (form : Canonical),
      Canonical.ofNative given = .ok form → form.isContainer = false →
      Canonical.ofNative whole = .ok (.object [(key, form)]) →
      (here.Passes (fun _ id => containsSubset ⟨id, held⟩ whole) ↔
        there.Passes fun _ id => hasValue ⟨id, held⟩ key given) := by
  refine ⟨contains_iff_reaches there held, ?_, ?_⟩
  · intro given subset form flat
    rw [(judges_containsSubset held given).passes_iff]
    simp only [form, Except.ok.injEq, exists_eq_left']
    exact contains_iff_reaches there held subset (Canonical.proper_ofNative form).arranged flat
  · intro key given whole form single scalar pair
    rw [(judges_containsSubset held whole).passes_iff, (judges_hasValue held key given).passes_iff]
    simp [single, pair, Canonical.contains_object, Canonical.contains_scalar scalar]

/-- A subset with an empty object and with a name one level below, of an object with more in both. -/
theorem ObjectNode.containsSubset_navigable_empty :
    let held : Fields Canonical := [("id", .null), ("tags", .object [("k", .array [])]),
      ("user", .object [("age", .null), ("name", .text "ford")])]
    let subset : Fields Canonical := [("tags", .object []), ("user", .object [("name", .text "ford")])]
    let given : Native := .struct [("user", .map [(.text "name", .text "ford")]), ("tags", .map [])]
    let world : World Unit := { World.start () with chains := #[⟨none, [], false, ⟨0⟩, ⟨0⟩⟩] }
    let here : Standpoint := ⟨world, ⟨0⟩, rfl⟩
    (Canonical.object held).containsSubset (.object subset) = true ∧
    here.Passes (fun _ id => containsSubset ⟨id, held⟩ given) ∧
    (∃ fields : Fields Canonical,
      here.Reaches (fun _ id => follow ⟨id, held⟩ "tags" []) (.object fields)) ∧
    (∃ found, here.Reaches (fun _ id => follow ⟨id, held⟩ "user" ["name"]) found ∧
      (found == .text "ford") = true) ∧
    here.Passes fun _ id => hasValue ⟨id, held⟩ "id" .unit := by
  intro held subset given world here
  have form : Canonical.ofNative given = .ok (.object subset) := by rfl
  have flat : (Canonical.object subset).Arrayless := by
    have name : (Canonical.text "ford").Arrayless := Canonical.arrayless_scalar rfl
    simp [subset, Canonical.arrayless_object, name]
  have contains : (Canonical.object held).containsSubset (.object subset) = true := by rfl
  have navigable := containsSubset_navigable here here held
  have leaves := (navigable.1 subset (Canonical.proper_ofNative form).arranged flat).mp contains
  refine ⟨contains, (navigable.2.1 given subset form flat).mpr leaves, ?_, ?_, ?_⟩
  · exact (leaves "tags" [] _ rfl).2 rfl
  · exact (leaves "user" ["name"] _ rfl).1 rfl
  · refine (navigable.2.2 "id" .unit (.map [(.text "id", .unit)]) .null rfl rfl rfl).mp ?_
    exact ((judges_containsSubset held _).passes_iff here).mpr ⟨_, rfl, rfl⟩

end FluentAssert
