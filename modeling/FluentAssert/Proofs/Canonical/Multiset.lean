import Mathlib.Data.Fintype.EquivFin
import Mathlib.Data.List.FinRange
import FluentAssert.Node.Array
import FluentAssert.Proofs.Canonical.Equality

/-! Lists without regard to order. Greedy pairing succeeds just if each value has as many free
places as it needs, so no other choice of places would have succeeded where the first free one does
not. -/
namespace FluentAssert.Canonical

variable {value candidate : Canonical} {items actual expected : List Canonical} {used : List Bool}
  {place : Nat}

/-- How many places are free that hold an equal of this value. -/
def freeCount (expected : List Canonical) (used : List Bool) (value : Canonical) : Nat :=
  (expected.zip used).countP fun spot => !spot.2 && spot.1 == value

theorem freeCount_unused (expected : List Canonical) (value : Canonical) :
    freeCount expected (List.replicate expected.length false) value =
      expected.countP (· == value) := by
  induction expected with
  | nil => rfl
  | cons item rest ih =>
    have ih : List.countP _ (rest.zip (List.replicate rest.length false)) = _ := ih
    rw [freeCount, List.length_cons, List.replicate_succ, List.zip_cons_cons, List.countP_cons, ih,
      List.countP_cons]
    rfl

theorem freePlace?_some (found : freePlace? value expected used = some place) :
    ∃ candidate, expected[place]? = some candidate ∧ used[place]? = some false ∧
      (candidate == value) = true := by
  obtain ⟨inside, free, -⟩ := List.findIdx?_eq_some_iff_getElem.mp found
  rw [Bool.and_eq_true, Bool.not_eq_true'] at free
  obtain ⟨candidate, mark⟩ := List.getElem?_zip_eq_some.mp (List.getElem?_eq_getElem inside)
  exact ⟨_, candidate, free.1 ▸ mark, free.2⟩

theorem freePlace?_none (none : freePlace? value expected used = none) :
    freeCount expected used value = 0 := by
  rw [freeCount, List.countP_eq_zero]
  intro spot inside
  simp [List.findIdx?_eq_none_iff.mp none spot inside]

theorem zip_mark (there : expected[place]? = some candidate) :
    expected.zip (used.set place true) = (expected.zip used).set place (candidate, true) := by
  induction expected generalizing place used with
  | nil => cases there
  | cons item rest ih =>
    cases used with
    | nil => rfl
    | cons mark marks =>
      cases place with
      | zero =>
        cases there
        rfl
      | succ place => exact congrArg ((item, mark) :: ·) (ih there)

theorem freeCount_mark (there : expected[place]? = some candidate)
    (free : used[place]? = some false) (value : Canonical) :
    freeCount expected used value =
      freeCount expected (used.set place true) value + if candidate == value then 1 else 0 := by
  have spot : (expected.zip used)[place]? = some (candidate, false) :=
    List.getElem?_zip_eq_some.mpr ⟨there, free⟩
  obtain ⟨inside, spot⟩ := List.getElem?_eq_some_iff.mp spot
  have least := List.boole_getElem_le_countP (p := fun spot => !spot.2 && spot.1 == value) inside
  rw [freeCount, freeCount, zip_mark there, List.countP_set inside]
  simp only [spot, Bool.not_false, Bool.true_and, Bool.not_true, Bool.false_and,
    Bool.false_eq_true, if_false] at least ⊢
  omega

theorem takePlaces_iff : takePlaces expected items used = true ↔
    (∀ item ∈ items, (item == item) = true) ∧
      ∀ value, items.countP (· == value) ≤ freeCount expected used value := by
  induction items generalizing used with
  | nil => simp [takePlaces]
  | cons item rest ih =>
    rw [takePlaces, List.forall_mem_cons]
    cases found : freePlace? item expected used with
    | none =>
      -- An item that equals itself needs a place, and there is none.
      simp only [Bool.false_eq_true, false_iff]
      rintro ⟨⟨same, -⟩, enough⟩
      have one := enough item
      rw [freePlace?_none found, List.countP_cons, if_pos same] at one
      omega
    | some place =>
      obtain ⟨candidate, there, free, equal⟩ := freePlace?_some found
      have same : (item == item) = true := beq_congr equal item ▸ equal
      simp only [ih, same, true_and]
      refine and_congr_right fun _ => forall_congr' fun value => ?_
      rw [freeCount_mark there free value, List.countP_cons, beq_congr equal value]
      omega

/-- The places that the items have taken, each in use by one item only. -/
theorem takePlaces_places (taken : takePlaces expected items used = true) :
    ∃ places : List Nat, places.Nodup ∧ (∀ place ∈ places, used[place]? = some false) ∧
      List.Forall₂ (fun item place => ∃ candidate, expected[place]? = some candidate ∧
        (item == candidate) = true) items places := by
  induction items generalizing used with
  | nil => exact ⟨[], .nil, by simp, .nil⟩
  | cons item rest ih =>
    rw [takePlaces] at taken
    cases found : freePlace? item expected used with
    | none =>
      rw [found] at taken
      cases taken
    | some place =>
      rw [found] at taken
      obtain ⟨candidate, there, free, equal⟩ := freePlace?_some found
      obtain ⟨places, distinct, unused, pairs⟩ := ih taken
      -- The mark keeps the later items away from this place.
      have other (later : Nat) (inside : later ∈ places) :
          place ≠ later ∧ used[later]? = some false := by
        have mark := unused later inside
        rw [List.getElem?_set] at mark
        split at mark
        · split at mark <;> cases mark
        · rename_i apart
          exact ⟨apart, mark⟩
      refine ⟨place :: places, ?_, ?_, .cons ⟨candidate, there, ?_⟩ pairs⟩
      · exact List.nodup_cons.mpr ⟨fun inside => (other place inside).1 rfl, distinct⟩
      · exact List.forall_mem_cons.mpr ⟨free, fun later inside => (other later inside).2⟩
      · exact beq_comm candidate item ▸ equal

theorem exists_injection (taken : takePlaces expected actual used = true) :
    ∃ pairing : Fin actual.length → Fin expected.length, Function.Injective pairing ∧
      ∀ place, (actual.get place == expected.get (pairing place)) = true := by
  obtain ⟨places, distinct, -, pairs⟩ := takePlaces_places taken
  have same : actual.length = places.length := pairs.length_eq
  have each (place : Fin actual.length) : ∃ partner : Fin expected.length,
      places.get ⟨place, same ▸ place.isLt⟩ = partner.val ∧
        (actual.get place == expected.get partner) = true := by
    obtain ⟨candidate, there, equal⟩ := pairs.get place.isLt (same ▸ place.isLt)
    obtain ⟨inside, rfl⟩ := List.getElem?_eq_some_iff.mp there
    exact ⟨⟨_, inside⟩, rfl, equal⟩
  choose pairing partner equal using each
  refine ⟨pairing, fun first second alike => ?_, equal⟩
  have values := (partner first).trans ((congrArg Fin.val alike).trans (partner second).symm)
  exact Fin.ext (Fin.mk.inj (distinct.get_inj_iff.mp values))

theorem length_le_of_taken (taken : takePlaces expected actual used = true) :
    actual.length ≤ expected.length := by
  obtain ⟨pairing, injective, -⟩ := exists_injection taken
  simpa using Fintype.card_le_of_injective pairing injective

/-- A bijection between the places of two lists, under which items are paired with their equals. -/
def Pairing (actual expected : List Canonical) : Prop :=
  ∃ pairing : Fin actual.length ≃ Fin expected.length,
    ∀ place, (actual.get place == expected.get (pairing place)) = true

namespace Pairing

theorem symm (pairs : Pairing actual expected) : Pairing expected actual := by
  obtain ⟨pairing, equal⟩ := pairs
  refine ⟨pairing.symm, fun place => ?_⟩
  have back := equal (pairing.symm place)
  rwa [Equiv.apply_symm_apply, beq_comm] at back

theorem length_eq (pairs : Pairing actual expected) : actual.length = expected.length := by
  obtain ⟨pairing, -⟩ := pairs
  exact Fin.equiv_iff_eq.mp ⟨pairing⟩

theorem exists_partner (pairs : Pairing actual expected) {item : Canonical}
    (inside : item ∈ actual) : ∃ partner ∈ expected, (item == partner) = true := by
  obtain ⟨pairing, equal⟩ := pairs
  obtain ⟨place, rfl⟩ := List.mem_iff_get.mp inside
  exact ⟨_, List.get_mem _ _, equal place⟩

theorem countP_eq (pairs : Pairing actual expected) (value : Canonical) :
    actual.countP (· == value) = expected.countP (· == value) := by
  obtain ⟨pairing, equal⟩ := pairs
  have places :
      ((List.finRange actual.length).map pairing).Perm (List.finRange expected.length) := by
    refine (List.perm_ext_iff_of_nodup ?_ (List.nodup_finRange _)).mpr fun place => ?_
    · exact (List.nodup_finRange _).map pairing.injective
    · simpa using ⟨pairing.symm place, pairing.apply_symm_apply place⟩
  calc actual.countP (· == value)
      = (List.finRange actual.length).countP fun place => actual.get place == value := by
        conv_lhs => rw [← List.map_get_finRange actual, List.countP_map]
        rfl
    _ = (List.finRange actual.length).countP fun place =>
          expected.get (pairing place) == value := by
        simp only [beq_congr (equal _) value]
    _ = ((List.finRange actual.length).map pairing).countP fun place =>
          expected.get place == value := by
        rw [List.countP_map]
        rfl
    _ = (List.finRange expected.length).countP fun place => expected.get place == value :=
        places.countP_eq _
    _ = expected.countP (· == value) := by
        conv_rhs => rw [← List.map_get_finRange expected, List.countP_map]
        rfl

end Pairing

theorem sameMultiset_iff_count : sameMultiset actual expected = true ↔
    actual.length = expected.length ∧ (∀ item ∈ actual, (item == item) = true) ∧
      ∀ value, actual.countP (· == value) ≤ expected.countP (· == value) := by
  rw [sameMultiset, Bool.and_eq_true, beq_iff_eq, takePlaces_iff]
  simp only [freeCount_unused]

theorem sameMultiset_iff_pairing : sameMultiset actual expected = true ↔
    Pairing actual expected := by
  constructor
  · intro same
    rw [sameMultiset, Bool.and_eq_true, beq_iff_eq] at same
    obtain ⟨pairing, injective, equal⟩ := exists_injection same.2
    have bijective : Function.Bijective pairing :=
      (Fintype.bijective_iff_injective_and_card pairing).mpr ⟨injective, by simp [same.1]⟩
    exact ⟨.ofBijective pairing bijective, equal⟩
  · intro pairs
    refine sameMultiset_iff_count.mpr ⟨pairs.length_eq, fun item inside => ?_, fun value => ?_⟩
    · obtain ⟨partner, -, equal⟩ := pairs.exists_partner inside
      rw [beq_congr equal, beq_comm]
      exact equal
    · exact (pairs.countP_eq value).le

theorem sameMultiset_comm (actual expected : List Canonical) :
    sameMultiset actual expected = sameMultiset expected actual := by
  rw [Bool.eq_iff_iff, sameMultiset_iff_pairing, sameMultiset_iff_pairing]
  exact ⟨Pairing.symm, Pairing.symm⟩

theorem sameMultiset_perm {actual' expected' : List Canonical} (moved : actual.Perm actual')
    (moved' : expected.Perm expected') :
    sameMultiset actual expected = sameMultiset actual' expected' := by
  rw [Bool.eq_iff_iff, sameMultiset_iff_count, sameMultiset_iff_count]
  simp only [moved.length_eq, moved'.length_eq, moved.mem_iff, moved.countP_eq, moved'.countP_eq]

/-- Without NaN the counts alone tell, the lengths among them. -/
theorem sameMultiset_iff_counts (free : ∀ item ∈ actual, item.NaNFree)
    (free' : ∀ item ∈ expected, item.NaNFree) : sameMultiset actual expected = true ↔
      ∀ value, actual.countP (· == value) = expected.countP (· == value) := by
  constructor
  · intro same
    exact (sameMultiset_iff_pairing.mp same).countP_eq
  · intro counts
    have self (item : Canonical) (inside : item ∈ actual) : (item == item) = true :=
      equal_self (free item inside)
    have self' (item : Canonical) (inside : item ∈ expected) : (item == item) = true :=
      equal_self (free' item inside)
    have taken : takePlaces expected actual (List.replicate expected.length false) = true :=
      takePlaces_iff.mpr ⟨self, fun value => by rw [freeCount_unused]; exact (counts value).le⟩
    have taken' : takePlaces actual expected (List.replicate actual.length false) = true :=
      takePlaces_iff.mpr ⟨self', fun value => by rw [freeCount_unused]; exact (counts value).ge⟩
    have same := Nat.le_antisymm (length_le_of_taken taken) (length_le_of_taken taken')
    exact sameMultiset_iff_count.mpr ⟨same, self, fun value => (counts value).le⟩

theorem countP_le_one (apart : items.Pairwise fun item other => (item == other) = false)
    (value : Canonical) : items.countP (· == value) ≤ 1 := by
  induction apart with
  | nil => simp
  | @cons item rest differ _ ih =>
    rw [List.countP_cons]
    by_cases equal : (item == value) = true
    · have none : rest.countP (· == value) = 0 := by
        refine List.countP_eq_zero.mpr fun other inside equal' => ?_
        rw [beq_comm] at equal'
        exact Bool.false_ne_true ((differ other inside).symm.trans (beq_trans equal equal'))
      rw [if_pos equal, none]
    · rw [if_neg equal]
      exact ih

/-- As many values as there are items, no two of them equal, and each of them among the items: then
there is no room for anything else. -/
theorem sameMultiset_of_apart (apart : expected.Pairwise fun form other => (form == other) = false)
    (same : actual.length = expected.length)
    (all : ∀ form ∈ expected, ∃ item ∈ actual, (item == form) = true) :
    sameMultiset actual expected = true := by
  rw [sameMultiset_comm]
  refine sameMultiset_iff_count.mpr ⟨same.symm, fun form inside => ?_, fun value => ?_⟩
  · obtain ⟨item, -, equal⟩ := all form inside
    exact beq_congr equal form ▸ equal
  · rcases Nat.eq_zero_or_pos (expected.countP (· == value)) with none | some
    · exact none ▸ Nat.zero_le _
    · obtain ⟨form, inside, equal⟩ := List.countP_pos_iff.mp some
      obtain ⟨item, inside', equal'⟩ := all form inside
      have present : 0 < actual.countP (· == value) :=
        List.countP_pos_iff.mpr ⟨item, inside', beq_trans equal' equal⟩
      exact (countP_le_one apart value).trans present

end FluentAssert.Canonical
