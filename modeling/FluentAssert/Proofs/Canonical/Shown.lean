import FluentAssert.Canonical.Document
import FluentAssert.Proofs.Canonical.Idempotence
import FluentAssert.Proofs.Number.Worth
import FluentAssert.Proofs.Session.Views

/-! Values as they are shown. A whole number below a bound is shown as an integer and any other as a
real, so one number has one document, of whichever sign its zero is. Values are shown as the same
document just if they are equal. -/
namespace FluentAssert

namespace Binary

variable {f : Format} {x y : Binary f}

/-- Equal finite numbers are the same, except for the signs of zeros. -/
theorem same_of_equal (finite : x.isFinite = true) (finite' : y.isFinite = true)
    (equal : x.equal y = true) : x = y ∨ ∃ s t, x = zero s ∧ y = zero t := by
  obtain ⟨rank, left, right⟩ := equal_iff.mp equal
  cases x with
  | nan | infinite => cases finite
  | finite s m fits =>
    cases y with
    | nan | infinite => cases finite'
    | finite t n fits' =>
      have ranks : withSign s m = withSign t n := Option.some.inj (left.trans right.symm)
      cases s <;> cases t <;> simp only [withSign, Bool.false_eq_true, if_true, if_false] at ranks
      · left
        have units : m = n := by omega
        subst units
        rfl
      · right
        have units : m = 0 ∧ n = 0 := by omega
        obtain ⟨rfl, rfl⟩ := units
        exact ⟨_, _, rfl, rfl⟩
      · right
        have units : m = 0 ∧ n = 0 := by omega
        obtain ⟨rfl, rfl⟩ := units
        exact ⟨_, _, rfl, rfl⟩
      · left
        have units : m = n := by omega
        subst units
        rfl

theorem natAbs_withSign (negative : Bool) (n : Nat) : (withSign negative n).natAbs = n := by
  cases negative <;> simp [withSign]

/-- A whole number comes back from the integer that it is, but for the sign of zero. -/
theorem ofInt_toInt? {n : Int} (whole : x.toInt? = some n) : (ofInt f n).equal x = true := by
  cases x with
  | nan | infinite => cases whole
  | finite s units fits =>
    simp only [toInt?] at whole
    split at whole
    · rename_i divides
      have value : withSign s (units / f.one) = n := Option.some.inj whole
      have parts : units / f.one * f.one = units := Nat.div_mul_cancel (Nat.dvd_of_mod_eq_zero divides)
      have magnitude : n.natAbs = units / f.one := by
        rw [← value, natAbs_withSign]
      have exact : f.round (n.natAbs * f.one) 1 = units := by
        rw [magnitude, parts]
        exact Format.round_exact Nat.one_pos (Nat.mul_one _).symm (Nat.dvd_of_mod_eq_zero fits.2)
      have fits' : f.Fits (f.round (n.natAbs * f.one) 1) := exact ▸ fits
      have number : ofInt f n = .finite (decide (n < 0)) _ fits' := by
        simp only [ofInt, ofRatio, ofUnits, dif_pos fits']
      have signed : withSign (decide (n < 0)) units = withSign s units := by
        rw [← parts, ← withSign_mul, ← withSign_mul, ← magnitude, withSign_natAbs, magnitude, value]
      rw [number]
      refine equal_iff.mpr ⟨_, rfl, ?_⟩
      rw [rank, exact, signed]
    · cases whole

end Binary

namespace Json

mutual

/-- Equality of documents. No integer equals a real, and reals compare as numbers. -/
def equal : Json → Json → Bool
  | .null, .null => true
  | .bool a, .bool b => a == b
  | .integer m, .integer n => m == n
  | .real x, .real y => x.equal y
  | .text a, .text b => a == b
  | .list xs, .list ys => equalItems xs ys
  | .object fs, .object gs => equalFields fs gs
  | _, _ => false

def equalItems : List Json → List Json → Bool
  | [], [] => true
  | x :: xs, y :: ys => equal x y && equalItems xs ys
  | _, _ => false

def equalFields : List (String × Json) → List (String × Json) → Bool
  | [], [] => true
  | (k, x) :: fs, (l, y) :: gs => k == l && equal x y && equalFields fs gs
  | _, _ => false

end

end Json

section Lists

variable {α β : Type} {R S : α → β → Prop} {items : List α} {others : List β}

theorem forall₂_of_mem (related : List.Forall₂ R items others)
    (follows : ∀ item ∈ items, ∀ other ∈ others, R item other → S item other) :
    List.Forall₂ S items others := by
  induction related with
  | nil => exact .nil
  | cons first _ ih =>
    simp only [List.forall_mem_cons] at follows
    exact .cons (follows.1.1 first) (ih fun item inside => (follows.2 item inside).2)

theorem forall₂_congr_of_mem (same : ∀ item ∈ items, ∀ other ∈ others, (R item other ↔ S item other)) :
    List.Forall₂ R items others ↔ List.Forall₂ S items others :=
  ⟨fun related => forall₂_of_mem related fun item inside other inside' =>
      (same item inside other inside').mp,
    fun related => forall₂_of_mem related fun item inside other inside' =>
      (same item inside other inside').mpr⟩

end Lists

namespace Json

theorem equalItems_iff {items others : List Json} : equalItems items others = true ↔
    List.Forall₂ (fun item other => item.equal other = true) items others := by
  induction items generalizing others with
  | nil => cases others <;> simp [equalItems]
  | cons item rest ih => cases others <;> simp [equalItems, ih]

theorem equalFields_iff {fields others : List (String × Json)} : equalFields fields others = true ↔
    List.Forall₂ (fun field other => field.1 = other.1 ∧ field.2.equal other.2 = true)
      fields others := by
  induction fields generalizing others with
  | nil => cases others <;> simp [equalFields]
  | cons field rest ih => cases others <;> simp [equalFields, ih]

end Json

namespace Canonical

theorem documentItems_eq_map (ofNumber : Double → Json) (items : List Canonical) :
    documentItems ofNumber items = items.map (document ofNumber) := by
  induction items with
  | nil => rfl
  | cons item rest ih => rw [documentItems, ih, List.map_cons]

theorem documentFields_eq_map (ofNumber : Double → Json) (fields : Fields Canonical) :
    documentFields ofNumber fields = fields.map fun field => (field.1, document ofNumber field.2) := by
  induction fields with
  | nil => rfl
  | cons field rest ih => rw [documentFields, ih, List.map_cons]

theorem ofJsonItems_eq_map (items : List Json) : ofJsonItems items = items.map ofJson := by
  induction items with
  | nil => rfl
  | cons item rest ih => rw [ofJsonItems, ih, List.map_cons]

theorem ofJsonFields_eq_map (fields : List (String × Json)) :
    ofJsonFields fields = fields.map fun field => (field.1, ofJson field.2) := by
  induction fields with
  | nil => rfl
  | cons field rest ih => rw [ofJsonFields, ih, List.map_cons]

theorem finite_array {items : List Canonical} :
    (array items).finite = true ↔ ∀ item ∈ items, item.finite = true := by
  refine ⟨fun finite => ?_, finiteItems_of_all⟩
  induction items with
  | nil => simp
  | cons item rest ih =>
    obtain ⟨first, others⟩ : item.finite = true ∧ finiteItems rest = true := by
      simpa [Canonical.finite, finiteItems] using finite
    exact List.forall_mem_cons.mpr ⟨first, ih others⟩

theorem finite_object {fields : Fields Canonical} :
    (object fields).finite = true ↔ ∀ field ∈ fields, field.2.finite = true := by
  refine ⟨fun finite => ?_, finiteFields_of_all⟩
  induction fields with
  | nil => simp
  | cons field rest ih =>
    obtain ⟨first, others⟩ : field.2.finite = true ∧ finiteFields rest = true := by
      simpa [Canonical.finite, finiteFields] using finite
    exact List.forall_mem_cons.mpr ⟨first, ih others⟩

section Numbers

variable {x y : Double}

theorem shownNumber_cases (finite : x.isFinite = true) :
    (∃ n, x.toInt? = some n ∧ shownNumber x = .integer n) ∨ shownNumber x = .real x := by
  unfold shownNumber plainNumber
  rw [if_pos finite]
  cases whole : x.toInt? with
  | none => exact .inr rfl
  | some n =>
    by_cases small : x.abs.less shownWholeBelow = true
    · exact .inl ⟨n, rfl, if_pos small⟩
    · exact .inr (if_neg small)

theorem shownNumber_zero (negative : Bool) : shownNumber (Binary.zero negative) = .integer 0 := by
  have whole : (Binary.zero negative : Double).toInt? = some 0 := by
    cases negative <;> simp [Binary.toInt?, Binary.zero, Binary.withSign]
  have small : (Binary.zero negative : Double).abs.less shownWholeBelow = true := by
    cases negative <;> decide +kernel
  simp only [shownNumber, whole, if_pos small]

theorem shownNumber_congr (finite : x.isFinite = true) (finite' : y.isFinite = true)
    (equal : x.equal y = true) : shownNumber x = shownNumber y := by
  rcases Binary.same_of_equal finite finite' equal with rfl | ⟨s, t, rfl, rfl⟩
  · rfl
  · rw [shownNumber_zero, shownNumber_zero]

theorem ofJson_shownNumber (finite : x.isFinite = true) :
    (ofJson (shownNumber x) == number x) = true := by
  rcases shownNumber_cases finite with ⟨n, whole, shown⟩ | shown
  · rw [shown, ofJson]
    exact number_beq.mpr ⟨x, rfl, Binary.ofInt_toInt? whole⟩
  · rw [shown, ofJson, if_pos finite]
    refine number_beq.mpr ⟨x, rfl, Binary.equal_self ?_⟩
    rintro rfl
    cases finite

theorem equal_shownNumber (finite : x.isFinite = true) (finite' : y.isFinite = true) :
    (shownNumber x).equal (shownNumber y) = x.equal y := by
  rw [Bool.eq_iff_iff]
  constructor
  · intro equal
    have left := ofJson_shownNumber finite
    have right := ofJson_shownNumber finite'
    rcases shownNumber_cases finite with ⟨m, -, shown⟩ | shown <;>
      rcases shownNumber_cases finite' with ⟨n, -, shown'⟩ | shown' <;> rw [shown, shown'] at equal
    · have same : shownNumber x = shownNumber y := by
        rw [shown, shown', eq_of_beq equal]
      rw [same, beq_comm] at left
      obtain ⟨z, there, equal⟩ := number_beq.mp (beq_trans left right)
      cases there
      exact equal
    · cases equal
    · cases equal
    · exact equal
  · intro equal
    rw [← shownNumber_congr finite finite' equal]
    rcases shownNumber_cases finite with ⟨n, -, shown⟩ | shown <;> rw [shown]
    · exact beq_self_eq_true n
    · exact Binary.equal_trans equal (Binary.equal_comm x y ▸ equal)

theorem unequal_shownNumber {other : Canonical} (finite : x.isFinite = true)
    (none : other.number? = none) :
    (shownNumber x).equal other.shown = false ∧ other.shown.equal (shownNumber x) = false := by
  rcases shownNumber_cases finite with ⟨n, -, shown⟩ | shown <;> rw [shown] <;> cases other with
  | number => cases none
  | null | bool | text | array | object => exact ⟨rfl, rfl⟩

end Numbers

theorem shown_array (items : List Canonical) : (array items).shown = .list (items.map shown) :=
  congrArg Json.list (documentItems_eq_map shownNumber items)

theorem shown_object (fields : Fields Canonical) :
    (object fields).shown = .object (fields.map fun field => (field.1, field.2.shown)) :=
  congrArg Json.object (documentFields_eq_map shownNumber fields)

theorem array_beq_array {items others : List Canonical} : (array items == array others) = true ↔
    List.Forall₂ (fun item other => (item == other) = true) items others :=
  equalItems_iff

theorem object_beq_object {fields others : Fields Canonical} :
    (object fields == object others) = true ↔
      List.Forall₂ (fun field other => field.1 = other.1 ∧ (field.2 == other.2) = true)
        fields others :=
  equalFields_iff

theorem shown_congr {a b : Canonical} (finite : a.finite = true) (finite' : b.finite = true)
    (equal : (a == b) = true) : a.shown = b.shown := by
  induction a generalizing b with
  | null => rw [null_beq.mp equal]
  | bool v => rw [bool_beq.mp equal]
  | text s => rw [text_beq.mp equal]
  | number x =>
    obtain ⟨y, rfl, equal⟩ := number_beq.mp equal
    exact shownNumber_congr finite finite' equal
  | array items ih =>
    cases b with
    | null | bool | number | text | object => cases equal
    | array others =>
      rw [finite_array] at finite finite'
      rw [shown_array, shown_array, Json.list.injEq, ← List.forall₂_eq_eq_eq,
        List.forall₂_map_left_iff, List.forall₂_map_right_iff]
      refine forall₂_of_mem (array_beq_array.mp equal) fun item inside other inside' => ?_
      exact ih item inside (finite item inside) (finite' other inside')
  | object fields ih =>
    cases b with
    | null | bool | number | text | array => cases equal
    | object others =>
      rw [finite_object] at finite finite'
      rw [shown_object, shown_object, Json.object.injEq, ← List.forall₂_eq_eq_eq,
        List.forall₂_map_left_iff, List.forall₂_map_right_iff]
      refine forall₂_of_mem (object_beq_object.mp equal) ?_
      rintro field inside other inside' ⟨key, equal⟩
      rw [Prod.mk.injEq]
      exact ⟨key, ih field inside (finite field inside) (finite' other inside') equal⟩

theorem equal_shown {a b : Canonical} (finite : a.finite = true) (finite' : b.finite = true) :
    a.shown.equal b.shown = (a == b) := by
  induction a generalizing b with
  | null | bool | text =>
    cases b with
    | number y => exact (unequal_shownNumber finite' rfl).2
    | null | bool | text | array | object => rfl
  | number x =>
    cases b with
    | number y => exact equal_shownNumber finite finite'
    | null | bool | text | array | object => exact (unequal_shownNumber finite rfl).1
  | array items ih =>
    cases b with
    | number y => exact (unequal_shownNumber finite' rfl).2
    | null | bool | text | object => rfl
    | array others =>
      rw [finite_array] at finite finite'
      rw [shown_array, shown_array, Json.equal, Bool.eq_iff_iff, Json.equalItems_iff,
        List.forall₂_map_left_iff, List.forall₂_map_right_iff, array_beq_array]
      refine forall₂_congr_of_mem fun item inside other inside' => ?_
      rw [ih item inside (finite item inside) (finite' other inside')]
  | object fields ih =>
    cases b with
    | number y => exact (unequal_shownNumber finite' rfl).2
    | null | bool | text | array => rfl
    | object others =>
      rw [finite_object] at finite finite'
      rw [shown_object, shown_object, Json.equal, Bool.eq_iff_iff, Json.equalFields_iff,
        List.forall₂_map_left_iff, List.forall₂_map_right_iff, object_beq_object]
      refine forall₂_congr_of_mem fun field inside other inside' => ?_
      rw [ih field inside (finite field inside) (finite' other inside')]

theorem ofJson_shown {value : Canonical} (finite : value.finite = true) :
    (ofJson value.shown == value) = true := by
  induction value with
  | null => rfl
  | bool b => exact bool_beq.mpr rfl
  | text s => exact text_beq.mpr rfl
  | number x => exact ofJson_shownNumber finite
  | array items ih =>
    rw [finite_array] at finite
    rw [shown_array, ofJson, ofJsonItems_eq_map, array_beq_array, List.map_map,
      List.forall₂_map_left_iff, List.forall₂_same]
    exact fun item inside => ih item inside (finite item inside)
  | object fields ih =>
    rw [finite_object] at finite
    rw [shown_object, ofJson, ofJsonFields_eq_map, object_beq_object, List.map_map,
      List.forall₂_map_left_iff, List.forall₂_same]
    exact fun field inside => ⟨rfl, ih field inside (finite field inside)⟩

theorem shown_inj {a b : Canonical} (finite : a.finite = true) (finite' : b.finite = true) :
    a.shown = b.shown ↔ (a == b) = true := by
  refine ⟨fun same => ?_, shown_congr finite finite'⟩
  have left := ofJson_shown finite
  rw [same, beq_comm] at left
  exact beq_trans left (ofJson_shown finite')

end Canonical

/-- What an equality check finds with an expected value. -/
def equality (actual : Canonical) (error : String) (expected : Canonical) : Finding :=
  ((Finding.check .equal (actual == expected) error).withActual actual).withExpected expected

/-- The run comes to one finding with both values, and it passes just if they are shown alike. -/
def DecidedByShown (body : ∀ ω : Type, ChainId → Run ω Unit) (actual expected : Canonical) : Prop :=
  ∃ finding, Tests body finding ∧ finding.actual = some actual ∧ finding.expected = [expected] ∧
    (finding.passed = true ↔ actual.shown = expected.shown)

theorem DecidedByShown.of_tests {body : ∀ ω : Type, ChainId → Run ω Unit}
    {actual expected : Canonical} {error : String} (tests : Tests body (equality actual error expected))
    (finite : actual.finite = true) (finite' : expected.finite = true) :
    DecidedByShown body actual expected := by
  refine ⟨_, tests, rfl, ?_, ?_⟩
  · rw [equality]
    cases actual == expected <;> rfl
  · rw [equality, Finding.passed_withExpected, Finding.passed_withActual, Finding.passed_check,
      Canonical.shown_inj finite finite']

theorem ValueNode.isEqual_shown {held form : Canonical} {expected : Native}
    (finite : held.finite = true) (canonical : Canonical.ofNative expected = .ok form) :
    DecidedByShown (fun _ id => ValueNode.isEqual ⟨id, held⟩ expected) held form := by
  have tests := Tests.argument "is_equal()" held canonical (equality held "expected: values are equal")
  exact .of_tests tests finite (Canonical.proper_ofNative canonical).finite

theorem NumberNode.tests_isEqual (held : Double) {y : Double} {expected : Native}
    (canonical : Canonical.ofNative expected = .ok (.number y)) :
    Tests (fun _ id => isEqual ⟨id, held⟩ expected)
      (equality (.number held) "expected: numbers are equal" (.number y)) := by
  have tests : Tests (fun _ id => isEqual ⟨id, held⟩ expected) (.given expected.numberArgument
      fun y => equality (.number held) "expected: numbers are equal" (.number y)) := by
    simp only [isEqual, compare]
    exact .checkLive "is_equal()" held
      (.bind (.numberArgument expected) (fun y => .report _) (.pure ()))
  rwa [Native.numberArgument_ok.mpr canonical] at tests

theorem Comparison.check_shown {kind : NodeKind} (comparison : Comparison kind) {held : Held kind}
    {form : Canonical} (finite : (comparison.whole held).finite = true)
    (canonical : Canonical.ofNative comparison.expected = .ok form)
    (numbers : kind = .number → ∃ y, form = .number y) :
    DecidedByShown (fun _ id => comparison.check.perform ⟨id, held⟩) (comparison.whole held)
      form := by
  have finite' := (Canonical.proper_ofNative canonical).finite
  cases comparison with
  | array expected =>
    have tests := Tests.argument "is_equal()" held canonical
      (equality (.array held) "expected: arrays are equal")
    exact .of_tests tests finite finite'
  | object expected =>
    have tests := Tests.argument "is_equal()" held canonical
      (equality (.object held) "expected: objects are equal")
    exact .of_tests tests finite finite'
  | number expected =>
    obtain ⟨y, rfl⟩ := numbers rfl
    exact .of_tests (NumberNode.tests_isEqual held canonical) finite finite'
  | string expected =>
    cases canonical
    have tests := Tests.check "is_equal()" held
      (equality (.text held) "expected: strings are equal" (.text expected))
    exact .of_tests tests finite finite'
  | boolean expected =>
    cases canonical
    have tests := Tests.check "is_equal()" held
      (equality (.bool held) ("expected: boolean is " ++ toString expected) (.bool expected))
    exact .of_tests tests finite finite'

/-- What is shown of finite values tells just as much as equality: equal values are shown as one
document, unequal ones as documents that differ, and the document stands for a value that equals
the shown one. So an equality check passes just if the two values in its finding are shown alike. -/
theorem Canonical.shown_faithful :
    (∀ a b : Canonical, a.finite = true → b.finite = true →
      (a.shown = b.shown ↔ (a == b) = true) ∧ a.shown.equal b.shown = (a == b) ∧
      (ofJson a.shown == a) = true) ∧
    (∀ (held form : Canonical) (expected : Native), held.finite = true →
      ofNative expected = .ok form →
      DecidedByShown (fun _ id => ValueNode.isEqual ⟨id, held⟩ expected) held form) ∧
    ∀ (kind : NodeKind) (comparison : Comparison kind) (held : Held kind) (form : Canonical),
      (comparison.whole held).finite = true → ofNative comparison.expected = .ok form →
      (kind = .number → ∃ y, form = number y) →
      DecidedByShown (fun _ id => comparison.check.perform ⟨id, held⟩) (comparison.whole held)
        form :=
  ⟨fun _ _ finite finite' =>
      ⟨shown_inj finite finite', equal_shown finite finite', ofJson_shown finite⟩,
    fun _ _ _ finite canonical => ValueNode.isEqual_shown finite canonical,
    fun _ comparison _ _ finite canonical numbers =>
      comparison.check_shown finite canonical numbers⟩

/-- Zeros of both signs are shown alike, and numbers past the bound for whole numbers apart. -/
theorem Canonical.shown_faithful_large :
    let large : Double := .ofNat (10 ^ 16)
    let next : Double := .ofNat (10 ^ 16 + 2)
    let a := array [object [("k", number (.zero true))], number large]
    let b := array [object [("k", number (.zero false))], number large]
    (a.shown = b.shown ∧ (ofJson a.shown == a) = true) ∧
    DecidedByShown (fun _ id => ValueNode.isEqual ⟨id, a⟩ (.ofCanonical b)) a b ∧
    DecidedByShown (fun _ id => NumberNode.isEqual ⟨id, large⟩ (.double next)) (number large)
      (number next) ∧ (number large).shown ≠ (number next).shown := by
  intro large next a b
  have finite : a.finite = true := by decide +kernel
  have finite' : b.finite = true := by decide +kernel
  have finiteLarge : (number large).finite = true := by decide +kernel
  have finiteNext : (number next).finite = true := by decide +kernel
  have equal : (a == b) = true := by decide +kernel
  have unequal : (number large == number next) = false := by decide +kernel
  have proper : Proper b := by
    apply Proper.array
    simp only [List.forall_mem_cons, List.not_mem_nil, false_imp_iff, implies_true, and_true]
    refine ⟨.object Fields.ordered_one ?_, .number finiteLarge⟩
    simpa using Proper.number (show (Binary.zero false : Double).isFinite = true from rfl)
  have canonical : ofNative (.double next) = .ok (number next) :=
    congrArg Except.ok (if_pos finiteNext)
  obtain ⟨values, checks, comparisons⟩ := shown_faithful
  obtain ⟨shown, -, back⟩ := values a b finite finite'
  refine ⟨⟨shown.mpr equal, back⟩, checks a b _ finite proper.ofNative_ofCanonical, ?_, ?_⟩
  · exact comparisons .number (.number (.double next)) large (number next) finiteLarge canonical
      fun _ => ⟨next, rfl⟩
  · rw [Ne, (values _ _ finiteLarge finiteNext).1, unequal]
    exact Bool.false_ne_true

end FluentAssert
