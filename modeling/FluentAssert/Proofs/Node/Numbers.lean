import FluentAssert.Proofs.Node.Reduction
import FluentAssert.Proofs.Number.Worth
import FluentAssert.Proofs.Session.Views

/-! Checks of numbers. With a finite argument of any numeric type they compare what the two numbers
are worth. An argument that is infinite or no number is refused, whatever number is under test. -/
namespace FluentAssert

namespace Native

/-- A finite number of any numeric type, and the double that it is compared as. -/
inductive Numeral : Native → Double → Prop where
  | double {x : Double} (finite : x.isFinite = true) : Numeral (.double x) x
  | single {x : Single} (finite : x.isFinite = true) : Numeral (.single x) (x.convert .double)
  | integer {width : Width} {n : Int} (fits : width.Holds n) :
    Numeral (.integer width n fits) (Double.ofInt n)

/-- A floating-point number that is not finite. -/
inductive Boundless : Native → Prop where
  | double {x : Double} (beyond : x.isFinite = false) : Boundless (.double x)
  | single {x : Single} (beyond : x.isFinite = false) : Boundless (.single x)

end Native

theorem Width.Holds.small {width : Width} {n : Int} (fits : width.Holds n) :
    n.natAbs < 2 ^ 128 := by
  cases width with
  | i8 | i16 | i32 | i64 | i128 | u8 | u16 | u32 | u64 | u128 =>
    simp [Width.Holds, Width.signed, Width.bits] at fits
    omega

namespace Native

variable {e : Native} {y : Double}

theorem Numeral.canonical (numeral : e.Numeral y) : Canonical.ofNative e = .ok (.number y) := by
  cases numeral with
  | double finite => rw [Canonical.ofNative, Canonical.ofDouble, if_pos finite]
  | single finite =>
    rw [Canonical.ofNative, Canonical.ofDouble, if_pos ((Single.convert_finite _).trans finite)]
  | integer fits =>
    rw [Canonical.ofNative, Canonical.ofDouble, if_pos (Double.ofInt_finite fits.small)]

theorem Boundless.canonical (boundless : e.Boundless) : Canonical.ofNative e = .ok .null := by
  cases boundless with
  | double beyond => simp [Canonical.ofNative, Canonical.ofDouble, beyond]
  | single beyond =>
    have beyond' := (Single.convert_finite _).trans beyond
    simp [Canonical.ofNative, Canonical.ofDouble, beyond']

theorem Boundless.no_number (boundless : e.Boundless) :
    ¬ ∃ y, Canonical.ofNative e = .ok (.number y) := by
  simp [boundless.canonical]

end Native

namespace NumberNode

open Binary

inductive Relation where
  | equal | notEqual | greater | atLeast | less | atMost

/-- The check of a number for this relation to an argument. -/
def Relation.check : Relation → Native → Check
  | .equal => .isEqual
  | .notEqual => .notEqual
  | .greater => .greater
  | .atLeast => .atLeast
  | .less => .less
  | .atMost => .atMost

/-- The relation of floating-point numbers, where what is no number differs from all and has no
other relation to any. -/
def Relation.Holds : Relation → Double → Double → Prop
  | .equal, x, y => Compares (· = ·) x y
  | .notEqual, x, y => ¬ Compares (· = ·) x y
  | .greater, x, y => Compares (· > ·) x y
  | .atLeast, x, y => Compares (· ≥ ·) x y
  | .less, x, y => Compares (· < ·) x y
  | .atMost, x, y => Compares (· ≤ ·) x y

theorem judges_relation (held : Double) (relation : Relation) (e : Native) :
    Judges (fun _ id => (relation.check e).perform ⟨id, held⟩)
      (∃ y, Canonical.ofNative e = .ok (.number y) ∧ relation.Holds held y) := by
  cases relation with
  | equal =>
    simp only [Relation.check, Check.perform, isEqual, Relation.Holds, ← equal_iff_worth]
    exact judges_compare ..
  | notEqual =>
    simp only [Relation.check, Check.perform, notEqual, Relation.Holds, ← equal_iff_worth]
    exact (judges_compare ..).congr (by simp)
  | greater =>
    simp only [Relation.check, Check.perform, greater, Relation.Holds, gt_iff_lt,
      ← Compares.swap, ← less_iff_worth]
    exact judges_compare ..
  | atLeast =>
    simp only [Relation.check, Check.perform, atLeast, Relation.Holds, ge_iff_le,
      ← Compares.swap, ← atMost_iff_worth]
    exact judges_compare ..
  | less =>
    simp only [Relation.check, Check.perform, less, Relation.Holds, ← less_iff_worth]
    exact judges_compare ..
  | atMost =>
    simp only [Relation.check, Check.perform, atMost, Relation.Holds, ← atMost_iff_worth]
    exact judges_compare ..

theorem judges_within (held : Double) (low high : Native) :
    Judges (fun _ id => inRange ⟨id, held⟩ low high)
      ((∃ x, Canonical.ofNative low = .ok (.number x) ∧ Compares (· ≤ ·) x held) ∧
        ∃ y, Canonical.ofNative high = .ok (.number y) ∧ Compares (· ≤ ·) held y) := by
  simp only [← atMost_iff_worth]
  exact judges_inRange held low high

/-- How a number is entered and compared from here. -/
structure Compared (here : Standpoint) (x : Double) : Prop where
  entered : ∀ (session : Session here.ω) (world : World here.ω),
    Leads session.chain world (session.number x) x []
  relation : ∀ relation e y, Native.Numeral e y →
    (here.Passes (fun _ id => (Relation.check relation e).perform ⟨id, x⟩) ↔ relation.Holds x y)
  range : ∀ low high a b, Native.Numeral low a → Native.Numeral high b →
    (here.Passes (fun _ id => inRange ⟨id, x⟩ low high) ↔
      Compares (· ≤ ·) a x ∧ Compares (· ≤ ·) x b)
  self : x.isFinite = true →
    (∀ relation ∈ [Relation.equal, .atLeast, .atMost],
      here.Passes fun _ id => (relation.check (.double x)).perform ⟨id, x⟩) ∧
    (here.Passes fun _ id => inRange ⟨id, x⟩ (.double x) (.double x)) ∧
    here.Passes fun _ id => inList ⟨id, x⟩ [.double x]
  /-- Every check refuses what is not finite, also where the relation is one of the numbers. -/
  refused : ∀ e, Native.Boundless e →
    (∀ relation, here.Fails fun _ id => (Relation.check relation e).perform ⟨id, x⟩) ∧
    (∀ other, here.Fails fun _ id => inRange ⟨id, x⟩ e other) ∧
    (∀ other, here.Fails fun _ id => inRange ⟨id, x⟩ other e) ∧
    ∀ values, e ∈ values → here.Fails fun _ id => inList ⟨id, x⟩ values

variable {here : Standpoint} {x y : Double} {e : Native}

theorem number_entered (x : Double) (session : Session here.ω) (world : World here.ω) :
    Leads session.chain world (session.number x) x [] := by
  let landing : Landing Double := ⟨"number()", [], .nil, x⟩
  have whole : session.number x = (session.chain.spawn >>= landing.perform) := by
    simp only [Session.number, Session.enter]
    rfl
  rw [whole]
  exact landing.leads_child session.chain world

theorem passes_numeral (relation : Relation) (numeral : e.Numeral y) :
    here.Passes (fun _ id => (relation.check e).perform ⟨id, x⟩) ↔ relation.Holds x y := by
  rw [(judges_relation x relation e).passes_iff, numeral.canonical]
  simp

theorem Relation.holds_self (finite : x.isFinite = true) :
    ∀ relation ∈ [Relation.equal, .atLeast, .atMost], relation.Holds x x := by
  simp only [List.forall_mem_cons, Relation.Holds]
  exact ⟨.refl (fun _ => rfl) finite, .refl le_refl finite, .refl le_refl finite, nofun⟩

theorem compared (here : Standpoint) (x : Double) : Compared here x where
  entered := number_entered x
  relation relation e y numeral := passes_numeral relation numeral
  range low high a b numeral numeral' := by
    rw [(judges_within x low high).passes_iff, numeral.canonical, numeral'.canonical]
    simp
  self finite := by
    have numeral : Native.Numeral (.double x) x := .double finite
    have equal : x.equal x = true := equal_iff_worth.mpr (.refl (fun _ => rfl) finite)
    have most : Compares (· ≤ ·) x x := .refl le_refl finite
    refine ⟨fun relation member => ?_, ?_, ?_⟩
    · exact (passes_numeral relation numeral).mpr (Relation.holds_self finite relation member)
    · rw [(judges_within x _ _).passes_iff]
      exact ⟨⟨x, numeral.canonical, most⟩, x, numeral.canonical, most⟩
    · rw [(judges_inList x _).passes_iff]
      simpa [numeral.canonical] using equal
  refused e boundless := by
    refine ⟨fun relation => ?_, fun other => ?_, fun other => ?_, fun values member => ?_⟩
    · rw [(judges_relation x relation e).fails_iff]
      exact fun ⟨y, canonical, _⟩ => boundless.no_number ⟨y, canonical⟩
    · rw [(judges_within x e other).fails_iff]
      exact fun ⟨⟨y, canonical, _⟩, _⟩ => boundless.no_number ⟨y, canonical⟩
    · rw [(judges_within x other e).fails_iff]
      exact fun ⟨_, y, canonical, _⟩ => boundless.no_number ⟨y, canonical⟩
    · rw [(judges_inList x values).fails_iff]
      exact fun ⟨_, numbers, _⟩ => boundless.no_number (numbers e member)

/-- Three beside a byte and a negative integer of 128 bits. -/
theorem compared_three :
    let world : World Unit := { World.start () with chains := #[⟨none, [], false, ⟨0⟩, ⟨0⟩⟩] }
    let here : Standpoint := ⟨world, ⟨0⟩, rfl⟩
    let x : Double := Double.ofInt 3
    (here.Passes fun _ id => isEqual ⟨id, x⟩ (.integer .u8 3 (by decide))) ∧
      (here.Passes fun _ id => greater ⟨id, x⟩ (.integer .i128 (-2) (by decide))) ∧
      here.Fails fun _ id => less ⟨id, x⟩ (.double (.infinite false)) := by
  intro world here x
  have finite : x.isFinite = true := Double.ofInt_finite (by decide)
  have above : (Double.ofInt (-2)).less x = true := by decide +kernel
  have all : Compared here x := compared here x
  refine ⟨?_, ?_, (all.refused _ (.double rfl)).1 .less⟩
  · exact (all.relation .equal _ _ (.integer _)).mpr (.refl (fun _ => rfl) finite)
  · exact (all.relation .greater _ _ (.integer _)).mpr (Compares.swap.mp (less_iff_worth.mp above))

/-- An infinity is equal to itself, but there is no asking for it. -/
theorem infinite_refused :
    let world : World Unit := { World.start () with chains := #[⟨none, [], false, ⟨0⟩, ⟨0⟩⟩] }
    let here : Standpoint := ⟨world, ⟨0⟩, rfl⟩
    let x : Double := .infinite false
    Relation.equal.Holds x x ∧
      here.Fails fun _ id => isEqual ⟨id, x⟩ (.double x) := by
  intro world here x
  refine ⟨⟨_, _, rfl, rfl, rfl⟩, ?_⟩
  rw [(judges_isEqual x _).fails_iff]
  have boundless : Native.Boundless (.double x) := .double rfl
  exact fun ⟨y, canonical, _⟩ => boundless.no_number ⟨y, canonical⟩

end NumberNode
end FluentAssert
