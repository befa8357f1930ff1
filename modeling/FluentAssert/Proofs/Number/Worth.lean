import Mathlib.Algebra.Order.Field.Basic
import Mathlib.Algebra.Order.Field.Rat
import Mathlib.Order.WithBot
import Mathlib.Tactic.FieldSimp
import FluentAssert.Proofs.Number.Whole

/-! What numbers are worth. All but NaN stand for a rational or for an infinity, their comparisons
are the order of what they stand for, and a whole number is rounded to one that is as near as any.
-/
namespace FluentAssert

theorem roundHalfEven_near {step : Nat} (positive : 0 < step) (num k : Nat) :
    |((roundHalfEven num step * step : Nat) : Int) - num| ≤ |((k * step : Nat) : Int) - num| := by
  have parts : step * (num / step) + num % step = num := Nat.div_add_mod num step
  have rest : num % step < step := Nat.mod_lt num positive
  have found : roundHalfEven num step * step = step * (num / step) ∧ 2 * (num % step) ≤ step ∨
      roundHalfEven num step * step = step * (num / step) + step ∧ step ≤ 2 * (num % step) := by
    simp only [roundHalfEven]
    split
    · exact .inl ⟨Nat.mul_comm .., by omega⟩
    split
    · exact .inr ⟨by rw [Nat.add_mul, Nat.one_mul, Nat.mul_comm], by omega⟩
    rcases Nat.mod_two_eq_zero_or_one (num / step) with even | odd
    · exact .inl ⟨by rw [even, Nat.add_zero, Nat.mul_comm], by omega⟩
    · exact .inr ⟨by rw [odd, Nat.add_mul, Nat.one_mul, Nat.mul_comm], by omega⟩
  have other : k * step ≤ step * (num / step) ∨ step * (num / step) + step ≤ k * step := by
    rcases Nat.lt_or_ge (num / step) k with above | below
    · exact .inr (by
        rw [← Nat.mul_succ, Nat.mul_comm]
        exact Nat.mul_le_mul_right step above)
    · exact .inl (by
        rw [Nat.mul_comm]
        exact Nat.mul_le_mul_left step below)
  generalize roundHalfEven num step * step = nearest at found ⊢
  generalize k * step = multiple at other ⊢
  generalize step * (num / step) = low at *
  simp only [Int.abs_eq_natAbs]
  omega

namespace Format

theorem dvd_of_fits {f : Format} {k e : Nat} (fits : f.Fits k) (large : 2 ^ e ≤ k) :
    2 ^ (e + 1 - f.precision) ∣ k := by
  have log : e ≤ k.log2 := (Nat.le_log2 (by have := Nat.two_pow_pos e; omega)).mpr large
  have finer : e + 1 - f.precision ≤ f.gap k := by
    unfold Format.gap
    omega
  exact Nat.dvd_trans (Nat.pow_dvd_pow 2 finer) (Nat.dvd_of_mod_eq_zero fits.2)

theorem round_near {f : Format} (positive : 0 < f.precision) (num : Nat) {k : Nat}
    (fits : f.Fits k) : |(f.round num 1 : Int) - num| ≤ |(k : Int) - num| := by
  have unfolded : f.round num 1 = roundHalfEven num (2 ^ f.gap num) * 2 ^ f.gap num := by
    simp only [round, Nat.div_one, Nat.one_mul, Nat.pow_eq]
  have near (m : Nat) := roundHalfEven_near (Nat.two_pow_pos (f.gap num)) num m
  rw [← unfolded] at near
  by_cases small : f.gap num = 0
  · simpa [small] using near k
  · have digits : num ≠ 0 := by
      rintro rfl
      exact small (by simp only [gap, Nat.log2_zero]; omega)
    by_cases large : 2 ^ num.log2 ≤ k
    · obtain ⟨m, same⟩ := dvd_of_fits fits large
      rw [same, Nat.mul_comm]
      exact near m
    · -- What is smaller than the leading digit is no nearer than the leading digit alone.
      have leading : 2 ^ (num.log2 - f.gap num) * 2 ^ f.gap num = 2 ^ num.log2 := by
        rw [← Nat.pow_add]
        congr 1
        unfold Format.gap at *
        omega
      have nearest := near (2 ^ (num.log2 - f.gap num))
      rw [leading] at nearest
      have below : 2 ^ num.log2 ≤ num := Nat.log2_self_le digits
      generalize 2 ^ num.log2 = power at *
      simp only [Int.abs_eq_natAbs] at nearest ⊢
      omega

theorem round_exact {f : Format} {num den q : Nat} (positive : 0 < den) (whole : num = q * den)
    (grid : 2 ^ f.gap q ∣ q) : f.round num den = q := by
  have quotient : num / den = q := by rw [whole, Nat.mul_div_cancel q positive]
  have divides : den * 2 ^ f.gap q ∣ num := by
    rw [whole, Nat.mul_comm den]
    exact Nat.mul_dvd_mul_right grid den
  simp only [round, Nat.pow_eq, quotient]
  rw [roundHalfEven_dvd (Nat.mul_pos positive (Nat.two_pow_pos _)) divides,
    ← Nat.div_div_eq_div_mul, quotient, Nat.div_mul_cancel grid]

theorem fits_scaled {f g : Format} (digits : f.precision ≤ g.precision) (steps : f.scale ≤ g.scale)
    (room : f.ceiling ≤ g.ceiling) {units : Nat} (fits : f.Fits units) :
    g.Fits (units * 2 ^ (g.scale - f.scale)) := by
  generalize finer : g.scale - f.scale = e
  have within : units * 2 ^ e < g.limit := calc
    _ < f.limit * 2 ^ e := Nat.mul_lt_mul_of_pos_right fits.1 (Nat.two_pow_pos e)
    _ = 2 ^ (f.ceiling + f.scale + e) := (Nat.pow_add ..).symm
    _ ≤ g.limit := Nat.pow_le_pow_right (by decide) (by omega)
  refine ⟨within, Nat.mod_eq_zero_of_dvd ?_⟩
  by_cases zero : units = 0
  · rw [zero, Nat.zero_mul]
    exact Nat.dvd_zero _
  · have log : (units * 2 ^ e).log2 < units.log2 + 1 + e := by
      rw [Nat.log2_lt (Nat.mul_ne_zero zero (Nat.two_pow_pos e).ne'), Nat.pow_add]
      exact Nat.mul_lt_mul_of_pos_right Nat.lt_log2_self (Nat.two_pow_pos e)
    have coarser : g.gap (units * 2 ^ e) ≤ f.gap units + e := by
      unfold Format.gap
      omega
    refine Nat.dvd_trans (Nat.pow_dvd_pow 2 coarser) ?_
    rw [Nat.pow_add]
    exact Nat.mul_dvd_mul_right (Nat.dvd_of_mod_eq_zero fits.2) _

end Format

abbrev Extended := WithBot (WithTop ℚ)

def Extended.ofRat (q : ℚ) : Extended := ((q : WithTop ℚ) : WithBot (WithTop ℚ))

theorem Extended.ofRat_lt {q r : ℚ} : ofRat q < ofRat r ↔ q < r := by
  simp only [ofRat, WithBot.coe_lt_coe, WithTop.coe_lt_coe]

theorem Extended.ofRat_inj {q r : ℚ} : ofRat q = ofRat r ↔ q = r := by
  simp only [ofRat, WithBot.coe_inj, WithTop.coe_inj]

namespace Format

variable {f : Format}

theorem one_pos : (0 : ℚ) < f.one := by
  exact_mod_cast Nat.two_pow_pos f.scale

/-- Where the rank of a number lies among all rationals and the infinities. -/
def place (f : Format) (rank : Int) : Extended :=
  if (f.limit : Int) ≤ rank then ⊤
  else if rank ≤ -(f.limit : Int) then ⊥
  else .ofRat (rank / f.one)

theorem place_lt_place {a b : Int} (left : a.natAbs ≤ f.limit) (right : b.natAbs ≤ f.limit)
    (less : a < b) : f.place a < f.place b := by
  have below : ¬ (f.limit : Int) ≤ a := by omega
  have above : ¬ b ≤ -(f.limit : Int) := by omega
  have scaled : Extended.ofRat (a / f.one) < Extended.ofRat (b / f.one) :=
    Extended.ofRat_lt.mpr (div_lt_div_of_pos_right (by exact_mod_cast less) one_pos)
  simp only [place, if_neg below, if_neg above]
  split <;> split
  · exact WithBot.bot_lt_coe _
  · exact WithBot.bot_lt_coe _
  · exact WithBot.coe_lt_coe.mpr (WithTop.coe_lt_top _)
  · exact scaled

theorem place_lt_iff {a b : Int} (left : a.natAbs ≤ f.limit) (right : b.natAbs ≤ f.limit) :
    f.place a < f.place b ↔ a < b := by
  refine ⟨fun less => ?_, place_lt_place left right⟩
  rcases lt_trichotomy a b with before | rfl | behind
  · exact before
  · exact absurd less (lt_irrefl _)
  · exact absurd less (lt_asymm (place_lt_place right left behind))

theorem place_le_iff {a b : Int} (left : a.natAbs ≤ f.limit) (right : b.natAbs ≤ f.limit) :
    f.place a ≤ f.place b ↔ a ≤ b := by
  rw [← not_lt, place_lt_iff right left, not_lt]

theorem place_inj {a b : Int} (left : a.natAbs ≤ f.limit) (right : b.natAbs ≤ f.limit) :
    f.place a = f.place b ↔ a = b := by
  rw [le_antisymm_iff, le_antisymm_iff, place_le_iff left right, place_le_iff right left]

end Format

namespace Binary

variable {f g : Format} {x y : Binary f}

/-- What a number is worth: a rational or one of the infinities. -/
def worth : Binary f → Option Extended
  | .nan => none
  | .infinite true => some ⊥
  | .infinite false => some ⊤
  | .finite negative units _ => some (.ofRat (withSign negative units / f.one))

theorem withSign_range (negative : Bool) {units : Nat} (fits : f.Fits units) :
    withSign negative units < (f.limit : Int) ∧ -(f.limit : Int) < withSign negative units := by
  have below := fits.1
  cases negative <;> simp only [withSign] <;> omega

theorem natAbs_rank_le {a : Int} (ranked : x.rank = some a) : a.natAbs ≤ f.limit := by
  cases x with
  | nan => cases ranked
  | infinite negative =>
    cases ranked
    cases negative <;> simp [withSign]
  | finite negative units fits =>
    cases ranked
    have range := withSign_range negative fits
    omega

theorem worth_eq_place : x.worth = x.rank.map f.place := by
  have positive : (0 : Int) < f.limit := by exact_mod_cast Nat.two_pow_pos _
  cases x with
  | nan => rfl
  | infinite negative =>
    cases negative with
    | false => simp [worth, rank, withSign, Format.place]
    | true =>
      have low : ¬ (f.limit : Int) ≤ -(f.limit : Int) := by omega
      simp only [worth, rank, withSign, if_true, Option.map_some, Format.place, if_neg low, le_refl]
  | finite negative units fits =>
    obtain ⟨below, above⟩ := withSign_range negative fits
    simp only [worth, rank, Format.place, Option.map_some, if_neg (not_le.mpr below),
      if_neg (not_le.mpr above)]

/-- Both numbers are worth something, and what they are worth is related. -/
def Compares (related : Extended → Extended → Prop) (x y : Binary f) : Prop :=
  ∃ v w, x.worth = some v ∧ y.worth = some w ∧ related v w

theorem compareBy_iff {related : Int → Int → Bool} {related' : Extended → Extended → Prop}
    (alike : ∀ a b : Int, a.natAbs ≤ f.limit → b.natAbs ≤ f.limit →
      (related a b = true ↔ related' (f.place a) (f.place b))) :
    compareBy related x y = true ↔ Compares related' x y := by
  simp only [Compares, worth_eq_place, compareBy]
  cases left : x.rank with
  | none => simp
  | some a =>
    cases right : y.rank with
    | none => simp
    | some b => simpa using alike a b (natAbs_rank_le left) (natAbs_rank_le right)

theorem equal_iff_worth : x.equal y = true ↔ Compares (· = ·) x y :=
  compareBy_iff fun a b left right => by
    rw [beq_iff_eq, Format.place_inj left right]

theorem less_iff_worth : x.less y = true ↔ Compares (· < ·) x y :=
  compareBy_iff fun a b left right => by
    rw [decide_eq_true_iff, Format.place_lt_iff left right]

theorem atMost_iff_worth : x.atMost y = true ↔ Compares (· ≤ ·) x y :=
  compareBy_iff fun a b left right => by
    rw [decide_eq_true_iff, Format.place_le_iff left right]

theorem Compares.swap {related : Extended → Extended → Prop} :
    Compares related y x ↔ Compares (fun v w => related w v) x y := by
  constructor <;> exact fun ⟨v, w, left, right, holds⟩ => ⟨w, v, right, left, holds⟩

theorem isFinite_iff_worth : x.isFinite = true ↔ ∃ q, x.worth = some (.ofRat q) := by
  cases x with
  | nan => simp [isFinite, worth]
  | infinite negative => cases negative <;> simp [isFinite, worth, Extended.ofRat]
  | finite => simp [isFinite, worth, Extended.ofRat_inj]

theorem Compares.refl {related : Extended → Extended → Prop} (reflexive : ∀ w, related w w)
    (finite : x.isFinite = true) : Compares related x x := by
  obtain ⟨q, worth⟩ := isFinite_iff_worth.mp finite
  exact ⟨_, _, worth, worth, reflexive _⟩

theorem withSign_natAbs (n : Int) : withSign (decide (n < 0)) n.natAbs = n := by
  simp only [withSign]
  split <;> rename_i sign <;> simp only [decide_eq_true_eq] at sign <;> omega

theorem abs_withSign (negative : Bool) (n : Nat) : |withSign negative n| = n := by
  cases negative <;> simp [withSign]

theorem withSign_mul (negative : Bool) (m n : Nat) :
    withSign negative m * (n : Int) = withSign negative (m * n) := by
  cases negative <;> simp [withSign]

theorem abs_sub_le_withSign (a b : Bool) (m n : Nat) :
    |(m : Int) - n| ≤ |withSign a m - withSign b n| := by
  simpa only [abs_withSign] using abs_abs_sub_abs_le (withSign a m) (withSign b n)

theorem abs_withSign_sub (negative : Bool) (m n : Nat) :
    |withSign negative m - withSign negative n| = |(m : Int) - n| := by
  cases negative with
  | false => rfl
  | true => simp only [withSign, if_true, neg_sub_neg, abs_sub_comm]

theorem abs_units_sub (k n : Int) :
    |(k / f.one : ℚ) - n| = |((k - n * f.one : Int) : ℚ)| / f.one := by
  have positive := Format.one_pos (f := f)
  rw [← abs_of_pos positive, ← abs_div, abs_of_pos positive]
  congr 1
  push_cast
  field_simp

/-- The number is finite, and none of its format is nearer to this one. -/
def Nearest (x : Binary f) (target : ℚ) : Prop :=
  ∃ q, x.worth = some (.ofRat q) ∧
    ∀ (other : Binary f) (r : ℚ), other.worth = some (.ofRat r) → |q - target| ≤ |r - target|

theorem ofInt_nearest {n : Int} {e : Nat} (digits : 0 < f.precision) (small : n.natAbs < 2 ^ e)
    (room : e < f.ceiling) : (ofInt f n).Nearest n := by
  have finite := ofRatio_finite f (decide (n < 0)) digits small room
  have fits : f.Fits (f.round (n.natAbs * f.one) 1) := by
    by_contra unfit
    simp [ofRatio, ofUnits, dif_neg unfit, isFinite] at finite
  have value : ofInt f n = .finite (decide (n < 0)) _ fits := by
    simp only [ofInt, ofRatio, ofUnits, dif_pos fits]
  refine ⟨_, by rw [value, worth], ?_⟩
  intro other r worth
  cases other with
  | nan => cases worth
  | infinite negative => cases negative <;> simp [Binary.worth, Extended.ofRat] at worth
  | finite negative units fits' =>
    have same : (withSign negative units / f.one : ℚ) = r := by
      simpa [Binary.worth, Extended.ofRat_inj] using worth
    let sign := decide (n < 0)
    let target := n.natAbs * f.one
    have whole : n * (f.one : Int) = withSign sign target := by
      rw [← withSign_mul, withSign_natAbs]
    -- A number of the other sign is farther away than its magnitude alone.
    have near : |withSign sign (f.round target 1) - withSign sign target| ≤
        |withSign negative units - withSign sign target| := calc
      _ = |(f.round target 1 : Int) - target| := abs_withSign_sub ..
      _ ≤ |(units : Int) - target| := Format.round_near digits target fits'
      _ ≤ _ := abs_sub_le_withSign ..
    rw [← same, abs_units_sub, abs_units_sub, whole]
    exact div_le_div_of_nonneg_right (by exact_mod_cast near) Format.one_pos.le

theorem convert_worth (digits : f.precision ≤ g.precision) (steps : f.scale ≤ g.scale)
    (room : f.ceiling ≤ g.ceiling) (x : Binary f) : (x.convert g).worth = x.worth := by
  cases x with
  | nan => rfl
  | infinite negative => cases negative <;> rfl
  | finite negative units fits =>
    let finer := g.scale - f.scale
    have scales : g.one = 2 ^ finer * f.one := by
      simp only [Format.one, Nat.pow_eq, ← Nat.pow_add]
      congr 1
      omega
    have scaled : g.Fits (units * 2 ^ finer) := Format.fits_scaled digits steps room fits
    have exact : g.round (units * g.one) f.one = units * 2 ^ finer := by
      refine Format.round_exact (Nat.two_pow_pos _) ?_ (Nat.dvd_of_mod_eq_zero scaled.2)
      rw [scales, Nat.mul_assoc]
    have fits' : g.Fits (g.round (units * g.one) f.one) := exact ▸ scaled
    have value : (finite negative units fits).convert g = finite negative _ fits' := by
      simp only [convert, ofUnits, dif_pos fits']
    have positive := Format.one_pos (f := f)
    rw [value, worth, worth, exact, scales, ← withSign_mul]
    refine congrArg (fun q => some (Extended.ofRat q)) ?_
    push_cast
    field_simp

end Binary

theorem Double.ofInt_nearest {n : Int} (small : n.natAbs < 2 ^ 128) : (Double.ofInt n).Nearest n :=
  Binary.ofInt_nearest (by decide) small (by decide)

theorem Single.convert_worth (x : Single) : (x.convert .double).worth = x.worth :=
  Binary.convert_worth (by decide) (by decide) (by decide) x

theorem Single.convert_finite (x : Single) : (x.convert .double).isFinite = x.isFinite := by
  rw [Bool.eq_iff_iff, Binary.isFinite_iff_worth, Binary.isFinite_iff_worth, x.convert_worth]

end FluentAssert
