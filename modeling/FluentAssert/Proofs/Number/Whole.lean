import Mathlib.Algebra.Group.Nat.Defs
import FluentAssert.Number.Binary

/-! Whole numbers in binary formats. Rounding lands on the grid of the format, so what is within its
range comes out finite. -/
namespace FluentAssert

theorem roundHalfEven_dvd {num den : Nat} (positive : 0 < den) (divides : den ∣ num) :
    roundHalfEven num den = num / den := by
  have rest : num % den = 0 := Nat.mod_eq_zero_of_dvd divides
  simp only [roundHalfEven, rest, Nat.mul_zero, if_pos positive]

theorem roundHalfEven_le (num den : Nat) : roundHalfEven num den ≤ num / den + 1 := by
  simp only [roundHalfEven]
  split
  · omega
  · split <;> omega

namespace Format

theorem round_cases (f : Format) (num : Nat) : f.round num 1 = num ∧ f.gap num = 0 ∨
    ∃ k gap, f.round num 1 = k * 2 ^ gap ∧ k ≤ 2 ^ f.precision ∧
      num.log2 + 1 = f.precision + gap := by
  have unfolded : f.round num 1 = roundHalfEven num (2 ^ f.gap num) * 2 ^ f.gap num := by
    simp only [round, Nat.div_one, Nat.one_mul, Nat.pow_eq]
  by_cases whole : f.gap num = 0
  · refine .inl ⟨?_, whole⟩
    rw [unfolded, whole, Nat.pow_zero, Nat.mul_one,
      roundHalfEven_dvd Nat.one_pos (Nat.one_dvd num), Nat.div_one]
  · have gap : num.log2 + 1 = f.precision + f.gap num := by
      unfold Format.gap at whole ⊢
      omega
    have below : num < 2 ^ (f.precision + f.gap num) := gap ▸ Nat.lt_log2_self
    have few : num / 2 ^ f.gap num < 2 ^ f.precision := by
      rw [Nat.div_lt_iff_lt_mul (Nat.two_pow_pos _), ← Nat.pow_add]
      exact below
    have near := roundHalfEven_le num (2 ^ f.gap num)
    exact .inr ⟨_, _, unfolded, Nat.le_trans near few, gap⟩

theorem round_dvd (f : Format) (positive : 0 < f.precision) (num : Nat) :
    2 ^ f.gap (f.round num 1) ∣ f.round num 1 := by
  rcases f.round_cases num with ⟨same, whole⟩ | ⟨k, gap, rounded, few, -⟩
  · rw [same, whole]
    exact Nat.one_dvd num
  · rw [rounded]
    by_cases full : k = 2 ^ f.precision
    · rw [full, ← Nat.pow_add]
      apply Nat.pow_dvd_pow
      rw [Format.gap, Nat.log2_two_pow]
      omega
    · by_cases zero : k * 2 ^ gap = 0
      · rw [zero]
        exact Nat.dvd_zero _
      · have low : (k * 2 ^ gap).log2 < f.precision + gap := by
          rw [Nat.log2_lt zero, Nat.pow_add]
          exact Nat.mul_lt_mul_of_pos_right (Nat.lt_of_le_of_ne few full) (Nat.two_pow_pos gap)
        have near : f.gap (k * 2 ^ gap) ≤ gap := by
          unfold Format.gap
          omega
        exact Nat.dvd_trans (Nat.pow_dvd_pow 2 near) (Nat.dvd_mul_left _ k)

theorem round_le (f : Format) {num e : Nat} (small : num < 2 ^ e) : f.round num 1 ≤ 2 ^ e := by
  rcases f.round_cases num with ⟨same, -⟩ | ⟨k, gap, rounded, few, digits⟩
  · rw [same]
    exact Nat.le_of_lt small
  · by_cases zero : num = 0
    · have none : f.round 0 1 = 0 := by
        simp only [round, Nat.div_one, Nat.one_mul, Nat.pow_eq]
        rw [roundHalfEven_dvd (Nat.two_pow_pos _) (Nat.dvd_zero _), Nat.zero_div, Nat.zero_mul]
      rw [zero, none]
      exact Nat.zero_le _
    · have most : num.log2 < e := (Nat.log2_lt zero).mpr small
      have room : f.precision + gap ≤ e := by omega
      rw [rounded]
      calc k * 2 ^ gap ≤ 2 ^ f.precision * 2 ^ gap := Nat.mul_le_mul_right _ few
        _ = 2 ^ (f.precision + gap) := (Nat.pow_add ..).symm
        _ ≤ 2 ^ e := Nat.pow_le_pow_right (by decide) room

end Format

theorem Binary.ofRatio_finite (f : Format) (negative : Bool) {n e : Nat} (positive : 0 < f.precision)
    (small : n < 2 ^ e) (room : e < f.ceiling) : (ofRatio f negative n 1).isFinite = true := by
  have scaled : n * f.one < 2 ^ (e + f.scale) := by
    rw [Nat.pow_add]
    exact Nat.mul_lt_mul_of_pos_right small (Nat.two_pow_pos _)
  have within : f.round (n * f.one) 1 < f.limit :=
    Nat.lt_of_le_of_lt (f.round_le scaled) (Nat.pow_lt_pow_right (by decide) (by omega))
  have fits : f.Fits (f.round (n * f.one) 1) :=
    ⟨within, Nat.mod_eq_zero_of_dvd (f.round_dvd positive _)⟩
  simp only [ofRatio, ofUnits, dif_pos fits, isFinite]

theorem Double.ofInt_finite {n : Int} (small : n.natAbs < 2 ^ 128) :
    (Double.ofInt n).isFinite = true := by
  rw [Double.ofInt, Binary.ofInt]
  exact Binary.ofRatio_finite .double _ (by decide) small (by decide)

theorem Double.byte_finite (b : UInt8) : (Double.ofNat b.toNat).isFinite = true :=
  Binary.ofRatio_finite .double false (by decide) b.toNat_lt (by decide)

end FluentAssert
