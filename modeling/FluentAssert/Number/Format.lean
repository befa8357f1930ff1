/-! Binary floating-point formats. A finite magnitude is a natural number of least steps, so every
exact question about numbers is a question about naturals; rounding happens in one place. -/
namespace FluentAssert

/-- Shape of a format: significant bits, finest step `2 ^ -scale`, magnitudes below `2 ^ ceiling`. -/
structure Format where
  precision : Nat
  scale : Nat
  ceiling : Nat
  deriving DecidableEq, Repr

namespace Format

def double : Format := ⟨53, 1074, 1024⟩
def single : Format := ⟨24, 149, 128⟩

def one (f : Format) : Nat := Nat.pow 2 f.scale

def limit (f : Format) : Nat := Nat.pow 2 (f.ceiling + f.scale)

/-- Neighbours of a magnitude of `n` units are `2 ^ gap n` units apart. -/
def gap (f : Format) (n : Nat) : Nat := n.log2 + 1 - f.precision

def Fits (f : Format) (n : Nat) : Prop := n < f.limit ∧ n % Nat.pow 2 (f.gap n) = 0

instance (f : Format) (n : Nat) : Decidable (f.Fits n) :=
  inferInstanceAs (Decidable (_ ∧ _))

theorem fits_zero (f : Format) : f.Fits 0 :=
  ⟨Nat.two_pow_pos _, Nat.zero_mod _⟩

end Format

/-- Nearest natural to `num / den`; a half goes to the even neighbour. -/
def roundHalfEven (num den : Nat) : Nat :=
  let whole := num / den
  let rest := num % den
  if 2 * rest < den then whole
  else if den < 2 * rest then whole + 1
  else whole + whole % 2

namespace Format

/-- Nearest magnitude to `num / den` units, with unbounded range. -/
def round (f : Format) (num den : Nat) : Nat :=
  let step := Nat.pow 2 (f.gap (num / den))
  roundHalfEven num (den * step) * step

end Format
end FluentAssert
