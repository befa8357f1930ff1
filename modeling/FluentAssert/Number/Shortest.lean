import FluentAssert.Number.Binary

/-! The shortest decimal of a number: of all decimals that read back as the number, those with the
fewest digits, and of these the nearest. Which of two equally near ones it is, the caller chooses.
The search is exact, on naturals. -/
namespace FluentAssert

/-- The magnitude `digits * 10 ^ exponent`. -/
structure Decimal where
  digits : Nat
  exponent : Int
  deriving DecidableEq, Repr

inductive Tie where
  | up
  | even
  deriving DecidableEq, Repr

/-- Whether the decimal below a number is taken, where `digits` are its digits and the number is
as far from it as from the next. -/
def Tie.takesLower (tie : Tie) (digits : Nat) : Bool :=
  match tie with
  | .up => false
  | .even => digits % 2 == 0

def raiseLog (n : Nat) : Nat → Nat → Nat
  | 0, e => e
  | fuel + 1, e => if Nat.pow 10 (e + 1) ≤ n then raiseLog n fuel (e + 1) else e

/-- Largest `e` with `10 ^ e ≤ n`, for positive `n`. -/
def decimalLog (n : Nat) : Nat :=
  raiseLog n (n.log2 + 1) (n.log2 * 30102 / 100000)

namespace Format

/-- Exponent of the leading decimal digit of `n` units, for positive `n`. -/
def leadingExponent (f : Format) (n : Nat) : Int :=
  if f.one ≤ n then decimalLog (n / f.one)
  else -((decimalLog ((f.one - 1) / n) : Int) + 1)

/-- Reals that round to `n` units, with both bounds in quarter units. The bounds themselves
belong to it when the significand is even. Below a power of two the neighbour is nearer. -/
structure Reach where
  low : Nat
  high : Nat
  closed : Bool

def reach (f : Format) (n : Nat) : Reach :=
  let step := Nat.pow 2 (f.gap n)
  let below := if 0 < f.gap n ∧ n = Nat.pow 2 n.log2 then step else 2 * step
  ⟨4 * n - below, 4 * n + 2 * step, (n / step) % 2 == 0⟩

/-- The decimal at the place `10 ^ place` that rounds to `n` units and is nearest to it. -/
def decimalAt? (f : Format) (tie : Tie) (n : Nat) (place : Int) : Option Decimal :=
  let up := Nat.pow 10 (-place).toNat
  let cell := 4 * f.one * Nat.pow 10 place.toNat
  let value := 4 * n * up
  let reach := f.reach n
  let floor := value / cell
  let lowFits := if reach.closed then reach.low * up ≤ floor * cell else reach.low * up < floor * cell
  let highFits :=
    if reach.closed then (floor + 1) * cell ≤ reach.high * up else (floor + 1) * cell < reach.high * up
  let middle := (2 * floor + 1) * cell
  let lowNearer := 2 * value < middle ∨ (2 * value = middle ∧ tie.takesLower floor)
  if lowFits ∧ (lowNearer ∨ ¬ highFits) then some ⟨floor, place⟩
  else if highFits then some ⟨floor + 1, place⟩
  else none

/-- First hit when the digits grow one at a time from `count`; the last resort is exact enough to
read back. -/
def shortestFrom (f : Format) (tie : Tie) (n : Nat) (leading : Int) : Nat → Nat → Decimal
  | 0, count => ⟨0, leading - count⟩
  | fuel + 1, count =>
    match f.decimalAt? tie n (leading - count) with
    | some decimal => decimal
    | none => shortestFrom f tie n leading fuel (count + 1)

/-- Digits that always suffice to read a number back. -/
def enoughDigits (f : Format) : Nat := f.precision * 30103 / 100000 + 2

def shortest (f : Format) (tie : Tie) (n : Nat) : Decimal :=
  if n = 0 then ⟨0, 0⟩ else shortestFrom f tie n (f.leadingExponent n) f.enoughDigits 0

end Format
end FluentAssert
