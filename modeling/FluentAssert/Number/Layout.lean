import FluentAssert.Number.Shortest

/-! Written forms of numbers. A layout decides which decimals are written out and which get an
exponent; the digits are always the shortest that read back. -/
namespace FluentAssert

/-- Choices of a written form. The leading exponent decides between the two ways of writing. -/
structure Layout where
  positional : Int → Bool
  /-- Whether a number without a fraction ends in `.0`. -/
  keepsPoint : Bool
  /-- Which of two equally near shortest decimals is written. -/
  tie : Tie

namespace Layout

/-- Every digit written out, and no empty fraction. -/
def plain : Layout := ⟨fun _ => true, false, .up⟩

def json : Layout := ⟨fun e => decide (-5 ≤ e ∧ e < 16), true, .even⟩

def jsonSingle : Layout := ⟨fun e => decide (-6 ≤ e ∧ e < 13), true, .even⟩

def zeros (n : Nat) : List Char := List.replicate n '0'

/-- Digits written out, the first of them standing for `10 ^ leading`. -/
def writtenOut (digits : List Char) (leading : Int) (keepsPoint : Bool) : List Char :=
  if leading < 0 then '0' :: '.' :: (zeros (-leading - 1).toNat ++ digits)
  else
    let whole := leading.toNat + 1
    if digits.length ≤ whole then
      digits ++ zeros (whole - digits.length) ++ (if keepsPoint then ['.', '0'] else [])
    else digits.take whole ++ '.' :: digits.drop whole

/-- One digit before the point, and a signed exponent. -/
def withExponent (digits : List Char) (leading : Int) : List Char :=
  let mantissa := match digits with
    | first :: second :: rest => first :: '.' :: second :: rest
    | short => short
  mantissa ++ 'e' :: (if leading < 0 then '-' else '+') :: Nat.toDigits 10 leading.natAbs

def magnitude (layout : Layout) (decimal : Decimal) : List Char :=
  let digits := Nat.toDigits 10 decimal.digits
  let leading := decimal.exponent + digits.length - 1
  if layout.positional leading then writtenOut digits leading layout.keepsPoint
  else withExponent digits leading

def dropZeros : Nat → Decimal → Decimal
  | 0, decimal => decimal
  | fuel + 1, decimal =>
    if decimal.digits % 10 = 0 then dropZeros fuel ⟨decimal.digits / 10, decimal.exponent + 1⟩
    else decimal

def write (layout : Layout) {f : Format} : Binary f → String
  | .nan => "NaN"
  | .infinite negative => if negative then "-inf" else "inf"
  | .finite negative units _ =>
    let decimal := if units = 0 then ⟨0, 0⟩ else dropZeros f.enoughDigits (f.shortest layout.tie units)
    String.ofList ((if negative then ['-'] else []) ++ layout.magnitude decimal)

end Layout
end FluentAssert
