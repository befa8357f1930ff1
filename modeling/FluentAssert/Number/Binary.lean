import FluentAssert.Number.Format

/-! Floating-point numbers with their comparisons and the arithmetic that checks need. All numbers
but NaN have a rank among the integers, and every comparison is a comparison of ranks. -/
namespace FluentAssert

inductive Binary (f : Format) where
  | nan
  | infinite (negative : Bool)
  | finite (negative : Bool) (units : Nat) (fits : f.Fits units)
  deriving DecidableEq

abbrev Double := Binary .double
abbrev Single := Binary .single

namespace Binary

variable {f : Format}

def zero (negative : Bool) : Binary f := .finite negative 0 f.fits_zero

instance : Inhabited (Binary f) := ⟨zero false⟩

def withSign (negative : Bool) (n : Nat) : Int := if negative then -(n : Int) else n

/-- Place in the order: finite numbers in units, infinities beyond them, NaN nowhere. -/
def rank : Binary f → Option Int
  | .nan => none
  | .infinite negative => some (withSign negative f.limit)
  | .finite negative units _ => some (withSign negative units)

def compareBy (related : Int → Int → Bool) (x y : Binary f) : Bool :=
  match x.rank, y.rank with
  | some a, some b => related a b
  | _, _ => false

def equal (x y : Binary f) : Bool := compareBy (fun a b => a == b) x y
def less (x y : Binary f) : Bool := compareBy (fun a b => decide (a < b)) x y
def atMost (x y : Binary f) : Bool := compareBy (fun a b => decide (a ≤ b)) x y

def isFinite : Binary f → Bool
  | .finite .. => true
  | _ => false

def isNaN : Binary f → Bool
  | .nan => true
  | _ => false

/-- Nearest number to `num / den` units; past the range it is infinite. -/
def ofUnits (f : Format) (negative : Bool) (num den : Nat) : Binary f :=
  let units := f.round num den
  if fits : f.Fits units then .finite negative units fits else .infinite negative

def ofRatio (f : Format) (negative : Bool) (num den : Nat) : Binary f :=
  ofUnits f negative (num * f.one) den

def ofInt (f : Format) (n : Int) : Binary f :=
  ofRatio f (decide (n < 0)) n.natAbs 1

/-- Nearest number to `digits * 10 ^ exponent`. Exponents past the range are answered without
building the power. -/
def ofDecimal (f : Format) (negative : Bool) (digits : Nat) (exponent : Int) : Binary f :=
  if digits = 0 then zero negative
  else match exponent with
    | .ofNat e =>
      if f.ceiling < e then .infinite negative else ofRatio f negative (digits * Nat.pow 10 e) 1
    | .negSucc e =>
      if digits.log2 + f.scale + 3 < 3 * (e + 1) then zero negative
      else ofRatio f negative digits (Nat.pow 10 (e + 1))

/-- The same value in another format, rounded where that has fewer digits. -/
def convert (g : Format) : Binary f → Binary g
  | .nan => .nan
  | .infinite negative => .infinite negative
  | .finite negative units _ => ofUnits g negative (units * g.one) f.one

def neg : Binary f → Binary f
  | .nan => .nan
  | .infinite negative => .infinite (!negative)
  | .finite negative units fits => .finite (!negative) units fits

def abs : Binary f → Binary f
  | .nan => .nan
  | .infinite _ => .infinite false
  | .finite _ units fits => .finite false units fits

/-- The exact sum, rounded. A sum of zero is positive unless both terms are negative. -/
def add : Binary f → Binary f → Binary f
  | .nan, _ => .nan
  | _, .nan => .nan
  | .infinite a, .infinite b => if a = b then .infinite a else .nan
  | .infinite a, _ => .infinite a
  | _, .infinite b => .infinite b
  | .finite a m _, .finite b n _ =>
    let sum := withSign a m + withSign b n
    if sum = 0 then zero (a && b) else ofUnits f (decide (sum < 0)) sum.natAbs 1

def sub (x y : Binary f) : Binary f := x.add y.neg

def mul : Binary f → Binary f → Binary f
  | .nan, _ => .nan
  | _, .nan => .nan
  | .infinite a, .infinite b => .infinite (a != b)
  | .infinite a, .finite b n _ => if n = 0 then .nan else .infinite (a != b)
  | .finite a m _, .infinite b => if m = 0 then .nan else .infinite (a != b)
  | .finite a m _, .finite b n _ => ofUnits f (a != b) (m * n) f.one

def div : Binary f → Binary f → Binary f
  | .nan, _ => .nan
  | _, .nan => .nan
  | .infinite _, .infinite _ => .nan
  | .infinite a, .finite b _ _ => .infinite (a != b)
  | .finite a _ _, .infinite b => zero (a != b)
  | .finite a m _, .finite b n _ =>
    if n = 0 then (if m = 0 then .nan else .infinite (a != b))
    else ofUnits f (a != b) (m * f.one) n

def isIntegral : Binary f → Bool
  | .finite _ units _ => units % f.one == 0
  | _ => false

def toInt? : Binary f → Option Int
  | .finite negative units _ =>
    if units % f.one = 0 then some (withSign negative (units / f.one)) else none
  | _ => none

end Binary

namespace Double

def ofNat (n : Nat) : Double := Binary.ofRatio .double false n 1
def ofInt (n : Int) : Double := Binary.ofInt .double n

end Double
end FluentAssert
