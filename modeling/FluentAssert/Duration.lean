/-! Spans of time, with their text in the largest unit that leaves a whole part. -/
namespace FluentAssert

structure Duration where
  seconds : Nat
  nanoseconds : Nat
  deriving DecidableEq, Repr

namespace Duration

def zero : Duration := ⟨0, 0⟩

def ofMillis (n : Nat) : Duration := ⟨n / 1000, n % 1000 * 1000000⟩

def total (d : Duration) : Nat := d.seconds * 1000000000 + d.nanoseconds

/-- `part` of `10 ^ places` as a fraction with its point, without the zeros that end it. -/
def fraction (places part : Nat) : List Char :=
  let digits := Nat.toDigits 10 part
  let padded := List.replicate (places - digits.length) '0' ++ digits
  let kept := (padded.reverse.dropWhile (· == '0')).reverse
  if kept.isEmpty then [] else '.' :: kept

def inUnit (whole places part : Nat) (unit : String) : String :=
  toString whole ++ String.ofList (fraction places part) ++ unit

def text (d : Duration) : String :=
  if 0 < d.seconds then inUnit d.seconds 9 d.nanoseconds "s"
  else if 1000000 ≤ d.nanoseconds then
    inUnit (d.nanoseconds / 1000000) 6 (d.nanoseconds % 1000000) "ms"
  else if 1000 ≤ d.nanoseconds then inUnit (d.nanoseconds / 1000) 3 (d.nanoseconds % 1000) "µs"
  else inUnit d.nanoseconds 0 0 "ns"

end Duration
end FluentAssert
