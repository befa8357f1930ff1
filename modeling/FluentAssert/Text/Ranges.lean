/-! Sets of characters given by inclusive ranges of code points, and the compact text in which the
larger tables are kept. -/
namespace FluentAssert.Text

abbrev Ranges := List (Nat × Nat)

namespace Ranges

def contains (ranges : Ranges) (c : Char) : Bool :=
  ranges.any fun (low, high) => low ≤ c.toNat && c.toNat ≤ high

end Ranges

def lastCode : Nat := 0x10FFFF

def hexDigit (c : Char) : Nat :=
  if c.isDigit then c.toNat - '0'.toNat else c.toNat - 'A'.toNat + 10

def hexValue (digits : List Char) : Nat :=
  digits.foldl (fun n c => 16 * n + hexDigit c) 0

def tableWords (lines : List String) : List (List Char) :=
  lines.flatMap fun line => line.toList.splitOn ' '

/-- A range in hexadecimal: the first and the last code point with a colon between, or a single
one. -/
def readRange (word : List Char) : Nat × Nat :=
  match (word.splitOn ':').map hexValue with
  | [low, high] => (low, high)
  | [code] => (code, code)
  | _ => (1, 0)

def readRanges (lines : List String) : Ranges := (tableWords lines).map readRange

/-- Ranges of the runs whose label is chosen; a run ends where the next begins. -/
def chosenRuns {α : Type} (chosen : α → Bool) : List (Nat × α) → Ranges
  | [] => []
  | [(first, label)] => if chosen label then [(first, lastCode)] else []
  | (first, label) :: (next, nextLabel) :: rest =>
    if chosen label then (first, next - 1) :: chosenRuns chosen ((next, nextLabel) :: rest)
    else chosenRuns chosen ((next, nextLabel) :: rest)

end FluentAssert.Text
