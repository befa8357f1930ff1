import FluentAssert.Text.CharSet

/-! Sets of characters as sequences of ranges of octets: a character is in the set if the octets of
its UTF-8 form lie in the ranges of one of the sequences, one after the other. -/
namespace FluentAssert.Regex

open FluentAssert.Text

abbrev OctetRange := Nat × Nat

namespace Octets

/-- Last code points of the forms of one, two and three octets. -/
def lastOfForm : List Nat := [0x7F, 0x7FF, 0xFFFF]

/-- How many code points differ in their last octets alone. -/
def blockSizes : List Nat := [0x40, 0x1000, 0x40000]

/-- Where a range is cut that begins or ends inside a block, by the last code point of the first
part. -/
def cutAtBlock? (low high block : Nat) : Option Nat :=
  if low / block = high / block then none
  else if low % block ≠ 0 then some (low / block * block + block - 1)
  else if high % block ≠ block - 1 then some (high / block * block - 1)
  else none

/-- Where a range is cut that is not made of one range for each octet. -/
def cut? (low high : Nat) : Option Nat :=
  match lastOfForm.find? fun last => low ≤ last && last < high with
  | some last => some last
  | none => if high < 0x80 then none else blockSizes.findSome? (cutAtBlock? low high)

def octetsOf (code : Nat) : List Nat := (String.utf8EncodeChar (Char.ofNat code)).map UInt8.toNat

/-- Sequences for a range without surrogates, in ascending order. -/
def ofCodes (low high : Nat) : List (List OctetRange) :=
  match cut? low high with
  | some last =>
    if low ≤ last ∧ last < high then ofCodes low last ++ ofCodes (last + 1) high else []
  | none => [(octetsOf low).zip (octetsOf high)]
termination_by high - low

def ofRange (low high : Nat) : List (List OctetRange) :=
  if low < 0xE000 ∧ 0xD7FF < high then ofCodes low 0xD7FF ++ ofCodes 0xE000 high
  else ofCodes low high

def ofSet (chars : CharSet) : List (List OctetRange) :=
  chars.flatMap fun (low, high) => ofRange low high

end Octets

/-- Sequences with common beginnings, each of which is followed once: the edges of a node in
ascending order. A node without edges is the end of a sequence. -/
inductive OctetTree where
  | done
  | edge (range : OctetRange) (child others : OctetTree)
  deriving Inhabited

namespace OctetTree

/-- Neighbouring sequences that begin alike, and what is left of them. -/
def grouped : List (List OctetRange) → List (OctetRange × List (List OctetRange))
  | [] => []
  | [] :: rest => grouped rest
  | (range :: tail) :: rest =>
    match grouped rest with
    | (other, tails) :: more =>
      if range = other then (range, tail :: tails) :: more
      else (range, [tail]) :: (other, tails) :: more
    | [] => [(range, [tail])]

/-- The tree of sequences of at most `depth` octets. -/
def grow : (depth : Nat) → List (List OctetRange) → OctetTree
  | 0, _ => done
  | depth + 1, sequences =>
    (grouped sequences).foldr (fun (range, tails) others => edge range (grow depth tails) others) done

def longestForm : Nat := 4

def ofSequences (sequences : List (List OctetRange)) : OctetTree := grow longestForm sequences

end OctetTree

/-- Texts with common beginnings: the edges of a node in ascending order. Where a text ends, the
node keeps the edges that it had before apart from those that come later. -/
inductive LiteralTree where
  | bare
  | ended (before : LiteralTree)
  | edge (octet : Nat) (child others : LiteralTree)
  deriving Inhabited

namespace LiteralTree

/-- Changes the edge of an octet, which is put in its place if there is none. -/
def changeEdge (change : LiteralTree → LiteralTree) (octet : Nat) : LiteralTree → LiteralTree
  | edge other child others =>
    if octet = other then edge other (change child) others
    else if octet < other then edge octet (change bare) (edge other child others)
    else edge other child (changeEdge change octet others)
  | tree => edge octet (change bare) tree

def add : List Nat → LiteralTree → LiteralTree
  | [], ended bare => ended bare
  | [], tree => ended tree
  | octet :: rest, tree => changeEdge (add rest) octet tree

def ofTexts (texts : List (List Nat)) : LiteralTree :=
  texts.foldl (fun tree text => tree.add text) bare

end LiteralTree
end FluentAssert.Regex
