import FluentAssert.LineDiff.Script

/-! A shortest edit script by divide and conquer. Searches run from both ends at once, one more edit
at a time, along the diagonals of the edit graph; where they meet, both sequences are cut. -/
namespace FluentAssert.LineDiff

/-- How far each diagonal was reached, from `-offset` on. -/
structure Frontier where
  reached : Array Nat
  offset : Nat

namespace Frontier

def start (offset : Nat) : Frontier := ⟨Array.replicate (2 * offset + 2) 0, offset⟩

def get (frontier : Frontier) (k : Int) : Nat := frontier.reached.getD (k + frontier.offset).toNat 0

def set : Frontier → Int → Nat → Frontier
  | ⟨reached, offset⟩, k, x => ⟨reached.setIfInBounds (k + offset).toNat x, offset⟩

/-- Best start on diagonal `k` with `d` edits, from the neighbours' reach with one edit less. -/
def enter (frontier : Frontier) (d k : Int) : Nat :=
  if k = -d ∨ (k ≠ d ∧ frontier.get (k - 1) < frontier.get (k + 1)) then frontier.get (k + 1)
  else frontier.get (k - 1) + 1

end Frontier

variable {α : Type} [BEq α]

/-- Number of equal items when both arrays are walked over from given places, at most `fuel`. -/
def walk (xs ys : Array α) : Nat → Nat → Nat → Nat
  | 0, _, _ => 0
  | fuel + 1, i, j =>
    match xs[i]?, ys[j]? with
    | some x, some y => if x == y then walk xs ys fuel (i + 1) (j + 1) + 1 else 0
    | _, _ => 0

/-- Diagonals of a round of `d` edits, highest first. -/
def diagonals (d : Nat) : List Int := (List.range (d + 1)).map fun i : Nat => (d : Int) - 2 * i

/-- Both sequences, and the same reversed. -/
structure Sides (α : Type) where
  old : Array α
  new : Array α
  oldBack : Array α
  newBack : Array α

namespace Sides

def delta (sides : Sides α) : Int := (sides.old.size : Int) - sides.new.size

def odd (sides : Sides α) : Bool := sides.delta % 2 == 1

end Sides

structure Search where
  forward : Frontier
  backward : Frontier

namespace Search

/-- Extends diagonal `k` of the forward search; the cut, if it meets the backward search there. -/
def forwardStep (sides : Sides α) (d : Nat) : Search → Int → Except (Nat × Nat) Search
  | ⟨forward, backward⟩, k =>
    let x := forward.enter d k
    let y := (x : Int) - k
    let run := if 0 ≤ y then walk sides.old sides.new sides.old.size x y.toNat else 0
    if sides.odd ∧ (k - sides.delta).natAbs + 1 ≤ d ∧
        sides.old.size ≤ x + run + backward.get (sides.delta - k) then
      .error (x, y.toNat)
    else .ok ⟨forward.set k (x + run), backward⟩

/-- Extends diagonal `k` of the backward search, where both count from the end. -/
def backwardStep (sides : Sides α) (d : Nat) : Search → Int → Except (Nat × Nat) Search
  | ⟨forward, backward⟩, k =>
    let x := backward.enter d k
    let y := (x : Int) - k
    let run := if 0 ≤ y then walk sides.oldBack sides.newBack sides.old.size x y.toNat else 0
    if ¬ sides.odd ∧ (k - sides.delta).natAbs ≤ d ∧
        sides.old.size ≤ x + run + forward.get (sides.delta - k) then
      .error (sides.old.size - (x + run), sides.new.size - (y + run).toNat)
    else .ok ⟨forward, backward.set k (x + run)⟩

/-- Rounds of `d`, `d + 1`, ... edits until the searches meet. -/
def rounds (sides : Sides α) : Nat → Nat → Search → Option (Nat × Nat)
  | 0, _, _ => none
  | fuel + 1, d, s =>
    match (diagonals d).foldlM (forwardStep sides d) s with
    | .error cut => some cut
    | .ok s =>
      match (diagonals d).foldlM (backwardStep sides d) s with
      | .error cut => some cut
      | .ok s => rounds sides fuel (d + 1) s

end Search

def middle (old new : List α) : Option (Nat × Nat) :=
  let bound := (old.length + new.length + 1) / 2 + 1
  let frontier := (Frontier.start bound).set 1 0
  Search.rounds ⟨old.toArray, new.toArray, old.reverse.toArray, new.reverse.toArray⟩ bound 0
    ⟨frontier, frontier⟩

def keepSome (items : List α) : Script α := if items.isEmpty then [] else [.keep items]

/-- A script from `old` to `new`: common ends are kept, and what is between them is cut in two
unless one side is empty. -/
def conquer : Nat → List α → List α → Script α
  | 0, old, new => [.delete old, .insert new]
  | fuel + 1, old, new =>
    let first := commonPrefix old new
    let old₁ := old.drop first
    let new₁ := new.drop first
    let last := commonSuffix old₁ new₁
    let old₂ := old₁.take (old₁.length - last)
    let new₂ := new₁.take (new₁.length - last)
    let between :=
      match old₂, new₂ with
      | [], [] => []
      | gone, [] => [.delete gone]
      | [], come => [.insert come]
      | gone, come =>
        match middle gone come with
        | some (i, j) =>
          conquer fuel (gone.take i) (come.take j) ++ conquer fuel (gone.drop i) (come.drop j)
        | none => [.delete gone, .insert come]
    keepSome (old.take first) ++ between ++ keepSome (old₁.drop (old₁.length - last))

def shortestScript (old new : List α) : Script α := conquer (old.length + new.length + 1) old new

end FluentAssert.LineDiff
