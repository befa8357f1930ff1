import FluentAssert.Text.CharSet

/-! Expressions: what patterns mean, free of notation. The constructing functions keep expressions
small: sequences and choices are flat, neighbouring literals are one, and a choice between single
characters or between sets is one set. -/
namespace FluentAssert.Regex

open FluentAssert.Text

/-- Conditions on a place in a text. The flag of a word condition tells whether words are made of
all word characters or of ASCII ones alone. -/
inductive Look where
  | textStart | textEnd | lineStart | lineEnd | crlfLineStart | crlfLineEnd
  | boundary (unicode : Bool) | noBoundary (unicode : Bool)
  | wordStart (unicode : Bool) | wordEnd (unicode : Bool)
  | wordStartHalf (unicode : Bool) | wordEndHalf (unicode : Bool)
  deriving DecidableEq, Repr

inductive Expr where
  | empty
  | literal (chars : List Char)
  | set (chars : CharSet)
  | look (l : Look)
  | repetition (min : Nat) (max : Option Nat) (greedy : Bool) (body : Expr)
  | group (index : Nat) (name : Option String) (body : Expr)
  | concat (items : List Expr)
  | choice (branches : List Expr)
  deriving Repr, Inhabited

namespace Expr

mutual

def same : Expr → Expr → Bool
  | .empty, .empty => true
  | .literal a, .literal b => a == b
  | .set a, .set b => a == b
  | .look a, .look b => a == b
  | .repetition m n g a, .repetition m' n' g' a' => m == m' && n == n' && g == g' && a.same a'
  | .group i n a, .group i' n' a' => i == i' && n == n' && a.same a'
  | .concat xs, .concat ys => sameAll xs ys
  | .choice xs, .choice ys => sameAll xs ys
  | _, _ => false

def sameAll : List Expr → List Expr → Bool
  | [], [] => true
  | x :: xs, y :: ys => x.same y && sameAll xs ys
  | _, _ => false

end

mutual

def isWidthless : Expr → Bool
  | .empty | .look _ => true
  | .literal _ | .set _ => false
  | .repetition _ _ _ body => body.isWidthless
  | .group _ _ body => body.isWidthless
  | .concat items => allWidthless items
  | .choice branches => allWidthless branches

def allWidthless : List Expr → Bool
  | [] => true
  | item :: rest => item.isWidthless && allWidthless rest

end

mutual

def isPossible : Expr → Bool
  | .set chars => !chars.isEmpty
  | .repetition _ _ _ body => body.isPossible
  | .group _ _ body => body.isPossible
  | .concat items => allPossible items
  | .choice branches => allPossible branches
  | _ => true

def allPossible : List Expr → Bool
  | [] => true
  | item :: rest => item.isPossible && allPossible rest

end

mutual

/-- Every match has a character. Of what may be impossible this is not said. -/
def isSolid : Expr → Bool
  | .empty | .look _ => false
  | .literal _ => true
  | .set chars => !chars.isEmpty
  | .repetition min _ _ body => min != 0 && body.isSolid
  | .group _ _ body => body.isSolid
  | .concat items => allPossible items && someSolid items
  | .choice branches => allSolid branches

def allSolid : List Expr → Bool
  | [] => true
  | item :: rest => item.isSolid && allSolid rest

def someSolid : List Expr → Bool
  | [] => false
  | item :: rest => item.isSolid || someSolid rest

end

def items : Expr → List Expr
  | .empty => []
  | .concat items => items
  | item => [item]

def branches : Expr → List Expr
  | .choice branches => branches
  | branch => [branch]

def addItem (item : Expr) (items : List Expr) : List Expr :=
  match item, items with
  | .literal a, .literal b :: rest => .literal (a ++ b) :: rest
  | item, items => item :: items

def ofItems (parts : List Expr) : Expr :=
  match (parts.flatMap items).foldr addItem [] with
  | [] => .empty
  | [item] => item
  | items => .concat items

/-- A set, of which a single character is a literal. -/
def ofSet (chars : CharSet) : Expr :=
  match chars with
  | [(low, high)] => if low = high then .literal [Char.ofNat low] else .set chars
  | _ => .set chars

/-- A repetition. A body without width counts once at most. -/
def repeated (min : Nat) (max : Option Nat) (greedy : Bool) (body : Expr) : Expr :=
  let (min, max) :=
    if body.isWidthless then (Nat.min min 1, some (match max with
      | some n => Nat.min n 1
      | none => 1))
    else (min, max)
  if max = some 0 then .empty
  else if min = 1 ∧ max = some 1 then body
  else .repetition min max greedy body

/-- The characters, if every branch is a single one. -/
def singles? : List Expr → Option (List Char)
  | [] => some []
  | .literal [c] :: rest => (singles? rest).map (c :: ·)
  | _ :: _ => none

def sets? : List Expr → Option CharSet
  | [] => some []
  | .set chars :: rest => (sets? rest).map (CharSet.union chars)
  | _ :: _ => none

def merged? (branches : List Expr) : Option CharSet :=
  ((singles? branches).map fun chars => CharSet.ofRanges (chars.map fun c => (c.toNat, c.toNat))).or
    (sets? branches)

def commonFront : List Expr → List Expr → List Expr
  | x :: xs, y :: ys => if x.same y then x :: commonFront xs ys else []
  | _, _ => []

def sequences? : List Expr → Option (List (List Expr))
  | [] => some []
  | .concat items :: rest => (sequences? rest).map (items :: ·)
  | _ :: _ => none

/-- What all branches begin with, and what is left of each. -/
def sharedFront? (branches : List Expr) : Option (List Expr × List (List Expr)) :=
  match sequences? branches with
  | some (first :: rest) =>
    let front := rest.foldl commonFront first
    if front.isEmpty then none
    else some (front, (first :: rest).map fun items => items.drop front.length)
  | _ => none

/-- A choice. What all branches begin with is taken out, at most `fuel` times one within the
other. -/
def choiceOf : Nat → List Expr → Expr
  | 0, parts => .choice parts
  | fuel + 1, parts =>
    match parts.flatMap branches with
    | [] => .set []
    | [branch] => branch
    | alternatives =>
      match merged? alternatives with
      | some chars => ofSet chars
      | none =>
        match sharedFront? alternatives with
        | some (front, rests) => ofItems (front ++ [choiceOf fuel (rests.map ofItems)])
        | none => .choice alternatives

mutual

/-- How many items lie on the longest way down, an upper bound for the fronts to take out. -/
def size : Expr → Nat
  | .repetition _ _ _ body => body.size + 1
  | .group _ _ body => body.size + 1
  | .concat items => sizes items + 1
  | .choice branches => sizes branches + 1
  | _ => 1

def sizes : List Expr → Nat
  | [] => 0
  | item :: rest => item.size + sizes rest

end

def ofBranches (parts : List Expr) : Expr := choiceOf (sizes parts + 1) parts

mutual

def names : Expr → List (Nat × Option String)
  | .repetition _ _ _ body => body.names
  | .group index name body => (index, name) :: body.names
  | .concat items => namesOfAll items
  | .choice branches => namesOfAll branches
  | _ => []

def namesOfAll : List Expr → List (Nat × Option String)
  | [] => []
  | item :: rest => item.names ++ namesOfAll rest

end

end Expr
end FluentAssert.Regex
