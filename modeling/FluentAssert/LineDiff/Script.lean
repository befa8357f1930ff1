/-! Edit scripts between two sequences. An edit carries its items, so each side is read off the
script. -/
namespace FluentAssert.LineDiff

inductive Edit (α : Type) where
  | keep (items : List α)
  | delete (items : List α)
  | insert (items : List α)

namespace Edit

variable {α : Type}

def items : Edit α → List α
  | keep items => items
  | delete items => items
  | insert items => items

def old : Edit α → List α
  | keep items => items
  | delete items => items
  | insert _ => []

def new : Edit α → List α
  | keep items => items
  | delete _ => []
  | insert items => items

end Edit

abbrev Script (α : Type) := List (Edit α)

namespace Script

variable {α : Type}

def old (script : Script α) : List α := script.flatMap Edit.old
def new (script : Script α) : List α := script.flatMap Edit.new

def weight : Script α → Nat
  | [] => 0
  | edit :: rest => edit.items.length + 1 + weight rest

end Script

variable {α : Type} [BEq α]

def commonPrefix : List α → List α → Nat
  | x :: xs, y :: ys => if x == y then commonPrefix xs ys + 1 else 0
  | _, _ => 0

def commonSuffix (xs ys : List α) : Nat := commonPrefix xs.reverse ys.reverse

end FluentAssert.LineDiff
