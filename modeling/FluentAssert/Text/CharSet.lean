import FluentAssert.Text.Ranges

/-! Sets of characters as ascending ranges that do not touch, with the set operations. -/
namespace FluentAssert.Text

abbrev CharSet := Ranges

namespace CharSet

def ofRange (low high : Nat) : CharSet := if low ≤ high then [(low, high)] else []

def single (c : Char) : CharSet := [(c.toNat, c.toNat)]

/-- Joins a range with the ascending ranges that follow it, as far as they meet. -/
def joinFrom (low high : Nat) : List (Nat × Nat) → CharSet
  | [] => [(low, high)]
  | (l, h) :: rest =>
    if l ≤ high + 1 then joinFrom low (max high h) rest else (low, high) :: joinFrom l h rest

def join : List (Nat × Nat) → CharSet
  | [] => []
  | (low, high) :: rest => joinFrom low high rest

def ofRanges (ranges : List (Nat × Nat)) : CharSet := join (ranges.mergeSort fun a b => a.1 ≤ b.1)

def union (a b : CharSet) : CharSet := join (List.merge a b fun a b => a.1 ≤ b.1)

/-! The code points from D800 to DFFF are no characters, so that E000 comes after D7FF. -/

def above (code : Nat) : Nat := if code = 0xD7FF then 0xE000 else code + 1

def below (code : Nat) : Nat := if code = 0xE000 then 0xD7FF else code - 1

/-- The gaps between ranges and behind the last of them; `last` ends the range before. A gap without
characters becomes the range of its two neighbours. -/
def gapsAfter (last : Nat) : CharSet → CharSet
  | [] => ofRange (above last) lastCode
  | (low, high) :: rest =>
    (min (above last) (below low), max (above last) (below low)) :: gapsAfter high rest

def complement : CharSet → CharSet
  | [] => [(0, lastCode)]
  | (low, high) :: rest => (if 0 < low then [(0, below low)] else []) ++ gapsAfter high rest

def inter : CharSet → CharSet → CharSet
  | [], _ => []
  | _ :: _, [] => []
  | (low, high) :: rest, (low', high') :: rest' =>
    ofRange (max low low') (min high high') ++
      if high < high' then inter rest ((low', high') :: rest')
      else inter ((low, high) :: rest) rest'
termination_by a b => a.length + b.length
decreasing_by all_goals simp only [List.length_cons]; omega

def diff : CharSet → CharSet → CharSet
  | [], _ => []
  | set, [] => set
  | (low, high) :: rest, (low', high') :: rest' =>
    if high' < low then diff ((low, high) :: rest) rest'
    else if high < low' then (low, high) :: diff rest ((low', high') :: rest')
    else
      (if low < low' then [(low, below low')] else []) ++
        if high' < high then diff ((above high', high) :: rest) rest'
        else diff rest ((low', high') :: rest')
termination_by a b => a.length + b.length
decreasing_by all_goals simp only [List.length_cons]; omega

def symmDiff (a b : CharSet) : CharSet := diff (union a b) (inter a b)

def isAscii (set : CharSet) : Bool := set.all fun (_, high) => high < 0x80

def hasCode (set : CharSet) (code : Nat) : Bool :=
  match set with
  | [] => false
  | (low, high) :: rest => low ≤ code && (code ≤ high || hasCode rest code)

end CharSet
end FluentAssert.Text
