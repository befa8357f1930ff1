/-! Finite maps from text to values, as lists of pairs in strictly ascending order of keys. The
order of texts is that of their code points. `insert` keeps the order, so equal maps are equal
lists. -/
namespace FluentAssert

abbrev Fields (α : Type) := List (String × α)

namespace Fields

variable {α : Type}

def keys (fields : Fields α) : List String := fields.map (·.1)

def values (fields : Fields α) : List α := fields.map (·.2)

def Ordered (fields : Fields α) : Prop := (keys fields).Pairwise (· < ·)

def get? (fields : Fields α) (key : String) : Option α :=
  match fields with
  | [] => none
  | (k, v) :: rest => if k = key then some v else get? rest key

def has (fields : Fields α) (key : String) : Bool := (get? fields key).isSome

def insert (key : String) (value : α) : Fields α → Fields α
  | [] => [(key, value)]
  | (k, v) :: rest =>
    if key = k then (key, value) :: rest
    else if key < k then (key, value) :: (k, v) :: rest
    else (k, v) :: insert key value rest

def erase (key : String) (fields : Fields α) : Fields α :=
  fields.filter fun (k, _) => k != key

/-- The map of some entries; of entries with one key the last counts. -/
def ofEntries (entries : List (String × α)) : Fields α :=
  entries.foldl (fun fields (key, value) => insert key value fields) []

end Fields
end FluentAssert
