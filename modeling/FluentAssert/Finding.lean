import FluentAssert.Canonical

/-! What a check finds, and the outcome that a handler receives: the finding with its place. -/
namespace FluentAssert

/-- Kinds of checks. -/
inductive Kind where
  | valid | typeMismatch | null | notNull | equal | notEqual | equalFold | notEqualFold
  | less | lessOrEqual | greater | greaterOrEqual | inRange | notInRange | inDelta | notInDelta
  | inList | notInList | inBounds | containsKey | notContainsKey | containsElement
  | notContainsElement | containsSubset | notContainsSubset | containsOnly | empty | notEmpty
  | hasPrefix | notHasPrefix | hasSuffix | notHasSuffix | isMatch | notMatch
  deriving DecidableEq, Repr

namespace Kind

def table : List (Kind × String × String) :=
  [(valid, "valid", "is valid"),
   (typeMismatch, "type_mismatch", "has expected type"),
   (null, "null", "is null"),
   (notNull, "not_null", "is not null"),
   (equal, "equal", "is equal"),
   (notEqual, "not_equal", "is not equal"),
   (equalFold, "equal_fold", "is equal ignoring case"),
   (notEqualFold, "not_equal_fold", "is not equal ignoring case"),
   (less, "less", "is less than"),
   (lessOrEqual, "less_or_equal", "is less than or equal to"),
   (greater, "greater", "is greater than"),
   (greaterOrEqual, "greater_or_equal", "is greater than or equal to"),
   (inRange, "in_range", "is in range"),
   (notInRange, "not_in_range", "is not in range"),
   (inDelta, "in_delta", "is within delta"),
   (notInDelta, "not_in_delta", "is not within delta"),
   (inList, "in_list", "is in list"),
   (notInList, "not_in_list", "is not in list"),
   (inBounds, "in_bounds", "is in bounds"),
   (containsKey, "contains_key", "contains key"),
   (notContainsKey, "not_contains_key", "does not contain key"),
   (containsElement, "contains_element", "contains element"),
   (notContainsElement, "not_contains_element", "does not contain element"),
   (containsSubset, "contains_subset", "contains subset"),
   (notContainsSubset, "not_contains_subset", "does not contain subset"),
   (containsOnly, "contains_only", "contains only"),
   (empty, "empty", "is empty"),
   (notEmpty, "not_empty", "is not empty"),
   (hasPrefix, "has_prefix", "has prefix"),
   (notHasPrefix, "not_has_prefix", "does not have prefix"),
   (hasSuffix, "has_suffix", "has suffix"),
   (notHasSuffix, "not_has_suffix", "does not have suffix"),
   (isMatch, "match", "matches"),
   (notMatch, "not_match", "does not match")]

def row (kind : Kind) : String × String := (table.lookup kind).getD ("", "")

def name (kind : Kind) : String := kind.row.1
def title (kind : Kind) : String := kind.row.2

def ofName? (name : String) : Option Kind :=
  (table.find? fun (_, known, _) => known == name).map (·.1)

end Kind

/-- What a check found. It passed when there are no errors. -/
structure Finding where
  kind : Kind
  actual : Option Canonical
  /-- One value for equality, two for ranges, several for lists. -/
  expected : List Canonical
  /-- Deviation that was allowed. -/
  delta : Option Double
  errors : List String

namespace Finding

def passed (finding : Finding) : Bool := finding.errors.isEmpty

def ofKind (kind : Kind) : Finding := ⟨kind, none, [], none, []⟩

def withActual (finding : Finding) (value : Canonical) : Finding :=
  { finding with actual := some value }

def withExpected (finding : Finding) (value : Canonical) : Finding :=
  { finding with expected := finding.expected ++ [value] }

def withExpectedList (finding : Finding) (values : List Canonical) : Finding :=
  { finding with expected := finding.expected ++ values }

def withDelta (finding : Finding) (delta : Double) : Finding := { finding with delta := some delta }

def withError (finding : Finding) (error : String) : Finding :=
  { finding with errors := finding.errors ++ [error] }

def failure (kind : Kind) (error : String) : Finding := (ofKind kind).withError error

/-- Fails with `error` unless `holds`. -/
def check (kind : Kind) (holds : Bool) (error : String) : Finding :=
  if holds then ofKind kind else failure kind error

/-- A value of another type than the one asked for. -/
def mismatch (wanted : String) (value : Canonical) : Finding :=
  ((failure .typeMismatch
    ("expected: value is " ++ wanted ++ ", but it is " ++ value.typeName)).withActual value)
    |>.withExpected (.text wanted)

def equalDelta : Option Double → Option Double → Bool
  | none, none => true
  | some x, some y => x.equal y
  | _, _ => false

def equalActual : Option Canonical → Option Canonical → Bool
  | none, none => true
  | some x, some y => x == y
  | _, _ => false

def equal (a b : Finding) : Bool :=
  a.kind == b.kind && equalActual a.actual b.actual && Canonical.equalItems a.expected b.expected &&
    equalDelta a.delta b.delta && a.errors == b.errors

end Finding

/-- Names a shared store. -/
structure StoreId where
  index : Nat
  deriving DecidableEq, Repr

/-- Where a check was made: the test, the open scopes from the outermost on, and the store. -/
structure Place where
  testName : Option String
  path : List String
  store : StoreId
  deriving DecidableEq, Repr

def Place.pathText (place : Place) : String := ".".intercalate place.path

structure Outcome where
  place : Place
  finding : Finding

def Outcome.equal (a b : Outcome) : Bool := a.place == b.place && a.finding.equal b.finding

end FluentAssert
