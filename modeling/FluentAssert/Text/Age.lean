import FluentAssert.Text.AgeTable
import FluentAssert.Text.CharSet

/-! Ages of characters: the edition of the Unicode standard that first speaks of them. Properties
that can be asked for by name are those of edition 16.0, which knows fewer characters than texts do.
-/
namespace FluentAssert.Text

/-- An entry is hexadecimal digits, a colon and an edition. -/
def readAgeRun (word : List Char) : Nat × String :=
  match word.splitOn ':' with
  | [code, edition] => (hexValue code, String.ofList edition)
  | _ => (0, "")

def ageTable : List (Nat × String) := (tableWords ageRuns).map readAgeRun

def editions : List String :=
  ["1.1", "2.0", "2.1", "3.0", "3.1", "3.2", "4.0", "4.1", "5.0", "5.1", "5.2", "6.0", "6.1", "6.2",
   "6.3", "7.0", "8.0", "9.0", "10.0", "11.0", "12.0", "12.1", "13.0", "14.0", "15.0", "15.1", "16.0"]

/-- What one of some editions is the first to speak of. -/
def agedSet (chosen : List String) : CharSet :=
  CharSet.ofRanges (chosenRuns chosen.contains ageTable)

def editionsUpTo? (edition : String) : Option (List String) :=
  if editions.contains edition then some (editions.takeWhile (· != edition) ++ [edition]) else none

def knownSet : CharSet := agedSet editions

end FluentAssert.Text
