import FluentAssert.Text.CharSet
import FluentAssert.Text.FoldTable
import FluentAssert.Text.Lowercase

/-! Case folding: characters that differ in case alone, and the closure of sets under it. -/
namespace FluentAssert.Text

def foldTable : List CaseRun := (tableWords foldRuns).map readCaseRun

def CaseRun.entries (run : CaseRun) : List (Nat × Nat) :=
  (List.range ((run.last - run.first) / run.step + 1)).map fun i =>
    (run.first + i * run.step, run.image + i * run.step)

/-- Every character that folds to another one, with that one. -/
def foldEntries : List (Nat × Nat) := foldTable.flatMap CaseRun.entries

def foldedSet : CharSet :=
  CharSet.ofRanges (foldEntries.flatMap fun (code, image) => [(code, code), (image, image)])

/-- Adds every character that is equal to one of the set but for case. -/
def CharSet.foldClosure (set : CharSet) : CharSet :=
  let targets := CharSet.ofRanges
    ((foldEntries.filter fun (code, image) => set.hasCode code || set.hasCode image).map
      fun (_, image) => (image, image))
  let added := foldEntries.filter fun (_, image) => targets.hasCode image
  CharSet.union (CharSet.ofRanges (added.flatMap fun (code, image) => [(code, code), (image, image)]))
    set

def CharSet.foldAscii (set : CharSet) : CharSet :=
  let letters := (List.range 26).flatMap fun i =>
    let upper := 0x41 + i
    let lower := 0x61 + i
    (if set.hasCode upper then [(lower, lower)] else []) ++
      if set.hasCode lower then [(upper, upper)] else []
  CharSet.union (CharSet.ofRanges letters) set

end FluentAssert.Text
