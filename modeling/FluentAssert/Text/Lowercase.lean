import FluentAssert.Text.Category
import FluentAssert.Text.LowercaseTable

/-! Lowercase of whole texts. Every character has its own lowercase form but the capital sigma,
which becomes a final sigma at the end of a word. -/
namespace FluentAssert.Text

/-- Code points `first`, `first + step`, ..., `last` become `image`, `image + step`, .... -/
structure CaseRun where
  first : Nat
  last : Nat
  step : Nat
  image : Nat

def CaseRun.imageOf? (run : CaseRun) (code : Nat) : Option Nat :=
  if run.first ≤ code ∧ code ≤ run.last ∧ (code - run.first) % run.step = 0 then
    some (run.image + (code - run.first))
  else none

def readCaseRun (word : List Char) : CaseRun :=
  match (word.splitOn ':').map hexValue with
  | [first, last, step, image] => ⟨first, last, step, image⟩
  | _ => ⟨1, 0, 1, 0⟩

def lowercaseTable : List CaseRun := (tableWords lowercaseRuns).map readCaseRun

def lowercaseChar (c : Char) : List Char :=
  if c.toNat = 0x130 then ['i', Char.ofNat 0x307]
  else match lowercaseTable.findSome? (·.imageOf? c.toNat) with
    | some image => [Char.ofNat image]
    | none => [c]

/-- Past ignorable characters the text goes on with a cased one. -/
def leadsToCased (text : List Char) : Bool :=
  match text.dropWhile isCaseIgnorable with
  | c :: _ => isCased c
  | [] => false

/-- Lowercase of `text` after the characters of `before`, nearest first. -/
def lowercaseAfter (before : List Char) : List Char → List Char
  | [] => []
  | c :: rest =>
    let lower :=
      if c.toNat = 0x3A3 then
        [Char.ofNat (if leadsToCased before && !leadsToCased rest then 0x3C2 else 0x3C3)]
      else lowercaseChar c
    lower ++ lowercaseAfter (c :: before) rest

def lowercase (text : String) : String := String.ofList (lowercaseAfter [] text.toList)

def lowercaseAscii (text : String) : String := text.map Char.toLower

def equalIgnoringAsciiCase (a b : String) : Bool := lowercaseAscii a == lowercaseAscii b

end FluentAssert.Text
