import FluentAssert.Text.CharSet
import FluentAssert.Text.ScriptTable

/-! Scripts, by their four letters: the script that a character belongs to, and those that it is
written in, which are several for signs that scripts share. -/
namespace FluentAssert.Text

/-- An entry is hexadecimal digits and four letters. -/
def readScriptRun (word : List Char) : Nat × String :=
  let size := word.length - 4
  (hexValue (word.take size), String.ofList (word.drop size))

def scriptTable : List (Nat × String) := (tableWords scriptRuns).map readScriptRun

def scripts : List (String × List String) :=
  (tableWords scriptNames).map fun word =>
    let names := (word.splitOn ':').map String.ofList
    (names.headD "", names)

def scriptSet (letters : String) : CharSet :=
  CharSet.ofRanges (chosenRuns (· == letters) scriptTable)

/-- An entry is the first and the last code point and the scripts, with hyphens between. -/
def readSharedRun (word : List Char) : (Nat × Nat) × List String :=
  match word.splitOn '-' with
  | low :: high :: letters => ((hexValue low, hexValue high), letters.map String.ofList)
  | _ => ((1, 0), [])

/-- Ranges of characters that are not written in their own script alone. -/
def sharedScripts : List ((Nat × Nat) × List String) :=
  (tableWords sharedScriptRuns).map readSharedRun

def scriptUseSet (letters : String) : CharSet :=
  let own := CharSet.diff (scriptSet letters) (CharSet.ofRanges (sharedScripts.map (·.1)))
  CharSet.union own <| CharSet.ofRanges <|
    (sharedScripts.filter fun (_, scripts) => scripts.contains letters).map (·.1)

end FluentAssert.Text
