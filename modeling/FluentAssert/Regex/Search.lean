import FluentAssert.Regex.Program
import FluentAssert.Text.Property.Category

/-! Searching: the first match from the left, and of those that begin there the preferred one. A
place of the program is tried once at each place of the text, so that the work is bounded by the
product of the two. -/
namespace FluentAssert.Regex

open FluentAssert.Text

abbrev Subject := Array Char

/-- Places that the groups begin and end at, two for each group. -/
abbrev Slots := Array (Option Nat)

def isWord (unicode : Bool) (c : Char) : Bool :=
  if unicode then wordSet.hasCode c.toNat else c.isAlphanum || c == '_'

namespace Look

def before? (text : Subject) (i : Nat) : Option Char := if i = 0 then none else text[i - 1]?

def holds (text : Subject) (i : Nat) : Look → Bool
  | textStart => i == 0
  | textEnd => i == text.size
  | lineStart => i == 0 || before? text i == some '\n'
  | lineEnd => i == text.size || text[i]? == some '\n'
  | crlfLineStart =>
    i == 0 || before? text i == some '\n' ||
      (before? text i == some '\r' && text[i]? != some '\n')
  | crlfLineEnd =>
    i == text.size || text[i]? == some '\r' ||
      (text[i]? == some '\n' && before? text i != some '\r')
  | boundary unicode => wordBefore unicode != wordAfter unicode
  | noBoundary unicode => wordBefore unicode == wordAfter unicode
  | wordStart unicode => !wordBefore unicode && wordAfter unicode
  | wordEnd unicode => wordBefore unicode && !wordAfter unicode
  | wordStartHalf unicode => !wordBefore unicode
  | wordEndHalf unicode => !wordAfter unicode
where
  wordBefore (unicode : Bool) : Bool := (before? text i).any (isWord unicode)
  wordAfter (unicode : Bool) : Bool := text[i]?.any (isWord unicode)

end Look

/-- What is left to try, the next one first. -/
inductive Task where
  | goOn (pc : Nat) (i : Nat)
  /-- Take back what a slot was given. -/
  | restore (slot : Nat) (old : Option Nat)

/-- For each place of the program, the places of the text that it was tried at, as bits of words. A
row is empty until its place is tried. -/
abbrev Tried := Array (Array Nat)

namespace Tried

def wordBits : Nat := 32

def has (tried : Tried) (pc i : Nat) : Bool :=
  match tried[pc]? with
  | some row => (row.getD (i / wordBits) 0).testBit (i % wordBits)
  | none => true

/-- Marks a place `i` of a text whose places go up to `last`. -/
def mark (tried : Tried) (last pc i : Nat) : Tried :=
  tried.modify pc fun row =>
    (if row.isEmpty then Array.replicate (last / wordBits + 1) 0 else row).modify (i / wordBits)
      fun word => word ||| 1 <<< (i % wordBits)

end Tried

structure Trial where
  tasks : List Task
  tried : Tried
  slots : Slots

/-- What one instruction leaves to do, or none if it accepts. -/
def Task.ofInstruction (text : Subject) (slots : Slots) (i : Nat) :
    Instruction → Option (List Task × Slots)
  | .eat chars next =>
    match text[i]? with
    | some c => if chars.hasCode c.toNat then some ([.goOn next (i + 1)], slots) else some ([], slots)
    | none => some ([], slots)
  | .look l next => some (if l.holds text i then [.goOn next i] else [], slots)
  | .note slot next =>
    some ([.goOn next i, .restore slot (slots.getD slot none)], slots.setIfInBounds slot (some i))
  | .split first second => some ([.goOn first i, .goOn second i], slots)
  | .jump next => some ([.goOn next i], slots)
  | .accept => none

/-- Works through the tasks. Gives the slots of the match, or none, and what was tried. -/
def attempt (program : Program) (text : Subject) : Nat → Trial → Option Slots × Tried
  | 0, trial => (none, trial.tried)
  | fuel + 1, ⟨tasks, tried, slots⟩ =>
    match tasks with
    | [] => (none, tried)
    | .restore slot old :: rest => attempt program text fuel ⟨rest, tried, slots.setIfInBounds slot old⟩
    | .goOn pc i :: rest =>
      if tried.has pc i then attempt program text fuel ⟨rest, tried, slots⟩
      else
        match Task.ofInstruction text slots i (program.code.getD pc .accept) with
        | none => (some slots, tried)
        | some (more, slots) =>
          attempt program text fuel ⟨more ++ rest, tried.mark text.size pc i, slots⟩

/-- Every place is tried once and leaves two tasks at most. -/
def effort (program : Program) (text : Subject) : Nat :=
  2 * (program.code.size * (text.size + 1)) + 2

/-- Tries the places of the text from the left, `count` of them. -/
def searchFrom (program : Program) (text : Subject) (empty : Slots) :
    (count : Nat) → (i : Nat) → Tried → Option Slots
  | 0, _, _ => none
  | count + 1, i, tried =>
    match attempt program text (effort program text) ⟨[.goOn program.start i], tried, empty⟩ with
    | (some slots, _) => some slots
    | (none, tried) => searchFrom program text empty count (i + 1) tried

def search (program : Program) (groups : Nat) (text : Subject) : Option Slots :=
  searchFrom program text (Array.replicate (2 * groups) none) (text.size + 1) 0
    (Array.replicate program.code.size #[])

end FluentAssert.Regex
