import FluentAssert.Regex.Expr
import FluentAssert.Regex.Octets
import Std.Data.HashMap

/-! The memory that an expression takes as an automaton over octets, which has a limit. There are
two automata, one that reads the text ahead and one that reads it back. A set of characters becomes
a tree of octet ranges; states that go on alike are one as far as a small cache remembers them. -/
namespace FluentAssert.Regex

open FluentAssert.Text

inductive Direction where
  | ahead | back
  deriving DecidableEq, Repr

/-- Edges of a state: the lowest octet, the highest octet and the state behind them. -/
abbrev Edges := List (OctetRange × Nat)

/-- States by slot, each with the key it was made for. A new state takes the slot of an old one. -/
structure Cache where
  slots : Nat
  kept : Std.HashMap Nat (List Nat × Nat)

namespace Cache

def empty (slots : Nat) : Cache := ⟨slots, {}⟩

def slot (cache : Cache) (key : List Nat) : Nat :=
  let mixed := key.foldl (fun (h : UInt64) n => (h ^^^ n.toUInt64) * 1099511628211) 14695981039346656037
  mixed.toNat % cache.slots

def find? (cache : Cache) (key : List Nat) : Option Nat :=
  match cache.kept[cache.slot key]? with
  | some (other, state) => if other = key then some state else none
  | none => none

def insert (cache : Cache) (key : List Nat) (state : Nat) : Cache :=
  { cache with kept := cache.kept.insert (cache.slot key) (key, state) }

end Cache

/-- How large an automaton is: its states, which are numbered from zero, and the octets they take
beside their own size. -/
structure Memory where
  states : Nat
  extra : Nat
  deriving DecidableEq, Repr

namespace Memory

def limit : Nat := 10485760

def stateSize : Nat := 32

def edgeSize : Nat := 8

def wayCost : Nat := 4

def total (memory : Memory) : Nat := stateSize * memory.states + memory.extra

def isOver (memory : Memory) : Bool := limit < memory.total

def add (states ways : Nat) (memory : Memory) : Memory :=
  ⟨memory.states + states, memory.extra + wayCost * ways⟩

def addEdges (edges : Nat) (memory : Memory) : Memory :=
  ⟨memory.states + 1, memory.extra + edgeSize * edges⟩

/-- The state with these edges, made if it is not remembered. Without edges it is the target. -/
def place (target : Nat) (edges : Edges) : Memory × Cache → Nat × Memory × Cache
  | (memory, cache) =>
    if edges.isEmpty then (target, memory, cache)
    else
      let key := edges.flatMap fun ((low, high), next) => [low, high, next]
      match cache.find? key with
      | some state => (state, memory, cache)
      | none => (memory.states, memory.addEdges edges.length, cache.insert key memory.states)

/-- The edges of a node, with the states below them made. -/
def edgesOf (target : Nat) : OctetTree → Memory × Cache → Edges × Memory × Cache
  | .done, grown => ([], grown)
  | .edge range child others, grown =>
    let (below, grown) := edgesOf target child grown
    let (state, grown) := place target below grown
    let (edges, grown) := edgesOf target others grown
    ((range, state) :: edges, grown)

def cacheAhead : Nat := 10000

def addTree (tree : OctetTree) (memory : Memory) : Memory :=
  let target := memory.states
  let (edges, grown) := edgesOf target tree (memory.add 1 0, .empty cacheAhead)
  (place target edges grown).2.1

/-- A sequence read back: each octet range ends at the state of the one before. -/
def addSequence (finish : Nat) (sequence : List OctetRange) (grown : Memory × Cache) :
    Memory × Cache :=
  let (_, memory, cache) := sequence.foldl (fun (finish, memory, cache) (low, high) =>
    match Cache.find? cache [finish, low, high] with
    | some state => (state, memory, cache)
    | none => (memory.states, add 1 0 memory, cache.insert [finish, low, high] memory.states))
    (finish, grown)
  (memory.add 0 1, cache)

def cacheBack : Nat := 1000

def addSequences (sequences : List (List OctetRange)) (memory : Memory) : Memory :=
  let finish := memory.states + 1
  (sequences.foldl (fun grown sequence => addSequence finish sequence grown)
    (memory.add 2 0, .empty cacheBack)).1

/-- A set. One of ASCII characters is a single state with its edges, and a target. -/
def addSet (direction : Direction) (chars : CharSet) (memory : Memory) : Memory :=
  if chars.isAscii then (memory.add 1 0).addEdges chars.length
  else
    match direction with
    | .ahead => memory.addTree (.ofSequences (Octets.ofSet chars))
    | .back => memory.addSequences (Octets.ofSet chars)

def octetsOf (chars : List Char) : List Nat :=
  chars.flatMap fun c => (String.utf8EncodeChar c).map UInt8.toNat

/-- Edges that were made between two ends. A single one is a state without a list of edges. -/
def addRun : (edges : Nat) → Memory → Memory
  | 0, memory => memory
  | 1, memory => memory.add 1 1
  | edges, memory => (memory.addEdges edges).add 0 1

/-- A node that has edges, after `edges` of the present run. -/
def addNode : LiteralTree → (edges : Nat) → Memory → Memory
  | .bare, edges, memory => addRun edges memory
  | .ended before, edges, memory => addNode before 0 ((addRun edges memory).add 0 1)
  | .edge _ child others, edges, memory =>
    let memory := match child with
      | .bare | .ended .bare => memory
      | child => addNode child 0 (memory.add 1 0)
    addNode others (edges + 1) memory

/-- The octets of all branches, if each is a literal. -/
def literals? : List Expr → Option (List (List Nat))
  | [] => some []
  | .literal chars :: rest => (literals? rest).map (octetsOf chars :: ·)
  | _ :: _ => none

def addLiterals (direction : Direction) (texts : List (List Nat)) (memory : Memory) : Memory :=
  let texts := match direction with
    | .ahead => texts
    | .back => texts.map List.reverse
  addNode (.ofTexts texts) 0 (memory.add 2 0)

/-- Adds a part `n` times, or until the limit is passed. -/
def times (part : Memory → Memory) : Nat → Memory → Memory
  | 0, memory => memory
  | n + 1, memory => if memory.isOver then memory else times part n (part memory)

def addRepetition (body : Memory → Memory) (min : Nat) (max : Option Nat) (solid : Bool)
    (memory : Memory) : Memory :=
  match min, max with
  | 0, none => if solid then body (memory.add 1 2) else (body memory).add 3 4
  | min, none => (times body min memory).add 1 2
  | 0, some 1 => (body (memory.add 1 2)).add 1 0
  | min, some max =>
    let memory := if min = 0 then memory.add 1 0 else times body min memory
    if min = max then memory
    else times (fun memory => body (memory.add 1 2)) (max - min) (memory.add 1 0)

mutual

def addExpr (direction : Direction) : Expr → Memory → Memory
  | .empty, memory => memory.add 1 0
  | .literal chars, memory => memory.add (octetsOf chars).length 0
  | .set chars, memory => memory.addSet direction chars
  | .look _, memory => memory.add 1 0
  | .repetition min max _ body, memory =>
    addRepetition (addExpr direction body) min max body.isSolid memory
  | .group _ _ body, memory =>
    match direction with
    | .ahead => (addExpr .ahead body (memory.add 1 0)).add 1 0
    | .back => addExpr .back body memory
  | .concat items, memory => addItems direction items memory
  | .choice branches, memory =>
    match literals? branches with
    | some texts => memory.addLiterals direction texts
    | none => addBranches direction branches 0 memory

def addItems (direction : Direction) : List Expr → Memory → Memory
  | [], memory => memory
  | item :: rest, memory =>
    match direction with
    | .ahead => addItems .ahead rest (addExpr .ahead item memory)
    | .back => addExpr .back item (addItems .back rest memory)

/-- Branches after the first `before`. The state that leads to them all, and the one they lead to,
come after the second branch. -/
def addBranches (direction : Direction) : List Expr → (before : Nat) → Memory → Memory
  | [], _, memory => memory
  | branch :: rest, before, memory =>
    let memory := (addExpr direction branch memory).add (if before = 1 then 2 else 0) 1
    addBranches direction rest (before + 1) memory

end

def edgeLook : Direction → Look
  | .ahead => .textStart
  | .back => .textEnd

mutual

/-- Whether a match can only begin, or read back end, at an end of the text. -/
def isAnchored (direction : Direction) : Expr → Bool
  | .look l => l == edgeLook direction
  | .repetition min _ _ body => min != 0 && isAnchored direction body
  | .group _ _ body => isAnchored direction body
  | .concat items => anyAnchored direction items
  | .choice branches => allAnchored direction branches
  | _ => false

/-- An item is asked only if those that are read before it have no width. -/
def anyAnchored (direction : Direction) : List Expr → Bool
  | [] => false
  | item :: rest =>
    match direction with
    | .ahead => isAnchored .ahead item || (item.isWidthless && anyAnchored .ahead rest)
    | .back => anyAnchored .back rest || (Expr.allWidthless rest && isAnchored .back item)

def allAnchored (direction : Direction) : List Expr → Bool
  | [] => true
  | branch :: rest => isAnchored direction branch && allAnchored direction rest

end

/-- The automaton of a pattern: a loop over what comes before a match, unless it is anchored, the
match as group zero, and the state that accepts. -/
def ofExpr (direction : Direction) (expr : Expr) : Memory :=
  let start : Memory := ⟨0, 0⟩
  let start := if isAnchored direction expr then start.add 1 0 else (start.add 2 2).addEdges 1
  (addExpr direction (.group 0 none expr) start).add 1 0

end Memory

/-- From so many texts on, a choice between texts needs no automaton. -/
def manyTexts : Nat := 3000

def Expr.isLexicon : Expr → Bool
  | .choice branches => manyTexts ≤ branches.length && (Memory.literals? branches).isSome
  | _ => false

/-- Both automata of an expression stay within the limit. -/
def Expr.fits (expr : Expr) : Bool :=
  expr.isLexicon ||
    (!(Memory.ofExpr .ahead expr).isOver && !(Memory.ofExpr .back expr).isOver)

end FluentAssert.Regex
