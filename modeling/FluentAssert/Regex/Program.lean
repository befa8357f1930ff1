import FluentAssert.Regex.Expr

/-! Programs: expressions as instructions that say where to go on. -/
namespace FluentAssert.Regex

open FluentAssert.Text

inductive Instruction where
  | eat (chars : CharSet) (next : Nat)
  | look (l : Look) (next : Nat)
  | note (slot : Nat) (next : Nat)
  /-- Goes on at the first place, and if that fails at the second. -/
  | split (first second : Nat)
  | jump (next : Nat)
  | accept
  deriving Repr, Inhabited

structure Program where
  code : Array Instruction
  start : Nat
  deriving Inhabited

namespace Program

def push (instruction : Instruction) (code : Array Instruction) : Program :=
  let place := code.size
  ⟨code.push instruction, place⟩

/-- A choice between a body and what comes behind it. -/
def fork (greedy : Bool) (body behind : Nat) : Instruction :=
  if greedy then .split body behind else .split behind body

/-- Puts `emit`, which goes on at the start of the program it gets, in front `n` times. -/
def times (emit : Program → Program) : Nat → Program → Program
  | 0, program => program
  | n + 1, program => times emit n (emit program)

/-- A body that is done once and then again as often as possible. -/
def oneOrMore (emit : Program → Program) (greedy : Bool) : Program → Program
  | ⟨code, behind⟩ =>
    let loop := code.size
    match emit (push (.jump behind) code) with
    | ⟨code, start⟩ => ⟨code.setIfInBounds loop (fork greedy start behind), start⟩

/-- A body that is done as often as possible. It must match some character each time. -/
def zeroOrMore (emit : Program → Program) (greedy : Bool) : Program → Program
  | ⟨code, behind⟩ =>
    let loop := code.size
    match oneOrMore emit greedy ⟨code, behind⟩ with
    | ⟨code, _⟩ => ⟨code, loop⟩

def optional (emit : Program → Program) (greedy : Bool) (behind : Nat) (program : Program) :
    Program :=
  match emit program with
  | ⟨code, start⟩ => push (fork greedy start behind) code

/-- A body that is done `n` times at most, each time only after the one before. -/
def upTo (emit : Program → Program) (greedy : Bool) (n : Nat) : Program → Program
  | ⟨code, behind⟩ => times (optional emit greedy behind) n ⟨code, behind⟩

/-- A repetition. An unbounded one whose body may be empty is an optional repetition of one and
more, so that the order of preference stays. -/
def repetition (emit : Program → Program) (min : Nat) (max : Option Nat) (greedy solid : Bool) :
    Program → Program
  | ⟨code, behind⟩ =>
    match max with
    | some max => times emit min (upTo emit greedy (max - min) ⟨code, behind⟩)
    | none =>
      match min with
      | 0 =>
        if solid then zeroOrMore emit greedy ⟨code, behind⟩
        else optional (oneOrMore emit greedy) greedy behind ⟨code, behind⟩
      | min + 1 => times emit min (oneOrMore emit greedy ⟨code, behind⟩)

def emitLiteral (chars : List Char) (program : Program) : Program :=
  chars.foldr (fun c ⟨code, next⟩ => push (.eat (.single c) next) code) program

mutual

def emit : Expr → Program → Program
  | .empty, program => program
  | .literal chars, program => emitLiteral chars program
  | .set chars, ⟨code, next⟩ => push (.eat chars next) code
  | .look l, ⟨code, next⟩ => push (.look l next) code
  | .repetition min max greedy body, program =>
    repetition (emit body) min max greedy body.isSolid program
  | .group index _ body, ⟨code, next⟩ =>
    match emit body (push (.note (2 * index + 1) next) code) with
    | ⟨code, start⟩ => push (.note (2 * index) start) code
  | .concat items, program => emitAll items program
  | .choice branches, ⟨code, behind⟩ => emitChoice branches behind code

def emitAll : List Expr → Program → Program
  | [], program => program
  | item :: rest, program => emit item (emitAll rest program)

def emitChoice : List Expr → (behind : Nat) → Array Instruction → Program
  | [], _, code => push (.eat [] 0) code
  | [branch], behind, code => emit branch ⟨code, behind⟩
  | branch :: rest, behind, code =>
    match emitChoice rest behind code with
    | ⟨code, second⟩ =>
      match emit branch ⟨code, behind⟩ with
      | ⟨code, first⟩ => push (.split first second) code

end

def ofExpr (expr : Expr) : Program := emit (.group 0 none expr) ⟨#[.accept], 0⟩

end Program
end FluentAssert.Regex
