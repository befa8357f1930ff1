/-! Glob patterns over whole texts. `?` stands for any character, `*` for any characters, `[...]`
and `[!...]` for the characters of a set and for all others. `**` fills whole components of a path.
-/
namespace FluentAssert.Glob

abbrev CharSet := List (Char × Char)

def CharSet.has (set : CharSet) (c : Char) : Bool :=
  set.any fun (low, high) => low ≤ c && c ≤ high

inductive Token where
  | literal (c : Char)
  | anyChar
  | within (set : CharSet)
  | except (set : CharSet)
  /-- Any characters. -/
  | sequence
  | components
  deriving DecidableEq

abbrev Pattern := List Token

inductive Fault where
  | tooManyStars | loneComponents | badRange
  deriving DecidableEq, Repr

def Fault.message : Fault → String
  | .tooManyStars => "wildcards are either regular `*` or recursive `**`"
  | .loneComponents => "recursive wildcards must form a single path component"
  | .badRange => "invalid range pattern"

structure PatternError where
  position : Nat
  fault : Fault
  deriving DecidableEq, Repr

def PatternError.message (e : PatternError) : String :=
  "Pattern syntax error near position " ++ toString e.position ++ ": " ++ e.fault.message

/-- Members of a set, of which three with a hyphen in the middle are a range. -/
def readSet : List Char → CharSet
  | low :: '-' :: high :: rest => (low, high) :: readSet rest
  | c :: rest => (c, c) :: readSet rest
  | [] => []

/-- Splits behind the first closing bracket that is not the first character. -/
def splitSet : List Char → Option (List Char × List Char)
  | [] => none
  | first :: rest =>
    match rest.dropWhile (· != ']') with
    | [] => none
    | _ :: after => some (first :: rest.takeWhile (· != ']'), after)

/-- A bracketed set behind its opening bracket, with what follows it. -/
def readBracket (rest : List Char) : Option (Token × List Char) :=
  match rest with
  | '!' :: members => (splitSet members).map fun (members, after) => (.except (readSet members), after)
  | members => (splitSet members).map fun (members, after) => (.within (readSet members), after)

/-- A component wildcard, unless it repeats the one just read. The very first is never joined with
the one after it. -/
def addComponents (read : Pattern) : Pattern :=
  if 1 < read.length ∧ read.head? = some .components then read else .components :: read

/-- Tokens of the rest of a pattern, which begins at `position` behind the character `previous`;
`read` holds the tokens so far, last one first. -/
def readFrom : Nat → Nat → Option Char → Pattern → List Char → Except PatternError Pattern
  | _, _, _, read, [] => .ok read.reverse
  | 0, _, _, read, _ => .ok read.reverse
  | fuel + 1, position, previous, read, c :: rest =>
    match c with
    | '?' => readFrom fuel (position + 1) (some c) (.anyChar :: read) rest
    | '*' =>
      let stars := rest.takeWhile (· == '*')
      let after := rest.dropWhile (· == '*')
      match stars.length with
      | 0 => readFrom fuel (position + 1) (some c) (.sequence :: read) after
      | 1 =>
        if previous = none ∨ previous = some '/' then
          match after with
          | [] => .ok (addComponents read).reverse
          | next :: later =>
            if next = '/' then readFrom fuel (position + 3) (some next) (addComponents read) later
            else .error ⟨position + 2, .loneComponents⟩
        else .error ⟨position - 1, .loneComponents⟩
      | _ => .error ⟨position + 2, .tooManyStars⟩
    | '[' =>
      match readBracket rest with
      | none => .error ⟨position, .badRange⟩
      | some (token, after) =>
        readFrom fuel (position + 1 + (rest.length - after.length)) (some ']') (token :: read) after
    | c => readFrom fuel (position + 1) (some c) (.literal c :: read) rest

def parse (pattern : String) : Except PatternError Pattern :=
  let chars := pattern.toList
  readFrom chars.length 0 none [] chars

def Token.accepts (token : Token) (c : Char) : Bool :=
  match token with
  | .literal d => c == d
  | .anyChar => true
  | .within set => set.has c
  | .except set => !set.has c
  | .sequence => false
  | .components => false

def hereOrLater : List Bool → List Bool
  | [] => []
  | here :: row =>
    let later := hereOrLater row
    (here || later.headD false) :: later

/-- Whether a match is behind a separator to come, or at the end of the text. -/
def behindSeparator : List Char → List Bool → List Bool
  | [], row => row
  | _, [] => []
  | c :: text, _ :: row =>
    let later := behindSeparator text row
    ((c == '/' && row.headD false) || later.headD false) :: later

/-- Whether a token takes the next character and a match follows it. -/
def afterAccepted (token : Token) : List Char → List Bool → List Bool
  | c :: text, _ :: row => (token.accepts c && row.headD false) :: afterAccepted token text row
  | _, _ => [false]

/-- The row of a pattern that goes on behind a first token. -/
def Token.extend (token : Token) (text : List Char) (row : List Bool) : List Bool :=
  match token with
  | .sequence => hereOrLater row
  | .components => List.zipWith (· || ·) row (behindSeparator text row)
  | _ => afterAccepted token text row

def matchRow (pattern : Pattern) (text : List Char) : List Bool :=
  pattern.foldr (·.extend text) (text.foldr (fun _ row => false :: row) [true])

def isMatch (pattern : Pattern) (text : String) : Bool :=
  (matchRow pattern text.toList).headD false

end FluentAssert.Glob
