/-! Text and its UTF-8 bytes. Reading goes piece by piece: a piece is a character, or the longest
run of bytes that begins like one and is none. -/
namespace FluentAssert.Text

abbrev Bytes := List UInt8

/-- The first piece of some bytes; `extra` counts its bytes after the first. -/
inductive Piece where
  | char (c : Char) (extra : Nat)
  | invalid (extra : Nat)
  | incomplete

namespace Piece

/-- The lowest and highest second byte, and the number of bytes that follow the first. -/
def shape? (first : UInt8) : Option (UInt8 × UInt8 × Nat) :=
  if 0xC2 ≤ first ∧ first ≤ 0xDF then some (0x80, 0xBF, 1)
  else if first = 0xE0 then some (0xA0, 0xBF, 2)
  else if first = 0xED then some (0x80, 0x9F, 2)
  else if 0xE1 ≤ first ∧ first ≤ 0xEF then some (0x80, 0xBF, 2)
  else if first = 0xF0 then some (0x90, 0xBF, 3)
  else if 0xF1 ≤ first ∧ first ≤ 0xF3 then some (0x80, 0xBF, 3)
  else if first = 0xF4 then some (0x80, 0x8F, 3)
  else none

/-- Bits of the code point in a first byte that announces `extra` more. -/
def leadBits (first : UInt8) (extra : Nat) : Nat := first.toNat % Nat.pow 2 (6 - extra)

/-- Takes `owed` more bytes into `code`; the next one lies between `low` and `high`, the later
ones are tails. -/
def follow (low high : UInt8) (code : Nat) : Nat → Nat → Bytes → Piece
  | taken, 0, _ => .char (Char.ofNat code) taken
  | _, _ + 1, [] => .incomplete
  | taken, owed + 1, b :: rest =>
    if low ≤ b ∧ b ≤ high then
      follow 0x80 0xBF (64 * code + b.toNat % 64) (taken + 1) owed rest
    else .invalid taken

end Piece

def firstPiece (first : UInt8) (rest : Bytes) : Piece :=
  if first < 0x80 then .char (Char.ofNat first.toNat) 0
  else match Piece.shape? first with
    | some (low, high, extra) => Piece.follow low high (Piece.leadBits first extra) 0 extra rest
    | none => .invalid 0

/-- Why bytes are not text, and after how many good bytes. -/
inductive Utf8Error where
  | invalid (length index : Nat)
  | incomplete (index : Nat)
  deriving DecidableEq, Repr

def Utf8Error.message : Utf8Error → String
  | .invalid length index =>
    "invalid utf-8 sequence of " ++ toString length ++ " bytes from index " ++ toString index
  | .incomplete index => "incomplete utf-8 byte sequence from index " ++ toString index

def decodeFrom (index : Nat) : Bytes → Except Utf8Error (List Char)
  | [] => .ok []
  | first :: rest =>
    match firstPiece first rest with
    | .char c extra => (decodeFrom (index + extra + 1) (rest.drop extra)).map (c :: ·)
    | .invalid extra => .error (.invalid (extra + 1) index)
    | .incomplete => .error (.incomplete index)
termination_by bytes => bytes.length
decreasing_by simp only [List.length_drop, List.length_cons]; omega

def decodeUtf8 (bytes : Bytes) : Except Utf8Error String :=
  (decodeFrom 0 bytes).map String.ofList

def replacement : Char := Char.ofNat 0xFFFD

/-- Characters of `bytes`, with each piece that is none replaced. -/
def decodeLossyChars : Bytes → List Char
  | [] => []
  | first :: rest =>
    match firstPiece first rest with
    | .char c extra => c :: decodeLossyChars (rest.drop extra)
    | .invalid extra => replacement :: decodeLossyChars (rest.drop extra)
    | .incomplete => [replacement]
termination_by bytes => bytes.length
decreasing_by all_goals (simp only [List.length_drop, List.length_cons]; omega)

def decodeUtf8Lossy (bytes : Bytes) : String := String.ofList (decodeLossyChars bytes)

def encodeUtf8 (text : String) : Bytes := text.toList.flatMap String.utf8EncodeChar

end FluentAssert.Text
