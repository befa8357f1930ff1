import FluentAssert.Text.Category

/-! Quoted text as it stands in messages and breadcrumbs: printable characters as they are, and the
rest as escapes. -/
namespace FluentAssert.Text

/-- Escape by code point, in the fewest lowercase hexadecimal digits. -/
def escapeCode (c : Char) : List Char :=
  '\\' :: 'u' :: '\x7b' :: (Nat.toDigits 16 c.toNat ++ ['\x7d'])

def escapeQuoted (c : Char) : List Char :=
  if c = '\x00' then ['\\', '0']
  else if c = '\t' then ['\\', 't']
  else if c = '\r' then ['\\', 'r']
  else if c = '\n' then ['\\', 'n']
  else if c = '\\' ∨ c = '"' then ['\\', c]
  else if c.toNat < 0x7F ∧ 0x20 ≤ c.toNat then [c]
  else if isExtender c ∨ ¬ isPrintable c then escapeCode c
  else [c]

def quoted (text : String) : String :=
  String.ofList ('"' :: (text.toList.flatMap escapeQuoted ++ ['"']))

end FluentAssert.Text
