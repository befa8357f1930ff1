import FluentAssert.Text.Ranges
import FluentAssert.Text.CategoryTable

/-! The general category of a character, and the properties that follow from it. -/
namespace FluentAssert.Text

inductive Category where
  | uppercaseLetter | lowercaseLetter | titlecaseLetter | modifierLetter | otherLetter
  | nonspacingMark | spacingMark | enclosingMark
  | decimalNumber | letterNumber | otherNumber
  | connectorPunctuation | dashPunctuation | openPunctuation | closePunctuation
  | initialPunctuation | finalPunctuation | otherPunctuation
  | mathSymbol | currencySymbol | modifierSymbol | otherSymbol
  | spaceSeparator | lineSeparator | paragraphSeparator
  | control | format | surrogate | privateUse | unassigned
  deriving DecidableEq, Repr

namespace Category

def codes : List (String × Category) :=
  [("Lu", uppercaseLetter), ("Ll", lowercaseLetter), ("Lt", titlecaseLetter),
   ("Lm", modifierLetter), ("Lo", otherLetter), ("Mn", nonspacingMark), ("Mc", spacingMark),
   ("Me", enclosingMark), ("Nd", decimalNumber), ("Nl", letterNumber), ("No", otherNumber),
   ("Pc", connectorPunctuation), ("Pd", dashPunctuation), ("Ps", openPunctuation),
   ("Pe", closePunctuation), ("Pi", initialPunctuation), ("Pf", finalPunctuation),
   ("Po", otherPunctuation), ("Sm", mathSymbol), ("Sc", currencySymbol), ("Sk", modifierSymbol),
   ("So", otherSymbol), ("Zs", spaceSeparator), ("Zl", lineSeparator), ("Zp", paragraphSeparator),
   ("Cc", control), ("Cf", format), ("Cs", surrogate), ("Co", privateUse), ("Cn", unassigned)]

def ofCode (code : String) : Category := (codes.lookup code).getD unassigned

def isLetter (k : Category) : Bool :=
  [uppercaseLetter, lowercaseLetter, titlecaseLetter, modifierLetter, otherLetter].contains k

def isMark (k : Category) : Bool := [nonspacingMark, spacingMark, enclosingMark].contains k

def isSeparator (k : Category) : Bool :=
  [spaceSeparator, lineSeparator, paragraphSeparator].contains k

/-- Controls, format characters, surrogates, private use and unassigned code points. -/
def isOther (k : Category) : Bool :=
  [control, format, surrogate, privateUse, unassigned].contains k

end Category

/-- An entry is hexadecimal digits and a category's two letters, of which only the first is
uppercase. -/
def readCategoryRun (word : List Char) : Nat × Category :=
  let size := word.length - 2
  (hexValue (word.take size), .ofCode (String.ofList (word.drop size)))

def categoryTable : List (Nat × Category) := (tableWords categoryRuns).map readCategoryRun

/-- Category of the last run that begins at or before `code`. -/
def categoryIn (code : Nat) (found : Category) : List (Nat × Category) → Category
  | [] => found
  | (first, kind) :: rest => if first ≤ code then categoryIn code kind rest else found

def category (c : Char) : Category := categoryIn c.toNat .unassigned categoryTable

/-- Letters without a shape, which fill the place of one. -/
def fillers : Ranges := [(0x115F, 0x1160), (0x3164, 0x3164), (0xFFA0, 0xFFA0)]

def isPrintable (c : Char) : Bool :=
  c = ' ' || !((category c).isOther || (category c).isSeparator || fillers.contains c)

/-- Characters that extend the one before them without being marks of no width. The halfwidth
voicing marks do so too, but are shown on their own. -/
def otherExtenders : Ranges :=
  readRanges
    ["9BE 9D7 B3E B57 BBE BD7 CC0 CC2 CC7:CC8 CCA:CCB CD5:CD6 D3E D57 DCF DDF 1715 1734 1B35 1B3B",
     "1B3D 1B43:1B44 1BAA 1BF2:1BF3 200C 302E:302F A953 A9C0 111C0 11235 1133E 1134D 11357 113B8",
     "113C2 113C5 113C7:113C9 113CF 114B0 114BD 115AF 116B6 11930 1193D 11F41 16FF0:16FF1",
     "1D165:1D166 1D16D:1D172 E0020:E007F"]

def isExtender (c : Char) : Bool :=
  category c = .nonspacingMark || category c = .enclosingMark || otherExtenders.contains c

/-- Cased characters that are not cased letters by category. -/
def otherCased : Ranges :=
  readRanges
    ["AA BA 2B0:2B8 2C0:2C1 2E0:2E4 345 37A 10FC 1D2C:1D6A 1D78 1D9B:1DBF 2071 207F 2090:209C",
     "2160:217F 24B6:24E9 2C7C:2C7D A69C:A69D A770 A7F1:A7F4 A7F8:A7F9 AB5C:AB5F AB69 10780",
     "10783:10785 10787:107B0 107B2:107BA 1E030:1E06D 1F130:1F149 1F150:1F169 1F170:1F189"]

def isCased (c : Char) : Bool :=
  category c = .uppercaseLetter || category c = .lowercaseLetter || category c = .titlecaseLetter ||
    otherCased.contains c

def midWord : Ranges :=
  readRanges
    ["27 2E 3A B7 387 55F 5F4 2018:2019 2024 2027 FE13 FE52 FE55 FF07 FF0E FF1A"]

/-- Characters that are passed over when looking for a cased neighbour. -/
def isCaseIgnorable (c : Char) : Bool :=
  [.nonspacingMark, .enclosingMark, .format, .modifierLetter, .modifierSymbol].contains (category c) ||
    midWord.contains c

end FluentAssert.Text
