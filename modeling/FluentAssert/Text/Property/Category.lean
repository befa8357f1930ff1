import FluentAssert.Text.Age
import FluentAssert.Text.Alphabetic
import FluentAssert.Text.Blank

/-! Sets of characters by category, and the sets that have letters of their own in patterns. They
are those of edition 16.0 of the Unicode standard. -/
namespace FluentAssert.Text

/-- The one letter that has another category since: it was lowercase. -/
def recategorized : CharSet := [(0x295, 0x295)]

def knownCategorySet (chosen : Category → Bool) : CharSet :=
  let known := CharSet.inter knownSet (CharSet.ofRanges (chosenRuns chosen categoryTable))
  if chosen .lowercaseLetter then CharSet.union known recategorized
  else CharSet.diff known recategorized

/-- Characters whose category is chosen. What is not known is unassigned. -/
def categorySet (chosen : Category → Bool) : CharSet :=
  if chosen .unassigned then CharSet.union (knownCategorySet chosen) (CharSet.complement knownSet)
  else knownCategorySet chosen

def markSet : CharSet := categorySet Category.isMark

def digitSet : CharSet := categorySet (· = .decimalNumber)

def blankSet : CharSet := CharSet.ofRanges blanks

def joinerSet : CharSet := [(0x200C, 0x200D)]

def otherAlphabeticSet : CharSet :=
  CharSet.union (CharSet.ofRanges alphabeticSymbols) (CharSet.diff markSet (CharSet.ofRanges silentMarks))

def alphabeticSet : CharSet :=
  CharSet.union otherAlphabeticSet
    (categorySet fun kind => kind.isLetter || kind = .letterNumber)

/-- Characters of words: letters, marks, decimal digits, connectors and joiners. -/
def wordSet : CharSet :=
  CharSet.union (CharSet.union alphabeticSet joinerSet) <|
    categorySet fun kind => kind.isMark || kind = .decimalNumber || kind = .connectorPunctuation

end FluentAssert.Text
