import FluentAssert.Text.Property.Binary
import FluentAssert.Text.Script

/-! Classes of characters that tell where signs, words and sentences end, in edition 16.0 of the
Unicode standard, with their names. -/
namespace FluentAssert.Text

/-- The scripts of a list of names of four letters, together. -/
def scriptsSet (letters : List String) : CharSet :=
  CharSet.ofRanges (chosenRuns letters.contains scriptTable)

def spacingMarkSet : CharSet := categorySet (· = .spacingMark)

/-- Syllables of a consonant and a vowel; each is followed by those with a final consonant. -/
def openSyllables : CharSet :=
  (List.range 399).map fun i => (0xAC00 + 28 * i, 0xAC00 + 28 * i)

def closedSyllables : CharSet :=
  (List.range 399).map fun i => (0xAC01 + 28 * i, 0xAC1B + 28 * i)

/-- Marks with a width that take the place of a sign of their own. -/
def freeSpacingMarks : CharSet :=
  readRanges
    ["102B:102C 1038 1062:1064 1067:106D 1083 1087:108C 108F 109A:109C 1A61 1A63:1A64 AA7B AA7D",
     "11720:11721"]

def graphemeExtendBreak : CharSet := CharSet.union graphemeExtendSet emojiModifierSet

def graphemeControls : CharSet :=
  CharSet.diff
    (CharSet.union
      (categorySet fun kind => [.control, .format, .lineSeparator, .paragraphSeparator].contains kind)
      (CharSet.inter ignorableSet (categorySet (· = .unassigned))))
    (CharSet.union (CharSet.union (tableSet prependedMarkRuns) graphemeExtendSet)
      [(0xA, 0xA), (0xD, 0xD), (0x200D, 0x200D)])

def graphemeBreaks : List (List String × CharSet) :=
  [(["cn", "control"], graphemeControls),
   (["cr"], [(0xD, 0xD)]),
   (["ex", "extend"], graphemeExtendBreak),
   (["l"], [(0x1100, 0x115F), (0xA960, 0xA97C)]),
   (["lf"], [(0xA, 0xA)]),
   (["lv"], openSyllables),
   (["lvt"], closedSyllables),
   (["pp", "prepend"],
    CharSet.union (tableSet prependedMarkRuns)
      (readRanges ["D4E 111C2:111C3 113D1 1193F 11941 11A3A 11A84:11A89 11D46 11F02"])),
   (["ri", "regionalindicator"], regionalIndicatorSet),
   (["sm", "spacingmark"],
    CharSet.union [(0xE33, 0xE33), (0xEB3, 0xEB3)]
      (CharSet.diff (CharSet.diff spacingMarkSet graphemeExtendBreak) freeSpacingMarks)),
   (["t"], [(0x11A8, 0x11FF), (0xD7CB, 0xD7FB)]),
   (["v"], [(0x1160, 0x11A7), (0xD7B0, 0xD7C6), (0x16D63, 0x16D63), (0x16D67, 0x16D6A)]),
   (["zwj"], [(0x200D, 0x200D)])]

def wordExtenders : CharSet := CharSet.union graphemeExtendBreak spacingMarkSet

def plainFormatSet : CharSet :=
  CharSet.diff (categorySet (· = .format)) (CharSet.union (tableSet prependedMarkRuns) joinerSet)

def hebrewLetters : CharSet :=
  CharSet.inter (scriptSet "Hebr") (categorySet (· = .otherLetter))

def katakanaWord : CharSet :=
  CharSet.union (scriptSet "Kana") (readRanges ["3031:3035 309B:309C 30A0 30FC FF70"])

def unspacedScripts : List String :=
  ["Hira", "Thai", "Laoo", "Khmr", "Mymr", "Tale", "Talu", "Lana", "Tavt", "Ahom"]

def wordLetters : CharSet :=
  CharSet.union
    (CharSet.diff alphabeticSet
      (CharSet.union (CharSet.union (tableSet ideographicRuns) katakanaWord)
        (CharSet.union (CharSet.union hebrewLetters wordExtenders) (scriptsSet unspacedScripts))))
    (readRanges
      ["2C2:2C5 2D2:2D7 2DE:2DF 2E5:2EB 2ED 2EF:2FF 55A:55C 55E 58A 5F3 70F A708:A716 A720:A721",
       "A789:A78A AB5B"])

def numberSet : CharSet :=
  CharSet.diff (CharSet.union digitSet (tableSet prependedMarkRuns)) [(0x70F, 0x70F)]

def wordBreaks : List (List String × CharSet) :=
  [(["le", "aletter"], wordLetters),
   (["cr"], [(0xD, 0xD)]),
   (["dq", "doublequote"], [(0x22, 0x22)]),
   (["extend"], wordExtenders),
   (["ex", "extendnumlet"],
    CharSet.union (categorySet (· = .connectorPunctuation)) [(0x202F, 0x202F)]),
   (["fo", "format"],
    CharSet.diff plainFormatSet [(0x200B, 0x200B), (0xE0020, 0xE007F)]),
   (["hl", "hebrewletter"], hebrewLetters),
   (["ka", "katakana"], katakanaWord),
   (["lf"], [(0xA, 0xA)]),
   (["ml", "midletter"], readRanges ["3A B7 387 55F 5F4 2027 FE13 FE55 FF1A"]),
   (["mn", "midnum"], readRanges ["2C 3B 37E 589 60C:60D 66C 7F8 2044 FE50 FE54 FF0C FF1B"]),
   (["mb", "midnumlet"], readRanges ["2E 2018:2019 2024 FE52 FF07 FF0E"]),
   (["nl", "newline"], readRanges ["B:C 85 2028:2029"]),
   (["nu", "numeric"], CharSet.union numberSet [(0x66B, 0x66B), (0x19DA, 0x19DA)]),
   (["ri", "regionalindicator"], regionalIndicatorSet),
   (["sq", "singlequote"], [(0x27, 0x27)]),
   (["wsegspace"],
    CharSet.diff (categorySet (· = .spaceSeparator)) (readRanges ["A0 2007 202F"])),
   (["zwj"], [(0x200D, 0x200D)])]

/-- Letters without a capital form, though they are paired with letters in capital style. -/
def uncapitalizedSet : CharSet := [(0x10D0, 0x10FA), (0x10FD, 0x10FF)]

def sentenceExtenders : CharSet :=
  CharSet.union (CharSet.union graphemeExtendSet spacingMarkSet) [(0x200D, 0x200D)]

def sentenceLower : CharSet :=
  CharSet.diff (CharSet.diff lowercaseSet graphemeExtendSet) uncapitalizedSet

def sentenceUpper : CharSet :=
  CharSet.diff (CharSet.union uppercaseSet (categorySet (· = .titlecaseLetter)))
    [(0x1C90, 0x1CBA), (0x1CBD, 0x1CBF)]

def fullStops : CharSet := readRanges ["2E 2024 FE52 FF0E"]

def bracketSet : CharSet :=
  categorySet fun kind =>
    [.openPunctuation, .closePunctuation, .initialPunctuation, .finalPunctuation].contains kind

def sentenceBreaks : List (List String × CharSet) :=
  [(["at", "aterm"], fullStops),
   (["cl", "close"],
    CharSet.union
      (CharSet.diff (CharSet.union bracketSet (tableSet quotationMarkRuns)) (readRanges ["FF02 FF07"]))
      (readRanges ["275B:2760 2E00:2E01 2E06:2E08 2E0B 1F676:1F678"])),
   (["cr"], [(0xD, 0xD)]),
   (["ex", "extend"], sentenceExtenders),
   (["fo", "format"],
    CharSet.diff (CharSet.union plainFormatSet [(0x70F, 0x70F)]) [(0xE0020, 0xE007F)]),
   (["le", "oletter"],
    CharSet.union [(0x5F3, 0x5F3)]
      (CharSet.diff alphabeticSet
        (CharSet.union (CharSet.union sentenceLower sentenceUpper) sentenceExtenders))),
   (["lf"], [(0xA, 0xA)]),
   (["lo", "lower"], sentenceLower),
   (["nu", "numeric"],
    CharSet.union numberSet [(0x66B, 0x66C), (0x19DA, 0x19DA)]),
   (["sc", "scontinue"],
    readRanges
      ["2C:2D 3A:3B 37E 55D 60C:60D 7F8 1802 1808 2013:2014 3001 FE10:FE11 FE13:FE14 FE31:FE32",
       "FE50:FE51 FE54:FE55 FE58 FE63 FF0C:FF0D FF1A:FF1B FF64"]),
   (["se", "sep"], readRanges ["85 2028:2029"]),
   (["sp"], CharSet.union (categorySet (· = .spaceSeparator)) (readRanges ["9 B:C"])),
   (["st", "sterm"], CharSet.diff (tableSet sentenceTerminalRuns) fullStops),
   (["up", "upper"], sentenceUpper)]

end FluentAssert.Text
