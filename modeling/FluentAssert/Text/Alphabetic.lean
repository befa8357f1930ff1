import FluentAssert.Text.Category

/-! Alphabetic characters: letters, letter numbers, and the marks and symbols that spell words. -/
namespace FluentAssert.Text

def alphabeticSymbols : Ranges :=
  [(0x24B6, 0x24E9), (0x1F130, 0x1F149), (0x1F150, 0x1F169), (0x1F170, 0x1F189)]

/-- Ranges in hexadecimal. Marks inside them spell nothing by themselves. -/
def silentMarkRuns : List String :=
  ["300:344 346:362 483:5AF 658 6DF:6E0 6EA:6EC 740:74A 7EB:7FD 818:819 82D:85B 898:8D3 8E0:8E1",
   "8EA:8EF 93C 94D 951:954 9BC 9CD 9FE A3C A4D ABC ACD AFD:AFF B3C B4D:B55 BCD C3C C4D CBC CCD",
   "D3B:D3C D4D DCA E47:E4C E4E EBA EC8:ECC ECE:F3F F84:F87 FC6 1037 1039:103A 135D:135F 1714:1715",
   "1734 17B4:17B5 17C9:180F 1939:193B 1A60 1A75:1ABE 1AC1:1ACB 1ACF:1AEB 1B34 1B44:1B73 1BAA:1BAB",
   "1BE6 1BF2:1BF3 1C37:1DD2 1DF5:2D7F 302A:A672 A67C:A67D A6F0:A6F1 A806 A82C A8C4 A8E0:A8F1",
   "A92B:A92D A953 A9B3 A9C0 AABF:AAC1 AAF6 ABEC:ABED FE00:102E0 10A38:10AE6 10D6A:10D6D",
   "10EFD:10F85 11046:11070 1107F 110B9:110BA 11133:11134 11173 111C0:111CC 11235:11236",
   "112E9:112EA 1133B:1133C 1134D 11366:11374 113CE:113E2 11442 11446:1145E 114C2:114C3",
   "115BF:115C0 1163F 116B6:116B7 1172B 11839:1183A 1193D:1193E 11943 119E0 11A33:11A34 11A47",
   "11A98:11A99 11C3F 11D42 11D44:11D45 11D97 11F41:13455 1612F:16B36 16FE4 1BC9D 1CF00:1DAAF",
   "1E130:1E5EF 1E8D0:1E946 1E948:E01EF"]

def silentMarks : Ranges := readRanges silentMarkRuns

def isAlphabetic (c : Char) : Bool :=
  let kind := category c
  kind.isLetter || kind = .letterNumber || (kind.isMark && !silentMarks.contains c) ||
    alphabeticSymbols.contains c

def isNumeric (c : Char) : Bool :=
  [Category.decimalNumber, .letterNumber, .otherNumber].contains (category c)

def isAlphanumeric (c : Char) : Bool := isAlphabetic c || isNumeric c

end FluentAssert.Text
