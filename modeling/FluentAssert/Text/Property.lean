import FluentAssert.Text.Property.Break

/-! Finding sets of characters by the names of properties, categories and scripts. Names are
compared without regard to case, blanks, hyphens and underscores. -/
namespace FluentAssert.Text.Property

def plainName (name : String) : String :=
  let chars := name.toList
  let lower := chars.map Char.toLower
  let hasIs := ['i', 's'].isPrefixOf lower
  let kept := (if hasIs then lower.drop 2 else lower).filter fun c =>
    c.toNat < 0x80 && c != ' ' && c != '_' && c != '-'
  if hasIs && kept == ['c'] then "isc" else String.ofList kept

def categoryGroups : List (List String × List Category) :=
  [(["c", "other"], [.control, .format, .privateUse, .unassigned]),
   (["cc", "control", "cntrl"], [.control]),
   (["cf", "format"], [.format]),
   (["cn", "unassigned"], [.unassigned]),
   (["co", "privateuse"], [.privateUse]),
   (["l", "letter"],
    [.uppercaseLetter, .lowercaseLetter, .titlecaseLetter, .modifierLetter, .otherLetter]),
   (["lc", "casedletter"], [.uppercaseLetter, .lowercaseLetter, .titlecaseLetter]),
   (["ll", "lowercaseletter"], [.lowercaseLetter]),
   (["lm", "modifierletter"], [.modifierLetter]),
   (["lo", "otherletter"], [.otherLetter]),
   (["lt", "titlecaseletter"], [.titlecaseLetter]),
   (["lu", "uppercaseletter"], [.uppercaseLetter]),
   (["m", "mark", "combiningmark"], [.nonspacingMark, .spacingMark, .enclosingMark]),
   (["mc", "spacingmark"], [.spacingMark]),
   (["me", "enclosingmark"], [.enclosingMark]),
   (["mn", "nonspacingmark"], [.nonspacingMark]),
   (["n", "number"], [.decimalNumber, .letterNumber, .otherNumber]),
   (["nd", "decimalnumber", "digit"], [.decimalNumber]),
   (["nl", "letternumber"], [.letterNumber]),
   (["no", "othernumber"], [.otherNumber]),
   (["p", "punctuation", "punct"],
    [.connectorPunctuation, .dashPunctuation, .openPunctuation, .closePunctuation,
     .initialPunctuation, .finalPunctuation, .otherPunctuation]),
   (["pc", "connectorpunctuation"], [.connectorPunctuation]),
   (["pd", "dashpunctuation"], [.dashPunctuation]),
   (["pe", "closepunctuation"], [.closePunctuation]),
   (["pf", "finalpunctuation"], [.finalPunctuation]),
   (["pi", "initialpunctuation"], [.initialPunctuation]),
   (["po", "otherpunctuation"], [.otherPunctuation]),
   (["ps", "openpunctuation"], [.openPunctuation]),
   (["s", "symbol"], [.mathSymbol, .currencySymbol, .modifierSymbol, .otherSymbol]),
   (["sc", "currencysymbol"], [.currencySymbol]),
   (["sk", "modifiersymbol"], [.modifierSymbol]),
   (["sm", "mathsymbol"], [.mathSymbol]),
   (["so", "othersymbol"], [.otherSymbol]),
   (["z", "separator"], [.spaceSeparator, .lineSeparator, .paragraphSeparator]),
   (["zl", "lineseparator"], [.lineSeparator]),
   (["zp", "paragraphseparator"], [.paragraphSeparator]),
   (["zs", "spaceseparator"], [.spaceSeparator])]

/-- Names of properties by which no set can be asked for. -/
def otherNames : List String :=
  (tableWords
    ["bc bidiclass bidimirroringglyph bidipairedbracket bidipairedbrackettype blk block bmg bpb bpt",
     "canonicalcombiningclass casefolding ccc ce cf changeswhennfkccasefolded cjkaccountingnumeric",
     "cjkcompatibilityvariant cjkiicore cjkirggsource cjkirghsource cjkirgjsource cjkirgkpsource",
     "cjkirgksource cjkirgmsource cjkirgssource cjkirgtsource cjkirguksource cjkirgusource",
     "cjkirgvsource cjkothernumeric cjkprimarynumeric cjkrsunicode compex compositionexclusion cwkcf",
     "decompositionmapping decompositiontype dm dt ea eastasianwidth equideo",
     "equivalentunifiedideograph expandsonnfc expandsonnfd expandsonnfkc expandsonnfkd fcnfkc",
     "fcnfkcclosure fullcompositionexclusion hangulsyllabletype hst incb indicconjunctbreak",
     "indicpositionalcategory indicsyllabiccategory inpc insc isc jamoshortname jg joininggroup",
     "joiningtype jsn jt kaccountingnumeric kcompatibilityvariant kehcat kehdesc kehhg kehifao",
     "kehjsesh kehnomirror kehnorotate kiicore kirggsource kirghsource kirgjsource kirgkpsource",
     "kirgksource kirgmsource kirgssource kirgtsource kirguksource kirgusource kirgvsource",
     "kothernumeric kprimarynumeric krsunicode lb lc linebreak lowercasemapping na na1 name",
     "namealias nfcqc nfcquickcheck nfdqc nfdquickcheck nfkccasefold nfkccf nfkcqc nfkcquickcheck",
     "nfkcscf nfkcsimplecasefold nfkdqc nfkdquickcheck nt numerictype numericvalue nv ocomment scf",
     "sfc simplecasefolding simplelowercasemapping simpletitlecasemapping simpleuppercasemapping slc",
     "stc suc tc titlecasemapping uc unicode1name unicoderadicalstroke uppercasemapping urs",
     "verticalorientation vo xonfc xonfd xonfkc xonfkd"]).map String.ofList

/-- A property whose values have sets. -/
inductive Valued where
  | category | script | scriptUse | age | graphemeBreak | wordBreak | sentenceBreak
  deriving DecidableEq, Repr

def valuedNames : List (Valued × List String) :=
  [(.category, ["gc", "generalcategory"]), (.script, ["sc", "script"]),
   (.scriptUse, ["scx", "scriptextensions"]), (.age, ["age"]),
   (.graphemeBreak, ["gcb", "graphemeclusterbreak"]), (.wordBreak, ["wb", "wordbreak"]),
   (.sentenceBreak, ["sb", "sentencebreak"])]

def categoryByName? (name : String) : Option CharSet :=
  if name = "any" then some [(0, lastCode)]
  else if name = "ascii" then some [(0, 0x7F)]
  else if name = "assigned" then some (CharSet.complement (categorySet (· = .unassigned)))
  else (categoryGroups.find? fun (names, _) => names.contains name).map fun (_, kinds) =>
    categorySet kinds.contains

/-- The four letters of a script, by one of its plain names. -/
def scriptByName? (name : String) : Option String :=
  (scripts.find? fun (_, names) => (names.map plainName).contains name).map (·.1)

/-- What was there at an edition, which may also be written as a name: `16.0` as `v160`. -/
def ageByName? (name : String) : Option CharSet :=
  (editions.find? fun edition =>
    name == edition || name == String.ofList ('v' :: edition.toList.filter (· != '.'))).bind
      fun edition => (editionsUpTo? edition).map agedSet

def breakByName? (breaks : List (List String × CharSet)) (name : String) : Option CharSet :=
  (breaks.find? fun (names, _) => names.contains name).map (·.2)

def Valued.find? (property : Valued) (value : String) : Option CharSet :=
  match property with
  | category => categoryByName? value
  | script => (scriptByName? value).map scriptSet
  | scriptUse => (scriptByName? value).map scriptUseSet
  | age => ageByName? value
  | graphemeBreak => breakByName? graphemeBreaks value
  | wordBreak => breakByName? wordBreaks value
  | sentenceBreak => breakByName? sentenceBreaks value

inductive Missing where
  | name | value
  deriving DecidableEq, Repr

def valued? (name : String) : Option Valued :=
  (valuedNames.find? fun (_, names) => names.contains name).map (·.1)

/-- Names that categories have, though they are short names of properties too. -/
def sharedNames : List String := ["cf", "sc", "lc"]

/-- Names of values that are known, but have no set. -/
def emptyValues : List String :=
  ["cs", "surrogate", "zzzz", "unknown", "hrkt", "katakanaorhiragana"]

def find (name : String) : Except Missing CharSet :=
  let name := plainName name
  let ofProperty : Option (Except Missing CharSet) :=
    if sharedNames.contains name then none
    else match BinaryProperty.ofName? name with
      | some property => some (.ok property.chars)
      | none =>
        if otherNames.contains name || (valued? name).isSome then some (.error .name) else none
  match ofProperty with
  | some result => result
  | none =>
    match (categoryByName? name).or ((scriptByName? name).map scriptSet) with
    | some chars => .ok chars
    | none => .error (if emptyValues.contains name then .value else .name)

def findValue (name value : String) : Except Missing CharSet :=
  let name := plainName name
  match valued? name with
  | some property =>
    match property.find? (plainName value) with
    | some chars => .ok chars
    | none => .error .value
  | none =>
    .error <|
      if otherNames.contains name || (BinaryProperty.ofName? name).isSome then .value else .name

end FluentAssert.Text.Property
