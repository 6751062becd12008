import RowRecipe.Regex.Draft
import RowRecipe.Text.Category
import RowRecipe.Text.Table.Ages
import RowRecipe.Text.Table.Scripts

/-!
# Sets of characters with names

A class may name a property of characters: a trait, a general category, a script, an age or a kind
of break between characters. Only the characters of one edition of the character database count. In
names, case, spaces, hyphens and underscores do not count, and neither does `is` in front.
-/
namespace RowRecipe.Regex

open Text (CodeSet Category)

/-- The first edition that does not count. -/
def nextEdition : String := "17.0"

def editions : List (String × List String) :=
  Text.Table.ages.takeWhile fun age => age.1 != nextEdition

/-- The code points that are characters. -/
def knownCodes : CodeSet :=
  (CodeSet.read (editions.flatMap Prod.snd)).difference Text.Table.noncharacters

/-- Code points that only stand for halves of others. -/
def surrogates : CodeSet := .ofRanges [(0xD800, 0xDFFF)]

/-- The code points of some stretches that are characters. -/
def known (set : CodeSet) : CodeSet :=
  set.intersection knownCodes

def unassigned (_ : Unit) : CodeSet :=
  (knownCodes.union surrogates).complement

/-- Letters that are small ones up to the last edition that counts, and have no case later. -/
def formerSmallLetters : CodeSet := .ofCodes [0x295]

def categoryCodes : Category → CodeSet
  | .lowercaseLetter => Text.Table.lowercaseLetters.union formerSmallLetters
  | .otherLetter => Text.Table.otherLetters.difference formerSmallLetters
  | category => category.codes

def ofCategories (categories : List Category) : CodeSet :=
  known (.unions (categories.map categoryCodes))

def lowercaseCodes : CodeSet :=
  Text.lowercaseCodes.union formerSmallLetters

def identifierStarts (_ : Unit) : CodeSet :=
  ((Category.codesOf (.letterNumber :: Text.letterCategories)).union
    Text.Table.otherIdStart).difference
      (Text.Table.patternSyntax.union Text.Table.patternWhiteSpace)

def identifierParts (_ : Unit) : CodeSet :=
  .unions [identifierStarts (), Text.Table.otherIdContinue, Category.codesOf
    [.nonspacingMark, .spacingMark, .decimalNumber, .connectorPunctuation]]

/-- Capital letters that have small ones only since the next edition. -/
def newlyPaired : CodeSet := .ofCodes [0xA7D3, 0xA7D5]

/-- The code points of the character database with the property White_Space. -/
def blankCodes : CodeSet :=
  .ofRanges [(9, 13), (32, 32), (0x85, 0x85), (0xA0, 0xA0), (0x1680, 0x1680), (0x2000, 0x200A),
    (0x2028, 0x2029), (0x202F, 0x202F), (0x205F, 0x205F), (0x3000, 0x3000)]

/-- Traits by their names, with the characters of all editions that have them. -/
def traits : List (List String × (Unit → CodeSet)) := [
  (["ahex", "asciihexdigit"], fun _ => Text.Table.asciiHexDigits),
  (["alpha", "alphabetic"], fun _ => Text.alphabeticCodes),
  (["bidic", "bidicontrol"], fun _ => Text.Table.bidiControls),
  (["bidim", "bidimirrored"], fun _ => Text.Table.bidiMirrored),
  (["cased"], fun _ => Text.casedCodes.union formerSmallLetters),
  (["ci", "caseignorable"], fun _ => Text.caseIgnorableCodes),
  (["cwcf", "changeswhencasefolded"], fun _ => Text.Table.changedByFolding),
  (["cwcm", "changeswhencasemapped"], fun _ =>
    (CodeSet.unions [Text.Table.changedByLowercase, Text.Table.changedByUppercase,
      Text.Table.changedByTitlecase]).difference newlyPaired),
  (["cwl", "changeswhenlowercased"], fun _ => Text.Table.changedByLowercase),
  (["cwt", "changeswhentitlecased"], fun _ =>
    Text.Table.changedByTitlecase.difference newlyPaired),
  (["cwu", "changeswhenuppercased"], fun _ =>
    Text.Table.changedByUppercase.difference newlyPaired),
  (["dash"], fun _ => Text.Table.dashes),
  (["dep", "deprecated"], fun _ => Text.Table.deprecated),
  (["dia", "diacritic"], fun _ => Text.Table.diacritics),
  (["emoji"], fun _ => Text.Table.emoji),
  (["ebase", "emojimodifierbase"], fun _ => Text.Table.emojiModifierBases),
  (["ecomp", "emojicomponent"], fun _ => Text.Table.emojiComponents),
  (["emod", "emojimodifier"], fun _ => Text.Table.emojiModifiers),
  (["epres", "emojipresentation"], fun _ => Text.Table.emojiPresentation),
  (["ext", "extender"], fun _ => Text.Table.extenders),
  (["grbase", "graphemebase"], fun _ =>
    Text.shownCodes.union Text.Table.spaceSeparators),
  (["grext", "graphemeextend"], fun _ => Text.graphemeExtendCodes),
  (["grlink", "graphemelink"], fun _ => Text.Table.graphemeLinks),
  (["hex", "hexdigit"], fun _ => Text.Table.hexDigits),
  (["hyphen"], fun _ => Text.Table.hyphens),
  (["idc", "idcontinue"], identifierParts),
  (["idcompatmathcontinue"], fun _ => Text.Table.idCompatMathContinue),
  (["idcompatmathstart"], fun _ => Text.Table.idCompatMathStart),
  (["ideo", "ideographic"], fun _ => Text.Table.ideographic),
  (["ids", "idstart"], identifierStarts),
  (["idsb", "idsbinaryoperator"], fun _ => Text.Table.idsBinaryOperators),
  (["idst", "idstrinaryoperator"], fun _ => Text.Table.idsTrinaryOperators),
  (["idsu", "idsunaryoperator"], fun _ => Text.Table.idsUnaryOperators),
  (["joinc", "joincontrol"], fun _ => Text.Table.joinControls),
  (["loe", "logicalorderexception"], fun _ => Text.Table.logicalOrderExceptions),
  (["lower", "lowercase"], fun _ => lowercaseCodes),
  (["math"], fun _ => Text.Table.mathSymbols.union Text.Table.otherMath),
  (["mcm", "modifiercombiningmark"], fun _ => Text.Table.modifierCombiningMarks),
  (["oalpha", "otheralphabetic"], fun _ => Text.alphabeticCodes.difference
    (Category.codesOf (.letterNumber :: Text.letterCategories))),
  (["ogrext", "othergraphemeextend"], fun _ => Text.Table.otherGraphemeExtend),
  (["oidc", "otheridcontinue"], fun _ => Text.Table.otherIdContinue),
  (["oids", "otheridstart"], fun _ => Text.Table.otherIdStart),
  (["olower", "otherlowercase"], fun _ => Text.Table.otherLowercase),
  (["omath", "othermath"], fun _ => Text.Table.otherMath),
  (["oupper", "otheruppercase"], fun _ => Text.Table.otherUppercase),
  (["patws", "patternwhitespace"], fun _ => Text.Table.patternWhiteSpace),
  (["pcm", "prependedconcatenationmark"], fun _ => Text.Table.prependedConcatenationMarks),
  (["qmark", "quotationmark"], fun _ => Text.Table.quotationMarks),
  (["radical"], fun _ => Text.Table.radicals),
  (["ri", "regionalindicator"], fun _ => Text.Table.regionalIndicators),
  (["sd", "softdotted"], fun _ => Text.Table.softDotted),
  (["sterm", "sentenceterminal"], fun _ => Text.Table.sentenceTerminals),
  (["term", "terminalpunctuation"], fun _ => Text.Table.terminalPunctuation),
  (["uideo", "unifiedideograph"], fun _ => Text.Table.unifiedIdeographs),
  (["upper", "uppercase"], fun _ => Text.uppercaseCodes),
  (["vs", "variationselector"], fun _ => Text.Table.variationSelectors),
  (["wspace", "whitespace", "space"], fun _ => blankCodes),
  (["xidc", "xidcontinue"], fun _ =>
    (identifierParts ()).difference Text.Table.notXidContinue),
  (["xids", "xidstart"], fun _ => (identifierStarts ()).difference Text.Table.notXidStart)]

def openTraits : List (List String × (Unit → CodeSet)) := [
  (["di", "defaultignorablecodepoint"], fun _ => Text.Table.defaultIgnorable),
  (["extpict", "extendedpictographic"], fun _ => Text.Table.extendedPictographic),
  (["nchar", "noncharactercodepoint"], fun _ => Text.Table.noncharacters),
  (["odi", "otherdefaultignorablecodepoint"], fun _ => Text.Table.otherDefaultIgnorable),
  (["patsyn", "patternsyntax"], fun _ => Text.Table.patternSyntax)]

def otherProperties : List String := [
  "bc", "bidiclass", "blk", "block", "bmg", "bidimirroringglyph", "bpb", "bidipairedbracket", "bpt",
  "bidipairedbrackettype", "ccc", "canonicalcombiningclass", "ce", "compositionexclusion", "cf",
  "casefolding", "cjkaccountingnumeric", "kaccountingnumeric", "cjkcompatibilityvariant",
  "kcompatibilityvariant", "cjkiicore", "kiicore", "cjkirggsource", "kirggsource", "cjkirghsource",
  "kirghsource", "cjkirgjsource", "kirgjsource", "cjkirgkpsource", "kirgkpsource", "cjkirgksource",
  "kirgksource", "cjkirgmsource", "kirgmsource", "cjkirgssource", "kirgssource", "cjkirgtsource",
  "kirgtsource", "cjkirguksource", "kirguksource", "cjkirgusource", "kirgusource",
  "cjkirgvsource", "kirgvsource", "cjkothernumeric", "kothernumeric", "cjkprimarynumeric",
  "kprimarynumeric", "cjkrsunicode", "krsunicode", "unicoderadicalstroke", "urs", "compex",
  "fullcompositionexclusion", "cwkcf", "changeswhennfkccasefolded", "dm", "decompositionmapping",
  "dt", "decompositiontype", "ea", "eastasianwidth", "equideo", "equivalentunifiedideograph",
  "fcnfkc", "fcnfkcclosure", "hst", "hangulsyllabletype", "incb", "indicconjunctbreak", "inpc",
  "indicpositionalcategory", "insc", "indicsyllabiccategory", "isc", "isocomment", "jg",
  "joininggroup", "jsn", "jamoshortname", "jt", "joiningtype", "kehcat", "kehcore", "kehdesc",
  "kehfunc", "kehfval", "kehhg", "kehifao", "kehjsesh", "kehnomirror", "kehnorotate", "kehunikemet",
  "lb", "linebreak", "lc", "lowercasemapping", "na", "name", "na1", "unicode1name", "namealias",
  "nfcqc", "nfcquickcheck", "nfdqc", "nfdquickcheck", "nfkccf", "nfkccasefold", "nfkcqc",
  "nfkcquickcheck", "nfkcscf", "nfkcsimplecasefold", "nfkdqc", "nfkdquickcheck", "nt",
  "numerictype", "nv", "numericvalue", "scf", "simplecasefolding", "sfc", "slc",
  "simplelowercasemapping", "stc", "simpletitlecasemapping", "suc", "simpleuppercasemapping", "tc",
  "titlecasemapping", "uc", "uppercasemapping", "vo", "verticalorientation", "xonfc",
  "expandsonnfc", "xonfd", "expandsonnfd", "xonfkc", "expandsonnfkc", "xonfkd", "expandsonnfkd"]

def categoryNames : List (List String × List Category) := [
  (["l", "letter"], Text.letterCategories),
  (["lc", "casedletter"], [.uppercaseLetter, .lowercaseLetter, .titlecaseLetter]),
  (["lu", "uppercaseletter"], [.uppercaseLetter]), (["ll", "lowercaseletter"], [.lowercaseLetter]),
  (["lt", "titlecaseletter"], [.titlecaseLetter]), (["lm", "modifierletter"], [.modifierLetter]),
  (["lo", "otherletter"], [.otherLetter]),
  (["m", "mark", "combiningmark"], Text.markCategories),
  (["mn", "nonspacingmark"], [.nonspacingMark]), (["mc", "spacingmark"], [.spacingMark]),
  (["me", "enclosingmark"], [.enclosingMark]),
  (["n", "number"], [.decimalNumber, .letterNumber, .otherNumber]),
  (["nd", "decimalnumber", "digit"], [.decimalNumber]), (["nl", "letternumber"], [.letterNumber]),
  (["no", "othernumber"], [.otherNumber]),
  (["p", "punctuation", "punct"], [.connectorPunctuation, .dashPunctuation, .openPunctuation,
    .closePunctuation, .initialPunctuation, .finalPunctuation, .otherPunctuation]),
  (["pc", "connectorpunctuation"], [.connectorPunctuation]),
  (["pd", "dashpunctuation"], [.dashPunctuation]), (["ps", "openpunctuation"], [.openPunctuation]),
  (["pe", "closepunctuation"], [.closePunctuation]),
  (["pi", "initialpunctuation"], [.initialPunctuation]),
  (["pf", "finalpunctuation"], [.finalPunctuation]),
  (["po", "otherpunctuation"], [.otherPunctuation]),
  (["s", "symbol"], [.mathSymbol, .currencySymbol, .modifierSymbol, .otherSymbol]),
  (["sm", "mathsymbol"], [.mathSymbol]), (["sc", "currencysymbol"], [.currencySymbol]),
  (["sk", "modifiersymbol"], [.modifierSymbol]), (["so", "othersymbol"], [.otherSymbol]),
  (["z", "separator"], [.spaceSeparator, .lineSeparator, .paragraphSeparator]),
  (["zs", "spaceseparator"], [.spaceSeparator]), (["zl", "lineseparator"], [.lineSeparator]),
  (["zp", "paragraphseparator"], [.paragraphSeparator]),
  (["cc", "control", "cntrl"], [.control]), (["cf", "format"], [.format]),
  (["co", "privateuse"], [.privateUse])]

def named? {α : Type} (name : String) (entries : List (List String × α)) : Option α :=
  (entries.find? fun entry => entry.1.contains name).map Prod.snd

/-- Letters of the ASCII range in lower case; spaces, hyphens, underscores and everything beyond the
range are left out. -/
def plainName (cs : List Char) : List Char :=
  (cs.filter fun c => c.toNat < 0x80 && c != ' ' && c != '-' && c != '_').map Char.toLower

/-- A name in the form in which names are kept. A lonely `c` behind `is` keeps it, for the name of
a property, not of a category, is meant. -/
def normalizedName (name : String) : String :=
  match name.toList with
  | first :: second :: rest =>
    if first.toLower = 'i' ∧ second.toLower = 's' then
      if plainName rest = ['c'] then "isc" else String.ofList (plainName rest)
    else String.ofList (plainName (first :: second :: rest))
  | cs => String.ofList (plainName cs)

/-- The general category of a name. -/
def categoryNamed? (name : String) : Option CodeSet :=
  if name = "any" then some .full
  else if name = "ascii" then some (.ofRanges [(0, 0x7F)])
  else if name = "assigned" then some (unassigned ()).complement
  else if name = "cn" ∨ name = "unassigned" then some (unassigned ())
  else if name = "c" ∨ name = "other" then
    some ((ofCategories [.control, .format, .privateUse]).union (unassigned ()))
  else (named? name categoryNames).map ofCategories

/-- Whether a name is that of a category no character has. -/
def isSurrogateName (name : String) : Bool :=
  name == "cs" || name == "surrogate"

def scriptNamed? (name : String) : Option CodeSet :=
  (named? name Text.Table.scripts).map fun lines => known (.read lines)

/-- The characters of a script and those that it shares with others. -/
def sharedScriptNamed? (name : String) : Option CodeSet := do
  let (names, lines) ← Text.Table.scripts.find? fun script => script.1.contains name
  let code := names.headD ""
  let (own, others) := Text.Table.sharedCharacters.partition fun entry =>
    (Text.tableWords entry.1).contains code.toList
  let alone := (CodeSet.read lines).difference (.read (others.flatMap Prod.snd))
  return known (alone.union (.read (own.flatMap Prod.snd)))

/-- The name of an edition as it is, and without its point behind a letter. -/
def ageNames (age : String) : List String :=
  [age, String.ofList ('v' :: age.toList.filter (· != '.'))]

/-- The code points of an edition and those in front of it. -/
def ageNamed? (name : String) : Option CodeSet :=
  let later := editions.dropWhile fun age => !(ageNames age.1).contains name
  if later.isEmpty then none
  else
    let count := editions.length - later.length + 1
    some (.read ((editions.take count).flatMap Prod.snd))

end RowRecipe.Regex
