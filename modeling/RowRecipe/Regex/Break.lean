import RowRecipe.Regex.Property

/-!
# Breaks between characters

Characters are sorted by the part that they play where a text is cut into shown characters, words or
sentences. Each kind of break has names for these parts.
-/
namespace RowRecipe.Regex

open Text (CodeSet Category)

def openSyllables (_ : Unit) : CodeSet :=
  .ofCodes ((List.range 399).map fun n => 0xAC00 + 28 * n)

def joiner : CodeSet := .ofCodes [0x200D]

/-- Letters that other letters are joined to, or are kept from. -/
def joinLetters : CodeSet := .ofRanges [(0x200C, 0x200D)]

def syllables : CodeSet := .ofRanges [(0xAC00, 0xD7A3)]

def extendingMarks (_ : Unit) : CodeSet :=
  .unions [Text.graphemeExtendCodes, Text.Table.spacingMarks, Text.Table.emojiModifiers]

def wordFormatters (_ : Unit) : CodeSet :=
  Text.Table.formatCharacters.difference (.unions [Text.graphemeExtendCodes, joinLetters,
    Text.Table.prependedConcatenationMarks, .ofCodes [0x200B]])

def abbreviationSign : CodeSet := .ofCodes [0x70F]

def numberSigns : CodeSet :=
  Text.Table.prependedConcatenationMarks.difference abbreviationSign

def sentenceFormatters (_ : Unit) : CodeSet :=
  Text.Table.formatCharacters.difference
    (.unions [Text.graphemeExtendCodes, joinLetters, numberSigns])

def showControls (_ : Unit) : CodeSet :=
  (CodeSet.unions
    [ofCategories [.lineSeparator, .paragraphSeparator, .control, .format],
      (unassigned ()).intersection Text.Table.defaultIgnorable]).difference
      (.unions [.ofCodes [0xA, 0xD], joinLetters, Text.Table.prependedConcatenationMarks,
        Text.graphemeExtendCodes])

/-- Parts at breaks between shown characters. -/
def graphemeBreaks : List (List String × (Unit → CodeSet)) := [
  (["cn", "control"], showControls),
  (["cr"], fun _ => .ofCodes [0xD]),
  (["ex", "extend"], fun _ =>
    known (Text.graphemeExtendCodes.union Text.Table.emojiModifiers)),
  (["l"], fun _ => .ofRanges [(0x1100, 0x115F), (0xA960, 0xA97C)]),
  (["lf"], fun _ => .ofCodes [0xA]),
  (["lv"], openSyllables),
  (["lvt"], fun _ => syllables.difference (openSyllables ())),
  (["pp", "prepend"], fun _ => known
    (Text.Table.prependedConcatenationMarks.union Text.Table.breakPrepends)),
  (["ri", "regionalindicator"], fun _ => Text.Table.regionalIndicators),
  (["sm", "spacingmark"], fun _ => known
    ((Text.Table.spacingMarks.union (.ofCodes [0xE33, 0xEB3])).difference
      (Text.graphemeExtendCodes.union Text.Table.breakSpacingExceptions))),
  (["t"], fun _ => .ofRanges [(0x11A8, 0x11FF), (0xD7CB, 0xD7FB)]),
  (["v"], fun _ => .ofRanges
    [(0x1160, 0x11A7), (0xD7B0, 0xD7C6), (0x16D63, 0x16D63), (0x16D67, 0x16D6A)]),
  (["zwj"], fun _ => joiner)]

def ofScript (code : String) : CodeSet :=
  .read ((named? code Text.Table.scripts).getD [])

def hebrewLetters (_ : Unit) : CodeSet :=
  (ofScript "hebr").intersection Text.Table.otherLetters

/-- Katakana and what is written among it. -/
def katakana (_ : Unit) : CodeSet :=
  (ofScript "kana").union (.read ["3031-3035 309B-309C 30A0 30FC FF70"])

/-- Characters of scripts whose words are not set apart. -/
def runningLetters (_ : Unit) : CodeSet :=
  .read [
    "E01-E30 E32-E33 E40-E46 E81-E82 E84 E86-E8A E8C-EA3 EA5 EA7-EB0 EB2-EB3 EBD EC0-EC4 EC6",
    "EDC-EDF 1000-102A 103F 1050-1055 105A-105D 1061 1065-1066 106E-1070 1075-1081 108E 1780-17B3",
    "17D7 17DC 1950-196D 1970-1974 1980-19AB 19B0-19C9 1A20-1A54 1AA7 A9E0-A9E4 A9E6-A9EF",
    "A9FA-A9FE AA60-AA76 AA7A AA7E-AAAF AAB1 AAB5-AAB6 AAB9-AABD AAC0 AAC2 AADB-AADD 11700-1171A",
    "11740-11746"]

def letterSigns (_ : Unit) : CodeSet :=
  .read [
    "2C2-2C5 2D2-2D7 2DE-2DF 2E5-2EB 2ED 2EF-2FF 55A-55C 55E 58A 5F3 A708-A716 A720-A721 A789-A78A",
    "AB5B"]

def wordLetters (_ : Unit) : CodeSet :=
  (Text.alphabeticCodes.difference (.unions [Text.Table.ideographic, katakana (), ofScript "hira",
    extendingMarks (), hebrewLetters (), runningLetters ()])).union
      ((letterSigns ()).union abbreviationSign)

/-- Parts at breaks between words. -/
def wordBreaks : List (List String × (Unit → CodeSet)) := [
  (["cr"], fun _ => .ofCodes [0xD]),
  (["dq", "doublequote"], fun _ => .ofCodes [0x22]),
  (["ex", "extendnumlet"], fun _ =>
    known (Text.Table.connectorPunctuation.union (.ofCodes [0x202F]))),
  (["extend"], fun _ => known ((extendingMarks ()).difference joiner)),
  (["fo", "format"], fun _ => known (wordFormatters ())),
  (["hl", "hebrewletter"], fun _ => known (hebrewLetters ())),
  (["ka", "katakana"], fun _ => known (katakana ())),
  (["le", "aletter"], fun _ => known (wordLetters ())),
  (["lf"], fun _ => .ofCodes [0xA]),
  (["mb", "midnumlet"], fun _ => .read ["2E 2018-2019 2024 FE52 FF07 FF0E"]),
  (["ml", "midletter"], fun _ => .read ["3A B7 387 55F 5F4 2027 FE13 FE55 FF1A"]),
  (["mn", "midnum"], fun _ => .read [
    "2C 3B 37E 589 60C-60D 66C 7F8 2044 FE50 FE54 FF0C FF1B"]),
  (["nl", "newline"], fun _ => .read ["B-C 85 2028-2029"]),
  (["nu", "numeric"], fun _ =>
    known (.unions [Text.Table.decimalNumbers, numberSigns, .ofCodes [0x66B]])),
  (["ri", "regionalindicator"], fun _ => Text.Table.regionalIndicators),
  (["sq", "singlequote"], fun _ => .ofCodes [0x27]),
  (["wsegspace"], fun _ =>
    known (Text.Table.spaceSeparators.difference (.ofCodes [0xA0, 0x2007, 0x202F]))),
  (["zwj"], fun _ => joiner)]

/-- Marks that extend a sentence. -/
def sentenceExtenders (_ : Unit) : CodeSet :=
  .unions [Text.graphemeExtendCodes, Text.Table.spacingMarks, joiner]

/-- Small letters that go on in a sentence. -/
def sentenceLower (_ : Unit) : CodeSet :=
  (lowercaseCodes.difference
    (Text.graphemeExtendCodes.union (.ofRanges [(0x10D0, 0x10FF)]))).union (.ofCodes [0x10FC])

def sentenceUpper (_ : Unit) : CodeSet :=
  (Text.uppercaseCodes.union Text.Table.titlecaseLetters).difference
    (.ofRanges [(0x1C90, 0x1CBA), (0x1CBD, 0x1CBF)])

def fullStops (_ : Unit) : CodeSet :=
  .ofCodes [0x2E, 0x2024, 0xFE52, 0xFF0E]

/-- Quotation marks and brackets, at which a sentence may close. -/
def sentenceClosers (_ : Unit) : CodeSet :=
  ((CodeSet.unions [Text.Table.quotationMarks, Category.codesOf
    [.openPunctuation, .closePunctuation, .initialPunctuation, .finalPunctuation]]).difference
      (.ofCodes [0xFF02, 0xFF07])).union
    (.read ["275B-2760 2E00-2E01 2E06-2E08 2E0B 1F676-1F678"])

/-- Parts at breaks between sentences. -/
def sentenceBreaks : List (List String × (Unit → CodeSet)) := [
  (["at", "aterm"], fullStops),
  (["cl", "close"], fun _ => known (sentenceClosers ())),
  (["cr"], fun _ => .ofCodes [0xD]),
  (["ex", "extend"], fun _ => known (sentenceExtenders ())),
  (["fo", "format"], fun _ => known (sentenceFormatters ())),
  (["le", "oletter"], fun _ => known
    ((Text.alphabeticCodes.union (.ofCodes [0x5F3])).difference
      (.unions [sentenceLower (), sentenceUpper (), sentenceExtenders ()]))),
  (["lf"], fun _ => .ofCodes [0xA]),
  (["lo", "lower"], fun _ => known (sentenceLower ())),
  (["nu", "numeric"], fun _ =>
    known (.unions [Text.Table.decimalNumbers, numberSigns, .ofRanges [(0x66B, 0x66C)]])),
  (["sc", "scontinue"], fun _ => .read [
    "2C-2D 3A 3B 37E 55D 60C-60D 7F8 1802 1808 2013-2014 3001 FE10-FE11 FE13-FE14 FE31-FE32",
    "FE50-FE51 FE54-FE55 FE58 FE63 FF0C-FF0D FF1A-FF1B FF64"]),
  (["se", "sep"], fun _ => .read ["85 2028-2029"]),
  (["sp"], fun _ => .read ["9 B-C 20 A0 1680 2000-200A 202F 205F 3000"]),
  (["st", "sterm"], fun _ => known (Text.Table.sentenceTerminals.difference (fullStops ()))),
  (["up", "upper"], fun _ => known (sentenceUpper ()))]

/-- Properties with values other than yes and no, by their names. -/
def valuedProperties : List (List String × (String → Option CodeSet)) := [
  (["gc", "generalcategory"], categoryNamed?),
  (["sc", "script"], scriptNamed?),
  (["scx", "scriptextensions"], sharedScriptNamed?),
  (["age"], ageNamed?),
  (["gcb", "graphemeclusterbreak"], fun name => (named? name graphemeBreaks).map (· ())),
  (["wb", "wordbreak"], fun name => (named? name wordBreaks).map (· ())),
  (["sb", "sentencebreak"], fun name => (named? name sentenceBreaks).map (· ()))]

/-- The code points that the name of a property by itself stands for. -/
def propertyAlone? (name : String) : Except Problem CodeSet :=
  let ambiguous := name == "cf" || name == "sc" || name == "lc"
  match named? name traits, named? name openTraits with
  | some codes, _ => .ok (known (codes ()))
  | none, some codes => .ok (codes ())
  | none, none =>
    if !ambiguous && (otherProperties.contains name || (named? name valuedProperties).isSome) then
      .error .propertyNotFound
    else if isSurrogateName name then .error .propertyValueNotFound
    else
      match (categoryNamed? name).or (scriptNamed? name) with
      | some codes => .ok codes
      | none => .error .propertyNotFound

def PropertyName.codes : PropertyName → Except Problem CodeSet
  | .alone name => propertyAlone? (normalizedName name)
  | .withValue name value =>
    let name := normalizedName name
    match named? name valuedProperties with
    | some codes =>
      match codes (normalizedName value) with
      | some codes => .ok codes
      | none => .error .propertyValueNotFound
    | none =>
      if otherProperties.contains name || (named? name traits).isSome
          || (named? name openTraits).isSome then
        .error .propertyValueNotFound
      else .error .propertyNotFound

end RowRecipe.Regex
