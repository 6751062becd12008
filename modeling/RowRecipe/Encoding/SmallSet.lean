import RowRecipe.Encoding.Table.Letters
import RowRecipe.Encoding.Table.Pairs
import RowRecipe.Encoding.Verdict

/-!
# Evidence for small sets of characters

A set of single bytes is told by how many of the letters read often follow the letter in front of
them in the language of the set. Hebrew is also written from right to left as it is seen, which its
final letters tell. Western texts are told by how well accents fit to the letters beside them.
-/
namespace RowRecipe.Encoding

def isAsciiLetter (b : UInt8) : Bool :=
  0x41 ≤ b && b ≤ 0x5A || 0x61 ≤ b && b ≤ 0x7A

def isHigh (b : UInt8) : Bool :=
  0x80 ≤ b

/-- A word and the byte behind it, which counts as a space, if a byte beyond the ASCII range is in
the word. -/
def foreignWord (word : List UInt8) (behind : List UInt8) : List UInt8 :=
  if word.any isHigh then word ++ behind.map fun _ => 0x20 else []

/-- The words with bytes beyond the ASCII range, and one byte behind each of them, the bytes of the
word under way coming last first. -/
def foreignWordsFrom (word : List UInt8) : List UInt8 → List (List UInt8)
  | [] => [foreignWord word.reverse []]
  | b :: bytes =>
    if isAsciiLetter b || isHigh b then foreignWordsFrom (b :: word) bytes
    else foreignWord word.reverse [b] :: foreignWordsFrom [] bytes

/-- The words with bytes beyond the ASCII range. -/
def foreignWords (bytes : List UInt8) : List UInt8 :=
  (foreignWordsFrom [] bytes).flatten

/-- A language in a set of single bytes. -/
structure Script where
  name : String
  /-- The bytes of the letters, the most frequent one first. -/
  letters : List String
  /-- The bytes of other characters that count. -/
  others : List String
  /-- The letters that often follow each letter. -/
  pairs : Array Nat
  /-- The share of such pairs in typical texts. -/
  typical : Rat
  /-- Whether letters of the ASCII range belong to the language. -/
  isLatin : Bool

/-- What a byte is in a language. -/
inductive ByteRole where
  | letter (rank : Nat)
  | other
  | ignored
  deriving Repr, DecidableEq

/-- The letters in a text, the pairs of letters among them, and the pairs that are frequent. -/
structure LetterCount where
  before : Option Nat
  characters : Nat
  letters : Nat
  pairs : Nat
  frequent : Nat

namespace Script

def roles (script : Script) : Array ByteRole :=
  let letters := (Text.tableWords script.letters).map Text.hexNumber
  let others := Text.CodeSet.read script.others
  ((List.range 256).map fun byte =>
    match letters.idxOf? byte with
    | some rank => .letter rank
    | none => if others.holds byte then .other else .ignored).toArray

/-- Whether a letter often follows another one. -/
def isFrequent (script : Script) (first second : Nat) : Bool :=
  (script.pairs.getD first 0).testBit second

/-- Counts a byte by its role. Read backwards, the second letter of a pair comes first. -/
def add (script : Script) (isBackwards : Bool) (count : LetterCount) (role : ByteRole) :
    LetterCount :=
  match role with
  | .ignored => { count with before := none }
  | .other => { count with before := none, characters := count.characters + 1 }
  | .letter rank =>
    let count := { count with
      characters := count.characters + 1
      letters := count.letters + 1 }
    match count.before with
    | none => { count with before := some rank }
    | some first =>
      let isFrequent :=
        if isBackwards then script.isFrequent rank first else script.isFrequent first rank
      { count with
        before := some rank
        pairs := count.pairs + 1
        frequent := if isFrequent then count.frequent + 1 else count.frequent }

/-- The confidence that counts of letters give. -/
def confidence (script : Script) (count : LetterCount) : Rat :=
  if count.pairs = 0 then sureNo
  else
    let share : Rat := count.frequent / count.pairs / script.typical
      * count.letters / count.characters
    if 1 ≤ share then sureYes else share

/-- The number of pairs beyond which a verdict may be final. -/
def enoughPairs : Nat := 1024

/-- The verdict on a script by the pairs of letters, which may be read backwards. -/
def verdict (script : Script) (isBackwards : Bool) (bytes : List UInt8) : Verdict :=
  let roles := script.roles
  let bytes := if script.isLatin then bytes else foreignWords bytes
  let count := bytes.foldl
    (fun count b => script.add isBackwards count (roles.getD b.toNat .ignored)) ⟨none, 0, 0, 0, 0⟩
  let confidence := script.confidence count
  ⟨script.name, enoughPairs < count.pairs && shortcut < confidence, confidence⟩

end Script

def russianShare : Rat := 976601 / 1000000

def greekShare : Rat := 982851 / 1000000

def bulgarianShare : Rat := 969392 / 1000000

/-- The scripts other than Hebrew, in the order in which they are asked. -/
def scripts : List Script := [
  ⟨"windows-1251", Table.windows1251RussianLetters, Table.windows1251RussianOthers,
    Table.russianPairs, russianShare, false⟩,
  ⟨"KOI8-R", Table.koi8RussianLetters, Table.koi8RussianOthers, Table.russianPairs, russianShare,
    false⟩,
  ⟨"ISO-8859-5", Table.iso8859RussianLetters, Table.iso8859RussianOthers, Table.russianPairs,
    russianShare, false⟩,
  ⟨"MacCyrillic", Table.macRussianLetters, Table.macRussianOthers, Table.russianPairs,
    russianShare, false⟩,
  ⟨"IBM866", Table.ibm866RussianLetters, Table.ibm866RussianOthers, Table.russianPairs,
    russianShare, false⟩,
  ⟨"IBM855", Table.ibm855RussianLetters, Table.ibm855RussianOthers, Table.russianPairs,
    russianShare, false⟩,
  ⟨"ISO-8859-7", Table.iso8859GreekLetters, Table.iso8859GreekOthers, Table.greekPairs, greekShare,
    false⟩,
  ⟨"windows-1253", Table.windows1253GreekLetters, Table.windows1253GreekOthers, Table.greekPairs,
    greekShare, false⟩,
  ⟨"ISO-8859-5", Table.iso8859BulgarianLetters, Table.iso8859BulgarianOthers, Table.bulgarianPairs,
    bulgarianShare, false⟩,
  ⟨"windows-1251", Table.windows1251BulgarianLetters, Table.windows1251BulgarianOthers,
    Table.bulgarianPairs, bulgarianShare, false⟩,
  ⟨"TIS-620", Table.tis620ThaiLetters, Table.tis620ThaiOthers, Table.thaiPairs, 926386 / 1000000,
    false⟩,
  ⟨"ISO-8859-9", Table.iso8859TurkishLetters, Table.iso8859TurkishOthers, Table.turkishPairs,
    970290 / 1000000, true⟩]

def hebrewScript : Script :=
  ⟨"windows-1255", Table.windows1255HebrewLetters, Table.windows1255HebrewOthers,
    Table.hebrewPairs, 984004 / 1000000, false⟩

/-- Bytes of letters in the form that they have at the end of a Hebrew word. -/
def finalLetters : List UInt8 := [0xEA, 0xED, 0xEF, 0xF3, 0xF5]

/-- Bytes of those letters in their form at other places, one apart that also ends words. -/
def innerLetters : List UInt8 := [0xEB, 0xEE, 0xF0, 0xF4]

/-- Signs of the order in which Hebrew is written: the two bytes in front, and the signs of the
order of reading against those of the order of seeing. -/
structure HebrewCount where
  beforeLast : UInt8
  last : UInt8
  score : Int

/-- Counts a byte. A final letter ends a word in the order of reading and begins one in the order of
seeing, where an inner letter may end one. -/
def HebrewCount.add (count : HebrewCount) (b : UInt8) : HebrewCount :=
  let sign : Int :=
    if b = 0x20 then
      if count.beforeLast = 0x20 then 0
      else if finalLetters.contains count.last then 1
      else if innerLetters.contains count.last then -1
      else 0
    else if count.beforeLast = 0x20 ∧ finalLetters.contains count.last then -1
    else 0
  ⟨count.last, b, count.score + sign⟩

/-- The bytes with a space for each stretch of bytes of the ASCII range. -/
def spacedFrom (wasAscii : Bool) : List UInt8 → List UInt8
  | [] => []
  | b :: bytes =>
    if isHigh b then b :: spacedFrom false bytes
    else if wasAscii then spacedFrom true bytes
    else 0x20 :: spacedFrom true bytes

/-- The name of Hebrew in the order of reading or of seeing: many final letters tell it, and else
the pairs of letters. -/
def hebrewName (bytes : List UInt8) (reading seeing : Rat) : String :=
  let score := ((spacedFrom false bytes).foldl HebrewCount.add ⟨0x20, 0x20, 0⟩).score
  let isSeen :=
    if 5 ≤ score then false
    else if score ≤ -5 then true
    else if 1 / 100 < reading - seeing then false
    else if 1 / 100 < seeing - reading then true
    else score < 0
  if isSeen then "ISO-8859-8" else "windows-1255"

/-- The verdicts on Hebrew, read forwards and backwards. -/
def hebrewVerdicts (bytes : List UInt8) : List Verdict :=
  let reading := hebrewScript.verdict false bytes
  let seeing := hebrewScript.verdict true bytes
  let name := hebrewName bytes reading.confidence seeing.confidence
  [{ reading with name := name }, { seeing with name := name }]

/-- The verdicts on the sets of single bytes, in the order in which they are asked. -/
def smallSetVerdicts (bytes : List UInt8) : List Verdict :=
  scripts.map (·.verdict false bytes) ++ hebrewVerdicts bytes

/-- The words outside tags with a space behind each of them, and whether the bytes are in a tag. A
word in front of a tag is left out, and one at the end of a tag is not. -/
def plainWordsFrom (inTag : Bool) (word : List UInt8) : List UInt8 → List (List UInt8)
  | [] => if inTag then [] else [word.reverse]
  | b :: bytes =>
    if isAsciiLetter b || isHigh b then plainWordsFrom inTag (b :: word) bytes
    else
      let inTag := if b = 0x3E then false else inTag || b == 0x3C
      if inTag ∨ word = [] then plainWordsFrom inTag [] bytes
      else (0x20 :: word).reverse :: plainWordsFrom inTag [] bytes

/-- What a byte of a Western text is. -/
inductive LatinClass where
  | none | other | capital | small | capitalVowel | capitalConsonant | smallVowel | smallConsonant
  deriving Repr, DecidableEq

def latinClass (b : UInt8) : LatinClass :=
  if 0x41 ≤ b ∧ b ≤ 0x5A then .capital
  else if 0x61 ≤ b ∧ b ≤ 0x7A then .small
  else if b ∈ [0x81, 0x8D, 0x8F, 0x90, 0x9D] then .none
  else if b ∈ [0x8A, 0x8C, 0x8E, 0x9F, 0xC6, 0xC7, 0xD0, 0xD1, 0xDD, 0xDE, 0xDF] then
    .capitalConsonant
  else if b ∈ [0x83, 0x9A, 0x9C, 0x9E, 0xE6, 0xE7, 0xF0, 0xF1, 0xFD, 0xFE, 0xFF] then
    .smallConsonant
  else if b < 0xC0 ∨ b = 0xD7 ∨ b = 0xF7 then .other
  else if b < 0xE0 then .capitalVowel
  else .smallVowel

/-- Whether a class hardly follows another one, and whether it usually does. -/
inductive Fit where
  | hardly | fairly | well
  deriving Repr, DecidableEq

/-- How well two classes follow each other. -/
def LatinClass.fit : LatinClass → LatinClass → Fit
  | .small, .capitalVowel | .small, .capitalConsonant => .hardly
  | .capitalVowel, .capitalVowel | .capitalVowel, .smallVowel => .hardly
  | .capitalVowel, .capitalConsonant | .capitalVowel, .smallConsonant => .fairly
  | .smallVowel, .capital | .smallVowel, .capitalVowel | .smallVowel, .capitalConsonant
  | .smallVowel, .smallVowel => .hardly
  | .smallConsonant, .capital | .smallConsonant, .capitalVowel
  | .smallConsonant, .capitalConsonant => .hardly
  | _, _ => .well

/-- How well each class follows the one in front of it. -/
def fits : LatinClass → List LatinClass → List Fit
  | _, [] => []
  | before, next :: classes => before.fit next :: fits next classes

/-- The verdict on Western texts. It is lowered, so that all others go first. -/
def latinVerdict (bytes : List UInt8) : Verdict :=
  let classes := (plainWordsFrom false [] bytes).flatten.map latinClass
  let found := fits .other classes
  let share : Rat := if found.isEmpty then 0
    else ((found.count .well : Nat) - 20 * (found.count .hardly : Nat)) / found.length
  let lowered := (if share ≤ 0 then 0 else share) * (73 / 100)
  ⟨"iso-8859-1", false, if classes.contains .none then sureNo else lowered⟩

end RowRecipe.Encoding
