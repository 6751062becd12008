import RowRecipe.Encoding.Table.Frequent
import RowRecipe.Encoding.Table.Kana
import RowRecipe.Encoding.Table.Machines
import RowRecipe.Encoding.Verdict

/-!
# Evidence for large sets of characters

A set of thousands of characters is told by how many of the characters read are frequent ones. For
Japanese it also counts which kana follow each other. UTF-8 is told by its form alone.
-/
namespace RowRecipe.Encoding

open Text (CodeSet)

/-- A table of characters: where the one of two bytes stands, in front of the table if it is none of
it, which places hold frequent characters, and how many frequent characters stand against another
one in a typical text. -/
structure CharTable where
  place : Int → Int → Int
  frequent : CodeSet
  ratio : Rat

namespace CharTable

/-- The place of a character in rows of 94, which begin at a byte. -/
def rowPlace (firstRow : Int) (a b : Int) : Int :=
  if firstRow ≤ a then 94 * (a - firstRow) + b - 0xA1 else -1

def big5 : CharTable where
  place a b :=
    if a < 0xA4 then -1
    else if 0xA1 ≤ b then 157 * (a - 0xA4) + b - 0xA1 + 63
    else 157 * (a - 0xA4) + b - 0x40
  frequent := Table.frequentBig5
  ratio := 3 / 4

def korean : CharTable := ⟨rowPlace 0xB0, Table.frequentKorean, 6⟩

def taiwanese : CharTable := ⟨rowPlace 0xC4, Table.frequentTaiwanese, 3 / 4⟩

def chinese : CharTable where
  place a b := if 0xA1 ≤ b then rowPlace 0xB0 a b else -1
  frequent := Table.frequentChinese
  ratio := 9 / 10

def japanese : CharTable where
  place a b := if 0xA0 ≤ a then 94 * (a - 0xA1) + b - 0xA1 else -1
  frequent := Table.frequentJapanese
  ratio := 3

/-- Japanese characters in pairs of rows, of which those in the first half of a row count. -/
def japaneseShifted : CharTable where
  place a b :=
    if 0x7F < b then -1
    else if 0x81 ≤ a ∧ a ≤ 0x9F then 188 * (a - 0x81) + b - 0x40
    else if 0xE0 ≤ a ∧ a ≤ 0xEF then 188 * (a - 0xE0 + 31) + b - 0x40
    else -1
  frequent := Table.frequentJapanese
  ratio := 3

/-- The places of the characters of two bytes that are in the table. -/
def places (table : CharTable) (chars : List CodedChar) : List Nat :=
  chars.filterMap fun char =>
    let place := table.place (char.before.getD 0).toNat char.last.toNat
    if char.length = 2 ∧ 0 ≤ place then some place.toNat else none

/-- The confidence that places of characters give. -/
def confidence (table : CharTable) (places : List Nat) : Rat :=
  let total := places.length
  let frequent := places.countP table.frequent.holds
  if frequent ≤ 3 then sureNo
  else if total = frequent then sureYes
  else
    let share : Rat := frequent / ((total - frequent : Nat) * table.ratio)
    if sureYes ≤ share then sureYes else share

/-- The verdict of a machine and a table. -/
def verdict (table : CharTable) (name : String) (machine : ByteMachine) (bytes : List UInt8) :
    Verdict :=
  let (chars, ending) := machine.chars bytes
  let places := table.places chars
  .after name ending (table.confidence places) (1024 < places.length)

end CharTable

/-- Whether the second of two kana hardly follows the first. -/
def isRareKana (first second : Nat) : Bool :=
  (Table.rareKana.getD first 0).testBit second

/-- What has been read of kana: how many bytes of each further character are passed over, the kana
in front, how many pairs there were, how many of them are rare, and the bytes at which characters
began. -/
structure KanaCount where
  skip : Nat
  before : Option Nat
  pairs : Nat
  rare : Nat
  starts : List UInt8
  deriving Repr

namespace KanaCount

def maxPairs : Nat := 1000

/-- The number of pairs beyond which the count is enough. -/
def enoughPairs : Nat := 100

def start : KanaCount := ⟨0, none, 0, 0, []⟩

/-- Counts a kana, or something else. -/
def add (count : KanaCount) (kana : Option Nat) : KanaCount :=
  match count.before, kana with
  | some first, some second =>
    if maxPairs ≤ count.pairs then { count with pairs := maxPairs + 1 }
    else
      { count with
        before := kana
        pairs := count.pairs + 1
        rare := if isRareKana first second then count.rare + 1 else count.rare }
  | _, _ => { count with before := kana }

/-- Reads so many bytes behind those passed over, by a reader that tells of the next bytes which
kana they are and how many of them belong together. A reader that goes beyond the end makes bytes
of the further characters be passed over. -/
def readFrom (read : List UInt8 → Option Nat × Nat) (size : Nat) :
    Nat → Nat → List UInt8 → KanaCount → KanaCount
  | 0, _, _, count => count
  | bound + 1, place, bytes, count =>
    if size ≤ place ∨ maxPairs < count.pairs then count
    else
      let (kana, length) := read bytes
      let count := { count with starts := bytes.head?.toList ++ count.starts }
      if size < place + length then
        { count with skip := place + length - size, before := none }
      else readFrom read size bound (place + length) (bytes.drop length) (count.add kana)

/-- Reads the bytes that stand for a character of a length. -/
def read (read : List UInt8 → Option Nat × Nat) (count : KanaCount)
    (char : Nat × List UInt8) : KanaCount :=
  readFrom read char.1 (char.1 + 1) count.skip (char.2.drop count.skip) count

/-- The share of pairs that are not rare, if there are enough of them. -/
def confidence (count : KanaCount) : Rat :=
  if count.pairs ≤ 4 then -1 else (count.pairs - count.rare : Nat) / count.pairs

end KanaCount

/-- The kana of a row, which lies between two bytes, behind a byte that leads it. -/
def kanaOf? (lead first last : UInt8) : List UInt8 → Option Nat
  | a :: b :: _ =>
    if a = lead ∧ first ≤ b ∧ b ≤ last then some (b.toNat - first.toNat) else none
  | _ => none

def isShiftJisLead (b : UInt8) : Bool :=
  0x81 ≤ b && b ≤ 0x9F || 0xE0 ≤ b && b ≤ 0xFC

/-- The kana at the front of bytes in Shift JIS, and the length of what stands there. -/
def shiftJisKana (bytes : List UInt8) : Option Nat × Nat :=
  (kanaOf? 0x82 0x9F 0xF1 bytes, if bytes.head?.any isShiftJisLead then 2 else 1)

/-- The kana at the front of bytes in EUC-JP, and the length of what stands there. -/
def eucJpKana (bytes : List UInt8) : Option Nat × Nat :=
  (kanaOf? 0xA4 0xA1 0xF3 bytes, match bytes.head? with
    | none => 1
    | some b => if b = 0x8F then 3 else if b = 0x8E ∨ 0xA1 ≤ b ∧ b ≤ 0xFE then 2 else 1)

/-- The bytes that stand for a character of Shift JIS: those of its own, a single one together with
the byte behind it. -/
def shiftJisBytes (char : CodedChar) : Nat × List UInt8 :=
  match char.before with
  | none => (char.length, if char.length = 1 then [char.last] else [])
  | some before =>
    (char.length, match char.length with
      | 0 => []
      | 1 => char.last :: char.behind.toList
      | _ => [before, char.last])

/-- The bytes that stand for a character of EUC-JP: its last one with the one in front of it. -/
def eucJpBytes (char : CodedChar) : Nat × List UInt8 :=
  (char.length, [char.before.getD 0, char.last])

/-- The verdict on a Japanese encoding by kana and by frequent characters. -/
def kanaVerdict (name : String) (ending : Ending) (count : KanaCount) (tableConfidence : Rat) :
    Verdict :=
  .after name ending
    (if count.confidence ≤ tableConfidence then tableConfidence else count.confidence)
    (KanaCount.enoughPairs < count.pairs)

def isBeyondShiftJis (b : UInt8) : Bool :=
  b == 0x87 || 0xFA ≤ b && b ≤ 0xFC

def shiftJisVerdict (bytes : List UInt8) : Verdict :=
  let (chars, ending) := Table.shiftJis.chars bytes
  let count := (chars.map shiftJisBytes).foldl (KanaCount.read shiftJisKana) .start
  kanaVerdict (if count.starts.any isBeyondShiftJis then "CP932" else "SHIFT_JIS") ending count
    (CharTable.japaneseShifted.confidence (CharTable.japaneseShifted.places chars))

def eucJpVerdict (bytes : List UInt8) : Verdict :=
  let (chars, ending) := Table.eucJp.chars bytes
  let count := (chars.map eucJpBytes).foldl (KanaCount.read eucJpKana) .start
  kanaVerdict "EUC-JP" ending count
    (CharTable.japanese.confidence (CharTable.japanese.places chars))

/-- The confidence in UTF-8 after so many characters of several bytes. -/
def utf8Confidence (count : Nat) : Rat :=
  if count < 6 then 1 - sureYes / 2 ^ count else sureYes

def utf8Verdict (bytes : List UInt8) : Verdict :=
  let (chars, ending) := Table.utf8.chars bytes
  let count := chars.countP fun char => 2 ≤ char.length
  .after "utf-8" ending (utf8Confidence count) true

/-- The verdicts on the encodings of large sets, in the order in which they are asked. -/
def largeSetVerdicts (bytes : List UInt8) : List Verdict :=
  [utf8Verdict bytes, shiftJisVerdict bytes, eucJpVerdict bytes,
    CharTable.chinese.verdict "GB2312" Table.gb2312 bytes,
    CharTable.korean.verdict "EUC-KR" Table.eucKr bytes,
    CharTable.korean.verdict "CP949" Table.cp949 bytes,
    CharTable.big5.verdict "Big5" Table.big5 bytes,
    CharTable.taiwanese.verdict "EUC-TW" Table.eucTw bytes]

end RowRecipe.Encoding
