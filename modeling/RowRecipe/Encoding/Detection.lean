import RowRecipe.Encoding.LargeSet
import RowRecipe.Encoding.SmallSet

/-!
# Telling encodings

The encoding of bytes is told from a byte order mark, from the escapes of an encoding of seven bits,
or else from the evidence for each encoding that has bytes beyond the ASCII range. Where there is
none of these, and where no evidence is good enough, the bytes are taken for UTF-8.
-/
namespace RowRecipe.Encoding

/-- The byte order marks and what they tell, a longer one in front of any it begins with. -/
def marks : List (List UInt8 × String) :=
  [([0xEF, 0xBB, 0xBF], "utf-8"), ([0xFF, 0xFE, 0x00, 0x00], "UTF-32LE"),
    ([0x00, 0x00, 0xFE, 0xFF], "UTF-32BE"), ([0xFE, 0xFF, 0x00, 0x00], "X-ISO-10646-UCS-4-3412"),
    ([0x00, 0x00, 0xFF, 0xFE], "X-ISO-100646-UCS-4-2143"), ([0xFF, 0xFE], "UTF-16LE"),
    ([0xFE, 0xFF], "UTF-16BE")]

/-- What the byte order mark in front of some bytes tells. -/
def marked? (bytes : List UInt8) : Option String :=
  (marks.find? fun mark => mark.1.isPrefixOf bytes).map Prod.snd

/-- The machines that look for escapes. -/
def escapeMachines : List (String × ByteMachine) :=
  [("HZ-GB-2312", Table.hz), ("ISO-2022-JP", Table.iso2022Jp), ("ISO-2022-KR", Table.iso2022Kr)]

/-- The earlier of two places with names, the first one preferred. -/
def earlier (first? : Option (Nat × String)) (second : Nat × String) : Option (Nat × String) :=
  if first?.all fun first => second.1 < first.1 then some second else first?

/-- The encoding whose escapes come first. -/
def escaped? (bytes : List UInt8) : Option String :=
  let found := escapeMachines.filterMap fun (name, machine) =>
    (machine.settledAt? bytes).map fun place => (place, name)
  (found.foldl earlier none).map Prod.snd

/-- Whether bytes have an escape character. A tilde and a brace, by which escapes may begin too, are
found in plain texts as well and do not count alone. -/
def hasEscape (bytes : List UInt8) : Bool :=
  bytes.contains 0x1B

/-- Whether a byte is beyond the ASCII range. The hard space is not taken for a sign of that. -/
def isForeign (b : UInt8) : Bool :=
  0x80 ≤ b && b != 0xA0

/-- The confidence above which evidence is good enough. -/
def goodEnough : Rat := 1 / 5

/-- The encoding of bytes beyond the ASCII range by the evidence for each encoding. -/
def foreign? (bytes : List UInt8) : Option String :=
  let verdicts := (groupVerdict? (largeSetVerdicts bytes)).toList
    ++ (groupVerdict? (smallSetVerdicts bytes)).toList ++ [latinVerdict bytes]
  match mostConfident? verdicts with
  | some verdict => if goodEnough < verdict.confidence then some verdict.name else none
  | none => none

/-- The encoding of some bytes. Escapes that tell no encoding are beyond telling. -/
def detect (bytes : List UInt8) : Option String :=
  match marked? bytes with
  | some name => some name
  | none =>
    if bytes.any isForeign then some ((foreign? bytes).getD "utf-8")
    else if hasEscape bytes then escaped? bytes
    else some "utf-8"

end RowRecipe.Encoding
