import RowRecipe.Text.Case
import RowRecipe.Text.Utf8

/-!
# Decoding bytes

Decoding never fails. A byte order mark overrides the single-byte encodings, whose tables cover all
bytes, and encodings that are not known are taken for UTF-8.
-/
namespace RowRecipe.Encoding

/-- The code points of the bytes from 0x80 to 0x9F in windows-1252. -/
def windowsCodes : List Nat :=
  [0x20AC, 0x81, 0x201A, 0x0192, 0x201E, 0x2026, 0x2020, 0x2021, 0x02C6, 0x2030, 0x0160, 0x2039,
    0x0152, 0x8D, 0x017D, 0x8F, 0x90, 0x2018, 0x2019, 0x201C, 0x201D, 0x2022, 0x2013, 0x2014,
    0x02DC, 0x2122, 0x0161, 0x203A, 0x0153, 0x9D, 0x017E, 0x0178]

def windowsChar (b : UInt8) : Char :=
  let code := b.toNat
  Char.ofNat (if code < 0x80 ∨ 0xA0 ≤ code then code else windowsCodes.getD (code - 0x80) code)

def latinChar (b : UInt8) : Char :=
  match b.toNat with
  | 0xA4 => '\u20AC'
  | 0xA6 => '\u0160'
  | 0xA8 => '\u0161'
  | 0xB4 => '\u017D'
  | 0xB8 => '\u017E'
  | 0xBC => '\u0152'
  | 0xBD => '\u0153'
  | 0xBE => '\u0178'
  | code => Char.ofNat code

/-- The code units of bytes in pairs, the last one missing if a byte is left over. -/
def units (bigEndian : Bool) : List UInt8 → List (Option Nat)
  | [] => []
  | [_] => [none]
  | a :: b :: bytes =>
    some (if bigEndian then a.toNat * 256 + b.toNat else b.toNat * 256 + a.toNat)
      :: units bigEndian bytes

/-- Whether a code unit comes first in a pair. -/
def isLeading (unit : Nat) : Bool :=
  0xD800 ≤ unit && unit < 0xDC00

/-- Whether a code unit comes second in a pair. -/
def isTrailing (unit : Nat) : Bool :=
  0xDC00 ≤ unit && unit < 0xE000

/-- The characters of code units, the replacement character for each that is out of place; after the
first unit of a pair it is still to be told what the pair becomes. -/
def charsOfUnits : Option Nat → List (Option Nat) → List Char
  | none, [] => []
  | some _, [] => ['\uFFFD']
  | _, none :: _ => ['\uFFFD']
  | none, some unit :: rest =>
    if isLeading unit then charsOfUnits (some unit) rest
    else (if isTrailing unit then '\uFFFD' else Char.ofNat unit) :: charsOfUnits none rest
  | some first, some unit :: rest =>
    if isTrailing unit then
      Char.ofNat ((first - 0xD800) * 1024 + (unit - 0xDC00) + 0x10000) :: charsOfUnits none rest
    else if isLeading unit then '\uFFFD' :: charsOfUnits (some unit) rest
    else '\uFFFD' :: Char.ofNat unit :: charsOfUnits none rest

/-- Decodes bytes by a table, unless a byte order mark tells otherwise. -/
def decodeWith (table : UInt8 → Char) : List UInt8 → List Char
  | 0xEF :: 0xBB :: 0xBF :: bytes => Utf8.decodeLenient bytes
  | 0xFF :: 0xFE :: bytes => charsOfUnits none (units false bytes)
  | 0xFE :: 0xFF :: bytes => charsOfUnits none (units true bytes)
  | bytes => bytes.map table

/-- Decodes bytes in the encoding with a name. Those that are not known are taken for UTF-8. -/
def decode (name : String) (bytes : List UInt8) : String :=
  let name := Text.lower name
  String.ofList
    (if name ∈ ["iso-8859-1", "latin-1", "latin1"] then decodeWith latinChar bytes
    else if name ∈ ["windows-1252", "cp1252"] then decodeWith windowsChar bytes
    else Utf8.decodeLenient bytes)

end RowRecipe.Encoding
