/-!
# Ranges of bytes

A text is also a row of bytes, up to four for a character. A range of code points falls into
sequences of ranges of bytes, one range for each place, so that every choice of bytes is a character
of the range.
-/
namespace RowRecipe.Regex

abbrev ByteRange := Nat × Nat

/-- The bytes of a code point, the last one first: so many more bytes than the first one follow,
which has a mark in its high bits. -/
def bytesBackwards (mark : Nat) : Nat → Nat → List Nat
  | 0, code => [mark + code]
  | more + 1, code => (0x80 + code % 64) :: bytesBackwards mark more (code / 64)

/-- Splits a range of code points of one length until each byte goes through a range of its own.
Below so many more bytes, all of them have to be free or fixed. -/
def evenRanges : Nat → Nat × Nat → List (Nat × Nat)
  | 0, range => [range]
  | more + 1, (first, last) =>
    let block := Nat.pow 64 (more + 1)
    if first / block = last / block then evenRanges more (first, last)
    else
      let low := if first % block = 0 then first else (first / block + 1) * block
      let high := if last % block = block - 1 then last + 1 else last / block * block
      (if first < low then evenRanges more (first, low - 1) else [])
        ++ (if low < high then [(low, high - 1)] else [])
        ++ (if high ≤ last then evenRanges more (high, last) else [])

/-- The lengths of code points in bytes less one, with the first and last code point of each length
and the mark of their first byte. Halves of code points are left out. -/
def lengthClasses : List (Nat × Nat × Nat × Nat) :=
  [(0, 0, 0x7F, 0), (1, 0x80, 0x7FF, 0xC0), (2, 0x800, 0xD7FF, 0xE0), (2, 0xE000, 0xFFFF, 0xE0),
    (3, 0x10000, 0x10FFFF, 0xF0)]

/-- The sequences of ranges of bytes of a range of code points. -/
def byteSequences (range : Nat × Nat) : List (List ByteRange) :=
  lengthClasses.flatMap fun (more, least, most, mark) =>
    let first := max range.1 least
    let last := min range.2 most
    if last < first then []
    else
      (evenRanges more (first, last)).map fun (first, last) =>
        ((bytesBackwards mark more first).zip (bytesBackwards mark more last)).reverse

end RowRecipe.Regex
