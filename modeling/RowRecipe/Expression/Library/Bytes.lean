import RowRecipe.Expression.Library.Arrays

/-!
# Functions on bytes

A whole number stands for the byte that its lowest eight bits are. Where there is no byte, a
function that takes one gives zero.
-/
namespace RowRecipe.Expression

/-- The byte that the lowest bits of a whole number are. -/
def byteOf (value : Int64) : UInt8 :=
  UInt8.ofNat (bitsOf value % 256)

/-- A byte as a value, zero standing for none. -/
def byteValue (byte : Option UInt8) : Value :=
  countValue (byte.getD 0).toNat

/-- The bytes that a value stands for in a list of bytes. -/
def bytesOf? : Value → Option (List UInt8)
  | .whole value => some [byteOf value]
  | .bytes value => some value
  | value => textBytes? value

/-- The bits that up to eight bytes of a stretch are, the lowest byte first or last. -/
def bitsOfBytes (lowestFirst : Bool) (stretch : Stretch) (bytes : List UInt8) : Nat :=
  let read := (stretch.take bytes).take 8
  let full := read ++ List.replicate (8 - read.length) 0
  let rising := if read = [] then [] else if lowestFirst then full else full.reverse
  rising.foldr (fun byte number => number * 256 + byte.toNat) 0

/-- The float that up to eight bytes of a stretch are. -/
def floatOfBytes (lowestFirst : Bool) (stretch : Stretch) (bytes : List UInt8) : Value :=
  .float (Float.ofBits (UInt64.ofNat (bitsOfBytes lowestFirst stretch bytes)))

/-- Eight bytes of some bits, the lowest byte first or last. -/
def bytesOfBits (lowestFirst : Bool) (bits : Nat) : List UInt8 :=
  let rising := (List.range 8).map fun place => UInt8.ofNat (bits / Nat.pow 256 place % 256)
  if lowestFirst then rising else rising.reverse

/-- The bytes that a function writes of a value. -/
def bytesToWrite? (name : String) (value : Value) : Option (List UInt8) :=
  match name, value with
  | "write_le", .whole value => some (bytesOfBits true (bitsOf value))
  | "write_be", .whole value => some (bytesOfBits false (bitsOf value))
  | "write_le", .float value => some (bytesOfBits true value.toBits.toNat)
  | "write_be", .float value => some (bytesOfBits false value.toBits.toNat)
  | "write_utf8", .text value => some (Utf8.encode value.toList)
  | "write_ascii", .text value => some (Utf8.encode (value.toList.filter (·.toNat < 0x80)))
  | _, _ => none

/-- Writes bytes over those of a stretch, as many as there are on both sides. -/
def overwritten (stretch : Stretch) (new bytes : List UInt8) : List UInt8 :=
  Stretch.replace ⟨stretch.start, min stretch.length new.length⟩ (new.take stretch.length) bytes

/-- The bytes after a function has written over some of them. -/
def writtenBytes? (name : String) (bytes : List UInt8) (others : List Value) :
    Option (List UInt8) := do
  let (start, count) ← Stretch.asked? others.dropLast
  let new ← bytesToWrite? name (← others.getLast?)
  return overwritten (Stretch.of bytes.length start count) new bytes

def bytesFunction? (name : String) (bytes : List UInt8) (others : List Value) : Option Outcome :=
  match name, others with
  | "len", [] => some (.ok (countValue bytes.length))
  | "is_empty", [] => some (.ok (.boolean bytes.isEmpty))
  | "get", [.whole index] => some (.ok (byteValue (itemAt? index.toInt bytes)))
  | "to_array", [] => some (.ok (.array (bytes.map fun byte => countValue byte.toNat)))
  | "as_string", [] => some (.ok (textValue (Utf8.decodeLenient bytes)))
  | "extract", others => do
    let (start, count) ← Stretch.askedFrom? others
    return .ok (.bytes ((Stretch.of bytes.length start count).take bytes))
  | "parse_le_int", others => do
    let (start, count) ← Stretch.asked? others
    return .ok (ofBits (bitsOfBytes true (Stretch.of bytes.length start count) bytes))
  | "parse_be_int", others => do
    let (start, count) ← Stretch.asked? others
    return .ok (ofBits (bitsOfBytes false (Stretch.of bytes.length start count) bytes))
  | "parse_le_float", others => do
    let (start, count) ← Stretch.asked? others
    return .ok (floatOfBytes true (Stretch.of bytes.length start count) bytes)
  | "parse_be_float", others => do
    let (start, count) ← Stretch.asked? others
    return .ok (floatOfBytes false (Stretch.of bytes.length start count) bytes)
  | _, _ => none

def bytesChange? (name : String) (bytes : List UInt8) (others : List Value) : Option Change :=
  match name, others with
  | "push", [.whole value] => changed (.bytes (bytes ++ [byteOf value]))
  | "append", [more] => do changed (.bytes (bytes ++ (← bytesOf? more)))
  | "insert", [.whole index, .whole value] =>
    changed (.bytes (inserted index.toInt (byteOf value) bytes))
  | "set", [.whole index, .whole value] =>
    changed (.bytes (setAt index.toInt (byteOf value) bytes))
  | "pad", [.whole length, .whole value] =>
    changed (.bytes (padded length.toInt (byteOf value) bytes))
  | "pop", [] => some (.ok (byteValue bytes.getLast?, .bytes bytes.dropLast))
  | "shift", [] => some (.ok (byteValue bytes.head?, .bytes bytes.tail))
  | "remove", [.whole index] =>
    match place? bytes.length index.toInt with
    | some place => some (.ok (byteValue bytes[place]?, .bytes (bytes.eraseIdx place)))
    | none => some (.ok (byteValue none, .bytes bytes))
  | "clear", [] => changed (.bytes [])
  | "truncate", [.whole length] => changed (.bytes (truncated length.toInt bytes))
  | "chop", [.whole length] => changed (.bytes (chopped length.toInt bytes))
  | "reverse", [] => changed (.bytes bytes.reverse)
  | "split", [.whole start] =>
    let (stays, cut) := cutAt start.toInt bytes
    some (.ok (.bytes cut, .bytes stays))
  | "splice", [.whole start, .whole count, .bytes new] =>
    let stretch := Stretch.of bytes.length start.toInt count.toInt
    changed (.bytes (stretch.replace new bytes))
  | "splice", [.range closed first last, .bytes new] =>
    let (start, count) := Stretch.ofRange closed first last
    changed (.bytes ((Stretch.of bytes.length start count).replace new bytes))
  | "drain", others => do
    let (start, count) ← Stretch.asked? others
    let stretch := Stretch.of bytes.length start count
    return .ok (.bytes (stretch.take bytes), .bytes (stretch.leave bytes))
  | "retain", others => do
    let (start, count) ← Stretch.asked? others
    let stretch := Stretch.of bytes.length start count
    return .ok (.bytes (stretch.leave bytes), .bytes (stretch.take bytes))
  | name, others => (writtenBytes? name bytes others).bind fun bytes => changed (.bytes bytes)

end RowRecipe.Expression
