/-!
# UTF-8

A byte list is read one character at a time. Bytes that start no character form a part that is as
long as it can be while it could still become one; a lenient reading puts the replacement character
for each such part, a strict one reports where the first begins.
-/
namespace RowRecipe.Utf8

/-- What a byte list begins with. -/
inductive Head where
  /-- A character, and the number of its bytes. -/
  | char (c : Char) (length : Nat)
  /-- A part of this many bytes that is no character. -/
  | broken (length : Nat)
  deriving Repr, DecidableEq

/-- A byte after the first of a character. -/
def isContinuation (b : UInt8) : Bool :=
  0x80 ≤ b && b ≤ 0xBF

/-- The bytes that may come second after a given first byte. -/
def isSecond (first second : UInt8) : Bool :=
  if first == 0xE0 then 0xA0 ≤ second && second ≤ 0xBF
  else if first == 0xED then 0x80 ≤ second && second ≤ 0x9F
  else if first == 0xF0 then 0x90 ≤ second && second ≤ 0xBF
  else if first == 0xF4 then 0x80 ≤ second && second ≤ 0x8F
  else isContinuation second

/-- The low six bits of a byte. -/
def payload (b : UInt8) : Nat :=
  b.toNat % 64

/-- The character or broken part at the front of a non-empty byte list. -/
def head (first : UInt8) (rest : List UInt8) : Head :=
  if first < 0x80 then .char (Char.ofNat first.toNat) 1
  else if first < 0xC2 || 0xF4 < first then .broken 1
  else match rest with
    | [] => .broken 1
    | second :: rest =>
      if !isSecond first second then .broken 1
      else if first < 0xE0 then
        .char (Char.ofNat (first.toNat % 32 * 64 + payload second)) 2
      else match rest with
        | [] => .broken 2
        | third :: rest =>
          if !isContinuation third then .broken 2
          else if first < 0xF0 then
            .char (Char.ofNat ((first.toNat % 16 * 64 + payload second) * 64 + payload third)) 3
          else match rest with
            | [] => .broken 3
            | fourth :: _ =>
              if !isContinuation fourth then .broken 3
              else
                .char (Char.ofNat
                  (((first.toNat % 8 * 64 + payload second) * 64 + payload third) * 64
                    + payload fourth)) 4

/-- Reads every byte; `skip` bytes belong to the part read last. -/
def lenientFrom : Nat → List UInt8 → List Char
  | _, [] => []
  | skip + 1, _ :: rest => lenientFrom skip rest
  | 0, first :: rest =>
    match head first rest with
    | .char c length => c :: lenientFrom (length - 1) rest
    | .broken length => '\uFFFD' :: lenientFrom (length - 1) rest

/-- The characters of a byte list, each broken part read as the replacement character. -/
def decodeLenient (bytes : List UInt8) : List Char :=
  lenientFrom 0 bytes

/-- Reads until the first broken part, `offset` being the position of the next byte. -/
def strictFrom : Nat → Nat → List UInt8 → Except Nat (List Char)
  | _, _, [] => .ok []
  | skip + 1, offset, _ :: rest => strictFrom skip (offset + 1) rest
  | 0, offset, first :: rest =>
    match head first rest with
    | .char c length => (strictFrom (length - 1) (offset + 1) rest).map (c :: ·)
    | .broken _ => .error offset

/-- The characters of a byte list, or the position of the first byte that belongs to none. -/
def decode (bytes : List UInt8) : Except Nat (List Char) :=
  strictFrom 0 0 bytes

def encodeChar (c : Char) : List UInt8 :=
  let n := c.toNat
  if n < 0x80 then [n.toUInt8]
  else if n < 0x800 then [(0xC0 + n / 64).toUInt8, (0x80 + n % 64).toUInt8]
  else if n < 0x10000 then
    [(0xE0 + n / 4096).toUInt8, (0x80 + n / 64 % 64).toUInt8, (0x80 + n % 64).toUInt8]
  else
    [(0xF0 + n / 262144).toUInt8, (0x80 + n / 4096 % 64).toUInt8, (0x80 + n / 64 % 64).toUInt8,
      (0x80 + n % 64).toUInt8]

/-- The bytes of a character list. -/
def encode (cs : List Char) : List UInt8 :=
  cs.flatMap encodeChar

/-- The number of bytes of a character list. -/
def width (cs : List Char) : Nat :=
  (cs.map Char.utf8Size).foldr (· + ·) 0

@[simp] theorem width_nil : width [] = 0 := rfl

@[simp] theorem width_cons (c : Char) (cs : List Char) :
    width (c :: cs) = c.utf8Size + width cs := rfl

@[simp] theorem width_append (a b : List Char) : width (a ++ b) = width a + width b := by
  induction a with
  | nil => simp
  | cons c a ih => rw [List.cons_append, width_cons, width_cons, ih, Nat.add_assoc]

theorem utf8ByteSize_ofList (cs : List Char) : (String.ofList cs).utf8ByteSize = width cs := by
  induction cs with
  | nil => rfl
  | cons c cs ih =>
    rw [String.ofList_cons, String.utf8ByteSize_append, String.utf8ByteSize_singleton, ih,
      width_cons]

theorem width_toList (text : String) : width text.toList = text.utf8ByteSize := by
  rw [← utf8ByteSize_ofList, String.ofList_toList]

end RowRecipe.Utf8
