/-!
# Base64

Four characters of the alphabet stand for three bytes. Padding at the end may be left out or cut
short. The bits of the last character that belong to no byte have to be zero. Errors name the byte
and its offset; only the last group of up to eight characters can hold padding.
-/

namespace ConnectionConfig.Base64

/-- Why a text is not in base 64: a byte stands where it cannot, the last character has no partner
to make up a byte, or it has bits that belong to no byte. -/
inductive Error where
  | invalidByte (byte : UInt8) (offset : Nat)
  | invalidLength
  | invalidLastSymbol (byte : UInt8) (offset : Nat)
  deriving DecidableEq, Repr

/-- The text of the reason. -/
def Error.message : Error → String
  | .invalidByte byte offset =>
    "Invalid byte " ++ Nat.repr byte.toNat ++ ", offset " ++ Nat.repr offset ++ "."
  | .invalidLength => "Encoded text cannot have a 6-bit remainder."
  | .invalidLastSymbol byte offset =>
    "Invalid last symbol " ++ Nat.repr byte.toNat ++ ", offset " ++ Nat.repr offset ++ "."

/-- The padding character. -/
def padding : UInt8 := 0x3D

/-- The six bits that a character of the alphabet stands for. -/
def value? (b : UInt8) : Option Nat :=
  let n := b.toNat
  if 0x41 ≤ n && n ≤ 0x5A then some (n - 0x41)
  else if 0x61 ≤ n && n ≤ 0x7A then some (n - 0x61 + 26)
  else if 0x30 ≤ n && n ≤ 0x39 then some (n - 0x30 + 52)
  else if n = 0x2B then some 62
  else if n = 0x2F then some 63
  else none

/-- The values of characters that all have to be in the alphabet. -/
def readValues (offset : Nat) : List UInt8 → Except Error (List Nat)
  | [] => .ok []
  | b :: rest =>
    match value? b with
    | some v => (readValues (offset + 1) rest).map (v :: ·)
    | none => .error (.invalidByte b offset)

/-- The values of the last group. `padded` is the offset of the first padding character seen, after
which only padding may follow; the first two of four characters cannot be padding. -/
def readLastGroup (offset : Nat) (padded : Option Nat) : List UInt8 → Except Error (List Nat)
  | [] => .ok []
  | b :: rest =>
    if b = padding then
      let first := padded.getD offset
      if offset % 4 < 2 then .error (.invalidByte padding first)
      else readLastGroup (offset + 1) (some first) rest
    else
      match padded, value? b with
      | some first, _ => .error (.invalidByte padding first)
      | none, some v => (readLastGroup (offset + 1) none rest).map (v :: ·)
      | none, none => .error (.invalidByte b offset)

/-- The bytes that values of six bits make up; bits left over are dropped. -/
def pack : List Nat → List UInt8
  | a :: b :: c :: d :: rest =>
    UInt8.ofNat (a * 4 + b / 16) :: UInt8.ofNat (b % 16 * 16 + c / 4) ::
      UInt8.ofNat (c % 4 * 64 + d) :: pack rest
  | [a, b, c] => [UInt8.ofNat (a * 4 + b / 16), UInt8.ofNat (b % 16 * 16 + c / 4)]
  | [a, b] => [UInt8.ofNat (a * 4 + b / 16)]
  | _ => []

/-- Whether the last value has bits that belong to no byte. -/
def hasLooseBits (values : List Nat) : Bool :=
  match values.length % 4, values.getLast? with
  | 2, some v => v % 16 != 0
  | 3, some v => v % 4 != 0
  | _, _ => false

/-- The bytes that a text stands for. -/
def decode (text : List UInt8) : Except Error (List UInt8) := do
  if text.length % 4 = 1 then
    match text.getLast? with
    | some b =>
      if b ≠ padding ∧ value? b = none then throw (.invalidByte b (text.length - 1))
      else throw .invalidLength
    | none => throw .invalidLength
  let start := (text.length - 1) / 8 * 8
  let values := (← readValues 0 (text.take start)) ++ (← readLastGroup start none (text.drop start))
  if hasLooseBits values then
    throw (.invalidLastSymbol (text.getD (values.length - 1) 0) (values.length - 1))
  return pack values

end ConnectionConfig.Base64
