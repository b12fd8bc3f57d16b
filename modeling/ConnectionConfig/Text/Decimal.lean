/-!
# Decimal numerals

A numeral is at least one ASCII digit, with any number of leading zeros. A bounded reader accepts a
sign where its range has one and refuses a value outside the range; there is no wrapping.
-/

namespace ConnectionConfig.Decimal

/-- The value of a numeral: at least one ASCII digit and nothing else. -/
def readNat? (cs : List Char) : Option Nat :=
  if !cs.isEmpty && cs.all Char.isDigit then some (Nat.ofDigitChars 10 cs 0) else none

/-- The value of a numeral with an optional sign. -/
def readInt? : List Char → Option Int
  | '+' :: digits => (readNat? digits).map Int.ofNat
  | '-' :: digits => (readNat? digits).map fun n ↦ -Int.ofNat n
  | digits => (readNat? digits).map Int.ofNat

/-- The value of a numeral that a signed 32-bit word holds. -/
def readInt32? (cs : List Char) : Option Int32 :=
  (readInt? cs).bind fun i ↦
    if -2147483648 ≤ i ∧ i ≤ 2147483647 then some (Int32.ofInt i) else none

/-- The value of a numeral that an unsigned 16-bit word holds; a plus sign is accepted, a minus
sign never. -/
def readUInt16? (cs : List Char) : Option UInt16 :=
  let digits := match cs with
    | '+' :: rest => rest
    | _ => cs
  (readNat? digits).bind fun n ↦ if n ≤ 65535 then some (UInt16.ofNat n) else none

/-- The shortest numeral of a natural number. -/
def ofNat (n : Nat) : List Char := Nat.toDigits 10 n

/-- The shortest numeral of an integer, with a minus sign where it is negative. -/
def ofInt (i : Int) : List Char :=
  if i < 0 then '-' :: ofNat i.natAbs else ofNat i.natAbs

/-- The shortest numeral of a signed 32-bit word. -/
def ofInt32 (i : Int32) : String := String.ofList (ofInt i.toInt)

/-- The shortest numeral of an unsigned 32-bit word. -/
def ofUInt32 (n : UInt32) : String := String.ofList (ofNat n.toNat)

/-- The shortest numeral of an unsigned 16-bit word. -/
def ofUInt16 (n : UInt16) : String := String.ofList (ofNat n.toNat)

/-- A written numeral reads back as its number. -/
theorem readNat?_ofNat (n : Nat) : readNat? (ofNat n) = some n := by
  have hd : (Nat.toDigits 10 n).all Char.isDigit = true := List.all_eq_true.mpr fun c hc ↦
    Nat.isDigit_of_mem_toDigits (by decide) (by decide) hc
  simp [readNat?, ofNat, hd, -List.all_eq_true]

/-- A written integer reads back as its number. -/
theorem readInt?_ofInt (i : Int) : readInt? (ofInt i) = some i := by
  by_cases h : i < 0
  · simp only [ofInt, h, ite_true, readInt?, readNat?_ofNat, Option.map_some, Option.some.injEq,
      Int.ofNat_eq_natCast]
    omega
  · have hn := readNat?_ofNat i.natAbs
    simp only [ofInt, h, ite_false]
    unfold readInt?
    split
    · next heq => rw [heq] at hn; simp [readNat?] at hn
    · next heq => rw [heq] at hn; simp [readNat?] at hn
    · rw [hn]
      simp only [Option.map_some, Option.some.injEq, Int.ofNat_eq_natCast]
      omega

end ConnectionConfig.Decimal
