/-!
# UTF-8 over byte lists

`front` says what stands at the start of a byte sequence: a character, or the longest start of one
that breaks off, which is one maximal ill-formed part. Strict decoding refuses the second;
tolerant decoding puts one replacement character in its place. Both go through the same step, so
that they agree on every well-formed sequence.
-/

namespace ConnectionConfig.Utf8

/-- The bytes of a text. -/
def encode (cs : List Char) : List UInt8 := cs.flatMap String.utf8EncodeChar

/-- Whether a byte lies between two bounds, both included. -/
def within (low high : Nat) (b : UInt8) : Bool := low ≤ b.toNat && b.toNat ≤ high

/-- Whether a byte continues a character. -/
def continues (b : UInt8) : Bool := within 0x80 0xBF b

/-- The six bits that a continuation byte carries. -/
def bits (b : UInt8) : Nat := b.toNat - 0x80

/-- The character at the start of a sequence of two bytes, and how many bytes after the first belong
to what stands there. -/
def frontTwo (n : Nat) : List UInt8 → Option Char × Nat
  | c :: _ => if continues c then (some (Char.ofNat ((n - 0xC0) * 64 + bits c)), 1) else (none, 0)
  | [] => (none, 0)

/-- The character at the start of a sequence of three bytes. The second byte has narrower bounds
after `E0`, where a shorter form exists, and after `ED`, where the surrogates lie. -/
def frontThree (n : Nat) : List UInt8 → Option Char × Nat
  | c :: rest =>
    if within (if n = 0xE0 then 0xA0 else 0x80) (if n = 0xED then 0x9F else 0xBF) c then
      match rest with
      | d :: _ =>
        if continues d then
          (some (Char.ofNat (((n - 0xE0) * 64 + bits c) * 64 + bits d)), 2)
        else (none, 1)
      | [] => (none, 1)
    else (none, 0)
  | [] => (none, 0)

/-- The character at the start of a sequence of four bytes. The second byte has narrower bounds
after `F0`, where a shorter form exists, and after `F4`, where Unicode ends. -/
def frontFour (n : Nat) : List UInt8 → Option Char × Nat
  | c :: rest =>
    if within (if n = 0xF0 then 0x90 else 0x80) (if n = 0xF4 then 0x8F else 0xBF) c then
      match rest with
      | d :: rest =>
        if continues d then
          match rest with
          | e :: _ =>
            if continues e then
              (some (Char.ofNat ((((n - 0xF0) * 64 + bits c) * 64 + bits d) * 64 + bits e)), 3)
            else (none, 2)
          | [] => (none, 2)
        else (none, 1)
      | [] => (none, 1)
    else (none, 0)
  | [] => (none, 0)

/-- What stands at the start of the sequence `b :: rest`: the character, or none where it is
ill-formed, and how many bytes of `rest` belong to it. -/
def front (b : UInt8) (rest : List UInt8) : Option Char × Nat :=
  let n := b.toNat
  if n < 0x80 then (some (Char.ofNat n), 0)
  else if n < 0xC2 then (none, 0)
  else if n < 0xE0 then frontTwo n rest
  else if n < 0xF0 then frontThree n rest
  else if n < 0xF5 then frontFour n rest
  else (none, 0)

/-- The characters of the sequence after `skip` bytes, with none for each ill-formed part. -/
def charsAfter : Nat → List UInt8 → List (Option Char)
  | _, [] => []
  | skip + 1, _ :: rest => charsAfter skip rest
  | 0, b :: rest => (front b rest).1 :: charsAfter (front b rest).2 rest

/-- The characters of a byte sequence, with none for each maximal ill-formed part. -/
def chars (bytes : List UInt8) : List (Option Char) := charsAfter 0 bytes

/-- The text that the bytes stand for, if all of them are well-formed. -/
def decode? (bytes : List UInt8) : Option (List Char) := (chars bytes).mapM id

/-- The text that the bytes stand for, with U+FFFD for each maximal ill-formed part. -/
def decodeTolerant (bytes : List UInt8) : List Char := (chars bytes).map (·.getD '\uFFFD')

end ConnectionConfig.Utf8
