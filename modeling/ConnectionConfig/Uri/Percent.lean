import ConnectionConfig.Text.Utf8

/-!
# Percent escapes

A byte is escaped as a percent sign and two capital hexadecimal digits. Which characters are escaped
depends on the place in a URI; everything outside ASCII always is, as its UTF-8 bytes. Reading
accepts digits of either case and leaves a percent sign alone that two digits do not follow.
-/

namespace ConnectionConfig.Percent

/-- The escape of one byte. -/
def escape (b : UInt8) : List Char :=
  ['%', (Nat.digitChar (b.toNat / 16)).toUpper, (Nat.digitChar (b.toNat % 16)).toUpper]

/-- The text with every character escaped that `reserved` selects. -/
def encode (reserved : Char → Bool) (cs : List Char) : List Char :=
  cs.flatMap fun c ↦ if reserved c then (String.utf8EncodeChar c).flatMap escape else [c]

/-- The value of a hexadecimal digit. -/
def hexDigit? (c : Char) : Option Nat :=
  if c.isDigit then some (c.toNat - '0'.toNat)
  else if 'a' ≤ c && c ≤ 'f' then some (c.toNat - 'a'.toNat + 10)
  else if 'A' ≤ c && c ≤ 'F' then some (c.toNat - 'A'.toNat + 10)
  else none

/-- The bytes that a text with escapes stands for. -/
def decode : List Char → List UInt8
  | [] => []
  | '%' :: a :: b :: rest =>
    match hexDigit? a, hexDigit? b with
    | some h, some l => UInt8.ofNat (16 * h + l) :: decode rest
    | _, _ => String.utf8EncodeChar '%' ++ decode (a :: b :: rest)
  | c :: rest => String.utf8EncodeChar c ++ decode rest

/-- A character other than the percent sign stands for its own bytes. -/
theorem decode_cons_of_ne {c : Char} (h : c ≠ '%') (rest : List Char) :
    decode (c :: rest) = String.utf8EncodeChar c ++ decode rest := by
  rw [decode]
  intro a b r hc
  exact absurd hc h

/-- The characters escaped everywhere: controls and everything outside ASCII. -/
def isControl (c : Char) : Bool := c.toNat < 0x20 || 0x7F ≤ c.toNat

/-- The characters escaped in a query. -/
def inQuery (c : Char) : Bool := isControl c || " \"#<>".toList.contains c

/-- The characters escaped in a hierarchical path. -/
def inPath (c : Char) : Bool := inQuery c || "\x60?\x7b\x7d".toList.contains c

/-- The characters escaped in the user information. -/
def inUserInfo (c : Char) : Bool := inPath c || "/:;=@[\\]^|".toList.contains c

/-- The characters escaped in a part that must not run into its neighbours: all but the unreserved
letters, digits, hyphen, dot, low line and tilde. -/
def inComponent (c : Char) : Bool := !(c.isAlphanum || "-._~".toList.contains c)

/-- The characters escaped in an option value: all but letters, digits, asterisk, hyphen, dot and
low line. -/
def inForm (c : Char) : Bool := !(c.isAlphanum || "*-._".toList.contains c)

/-- An option value as written in a query: a space becomes a plus sign. -/
def encodeForm (cs : List Char) : List Char :=
  cs.flatMap fun c ↦ if c = ' ' then ['+'] else encode inForm [c]

/-- The text of an option in a query: a plus sign is a space, and ill-formed UTF-8 is replaced. -/
def decodeForm (cs : List Char) : List Char :=
  Utf8.decodeTolerant (decode (cs.map fun c ↦ if c = '+' then ' ' else c))

end ConnectionConfig.Percent
