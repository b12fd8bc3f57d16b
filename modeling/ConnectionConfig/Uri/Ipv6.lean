import ConnectionConfig.Uri.Percent

/-!
# IPv6 addresses

An address is eight groups of sixteen bits. In text a group has one to four hexadecimal digits, the
last two groups may be written as a dotted quad, and one `::` stands for one or more groups of
zeros. Printing has one form for each address: small letters, no leading zeros, no dotted quad, and
`::` in place of the longest run of two or more zero groups, the first of them on a tie.
-/

namespace ConnectionConfig.Ipv6

/-- The value of a group: one to four hexadecimal digits. -/
def readGroup? (cs : List Char) : Option Nat :=
  if cs.isEmpty || 4 < cs.length then none
  else (cs.mapM Percent.hexDigit?).map fun ds ↦ ds.foldl (fun n d ↦ 16 * n + d) 0

/-- The value of a number in a dotted quad: decimal, without leading zeros, at most 255. -/
def readOctet? (cs : List Char) : Option Nat :=
  if cs.isEmpty || 3 < cs.length || !cs.all Char.isDigit then none
  else if cs.head? = some '0' && 1 < cs.length then none
  else
    let n := Nat.ofDigitChars 10 cs 0
    if n ≤ 255 then some n else none

/-- The two groups of a dotted quad. -/
def readQuad? (cs : List Char) : Option (List Nat) :=
  match (cs.splitOn '.').mapM readOctet? with
  | some [a, b, c, d] => some [256 * a + b, 256 * c + d]
  | _ => none

/-- The groups of a sequence of parts, the last of which may be a dotted quad where `quad` allows
it. -/
def readGroups? (quad : Bool) : List (List Char) → Option (List Nat)
  | [] => some []
  | [part] =>
    if quad && part.contains '.' then readQuad? part else (readGroup? part).map fun g ↦ [g]
  | part :: rest => do return (← readGroup? part) :: (← readGroups? quad rest)

/-- The groups on one side of the address; an empty side has none. -/
def readSide? (quad : Bool) (cs : List Char) : Option (List Nat) :=
  if cs.isEmpty then some [] else readGroups? quad (cs.splitOn ':')

/-- The parts before and after the first `::`, if there is one. -/
def cutGap? : List Char → Option (List Char × List Char)
  | ':' :: ':' :: rest => some ([], rest)
  | c :: rest => (cutGap? rest).map fun (before, after) ↦ (c :: before, after)
  | [] => none

/-- The eight groups of an address in text form. -/
def read? (cs : List Char) : Option (List Nat) :=
  match cutGap? cs with
  | none => (readGroups? true (cs.splitOn ':')).filter (·.length == 8)
  | some (before, after) => do
    let left ← readSide? false before
    let right ← readSide? true after
    let known := left.length + right.length
    if known ≤ 7 then some (left ++ List.replicate (8 - known) 0 ++ right) else none

/-- The length of the run of zeros at the start. -/
def zeroRun (groups : List Nat) : Nat := (groups.takeWhile (· == 0)).length

/-- The place and length of the longest run of zeros, the first of them on a tie; the place is
counted from `start`. -/
def longestRun (start : Nat) : List Nat → Nat × Nat
  | [] => (start, 0)
  | g :: rest =>
    let here := zeroRun (g :: rest)
    let later := longestRun (start + 1) rest
    if later.2 ≤ here then (start, here) else later

/-- The groups in small hexadecimal digits, with colons between them. -/
def printGroups (groups : List Nat) : List Char :=
  [':'].intercalate (groups.map (Nat.toDigits 16))

/-- The text form of an address. -/
def print (groups : List Nat) : List Char :=
  let (start, length) := longestRun 0 groups
  if length < 2 then printGroups groups
  else printGroups (groups.take start) ++ ':' :: ':' :: printGroups (groups.drop (start + length))

end ConnectionConfig.Ipv6
