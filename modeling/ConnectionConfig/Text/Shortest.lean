/-!
# The shortest decimal of a floating-point number

A number of double precision is the nearest one to every decimal in an interval around it, whose
ends belong to the interval when the significand is even. The shortest decimal is the one in the
interval on the coarsest decimal grid that has one there, and the nearer one if the grid has two. A
layout says which decimals are written out and which with an exponent.
-/

namespace ConnectionConfig.Shortest

/-- A positive number of double precision as `significand * 2 ^ exponent`. -/
structure Binary where
  significand : Nat
  exponent : Int

/-- The absolute value of a finite number. -/
def Binary.ofFloat (x : Float) : Binary :=
  let bits := x.toBits.toNat % Nat.pow 2 63
  let biased : Nat := bits / Nat.pow 2 52
  let fraction := bits % Nat.pow 2 52
  if biased = 0 then ⟨fraction, -1074⟩ else ⟨fraction + Nat.pow 2 52, Int.ofNat biased - 1075⟩

/-- Numerator and denominator of `n * 2 ^ e`. -/
def scaled (n : Nat) (e : Int) : Nat × Nat :=
  if 0 ≤ e then (n * Nat.pow 2 e.toNat, 1) else (n, Nat.pow 2 (-e).toNat)

/-- Whether the decimal `digits * 10 ^ k` is in the interval around a number. The interval reaches
halfway to the neighbours; below a power of two the neighbour is half as far away. -/
def isNearest (b : Binary) (digits : Nat) (k : Int) : Bool :=
  let quarter := b.exponent - 2
  let low := 4 * b.significand -
    (if b.significand = Nat.pow 2 52 && -1074 < b.exponent then 1 else 2)
  let high := 4 * b.significand + 2
  let (dn, dd) :=
    if 0 ≤ k then (digits * Nat.pow 10 k.toNat, 1) else (digits, Nat.pow 10 (-k).toNat)
  let (ln, ld) := scaled low quarter
  let (hn, hd) := scaled high quarter
  if b.significand % 2 = 0 then ln * dd ≤ dn * ld && dn * hd ≤ hn * dd
  else ln * dd < dn * ld && dn * hd < hn * dd

/-- The decimals of the grid `10 ^ k` next to a number that are in its interval, the nearer one
first; of two equally near ones the even one comes first. -/
def candidates (b : Binary) (k : Int) : List Nat :=
  let (n, d) := scaled b.significand b.exponent
  let (n, d) :=
    if 0 ≤ k then (n, d * Nat.pow 10 k.toNat) else (n * Nat.pow 10 (-k).toNat, d)
  let below := n / d
  let order :=
    if 2 * (n % d) < d || (2 * (n % d) = d && below % 2 = 0) then [below, below + 1]
    else [below + 1, below]
  order.filter fun digits ↦ 0 < digits && isNearest b digits k

/-- The first grid with a hit, from coarse to fine: digits and exponent of ten. -/
def search (b : Binary) (k : Int) : Nat → Nat × Int
  | 0 => (0, 0)
  | fuel + 1 =>
    match candidates b k with
    | digits :: _ => (digits, k)
    | [] => search b (k - 1) fuel

/-- Which decimals are written out, by the power of ten of their first digit: those from the first
bound up to the second one, which is left out. -/
structure Layout where
  plainFrom : Int
  plainBelow : Int

/-- A decimal written out, with a point and a digit on either side of it. -/
def plain (digits : List Char) (k : Int) : List Char :=
  if 0 ≤ k then digits ++ List.replicate k.toNat '0' ++ ['.', '0']
  else
    let places := (-k).toNat
    let padded := List.replicate (places + 1 - digits.length) '0' ++ digits
    padded.take (padded.length - places) ++ '.' :: padded.drop (padded.length - places)

/-- A decimal with the exponent of its first digit, which always has a sign. A point stands only
before further digits. -/
def scientific (digits : List Char) (exponent : Int) : List Char :=
  let point := if digits.length ≤ 1 then [] else ['.']
  let sign := if 0 ≤ exponent then '+' else '-'
  digits.take 1 ++ point ++ digits.drop 1 ++ 'e' :: sign :: Nat.toDigits 10 exponent.natAbs

/-- The text of the decimal `digits * 10 ^ k`. -/
def Layout.write (layout : Layout) (digits : Nat) (k : Int) : List Char :=
  let ds := Nat.toDigits 10 digits
  let exponent := k + ds.length - 1
  if layout.plainFrom ≤ exponent && exponent < layout.plainBelow then plain ds k
  else scientific ds exponent

/-- The shortest decimal of a finite number. -/
def print (layout : Layout) (x : Float) : String :=
  let sign := if x.toBits.toNat < Nat.pow 2 63 then [] else ['-']
  let b := Binary.ofFloat x
  let (digits, k) := if b.significand = 0 then (0, 0) else search b 309 660
  String.ofList (sign ++ layout.write digits k)

end ConnectionConfig.Shortest
