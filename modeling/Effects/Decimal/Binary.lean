/-!
# Binary64 values as exact numbers

A finite double is `±m · 2^q` with naturals for the magnitude, so that everything said about its
decimal text can be decided by comparing integers. `Binary.readsBack` is the specification that the
decimal writer is built on: it holds of exactly the decimals that round to the given double (to
nearest, ties to even).
-/

namespace Effects.Decimal

/-- A power of a natural number; a negative exponent counts as zero. -/
def power (base : Nat) (exponent : Int) : Nat := base.pow exponent.toNat

/-- The implicit bit of a significand. -/
def implicitBit : Nat := 4503599627370496

/-- The magnitude `m · 2^q` of a finite double. -/
structure Binary where
  /-- The significand, with the implicit bit put in. -/
  m : Nat
  /-- The exponent of the last bit of the significand. -/
  q : Int
  /-- The gap to the double below is half the gap to the double above. -/
  narrowBelow : Bool
deriving DecidableEq, Repr

/-- The magnitude that the bits of a finite double stand for; the sign bit is ignored. -/
def Binary.ofBits (bits : UInt64) : Binary :=
  let exponent := ((bits >>> 52) &&& 0x7FF).toNat
  let fraction := (bits &&& 0xFFFFFFFFFFFFF).toNat
  if exponent = 0 then ⟨fraction, -1074, false⟩
  else ⟨implicitBit + fraction, (exponent : Int) - 1075, fraction = 0 && exponent > 1⟩

/-- The sign bit of a double: set for negative numbers and for `-0`. -/
def isNegative (x : Float) : Bool := (x.toBits >>> 63) = 1

/-- The magnitude of a finite double; the sign is dropped. -/
def Binary.ofFloat (x : Float) : Binary := .ofBits x.toBits

/-- The magnitude when it is a whole number. -/
def Binary.toNat? (x : Binary) : Option Nat :=
  if x.q ≥ 0 then some (x.m * power 2 x.q)
  else if x.m % power 2 (-x.q) = 0 then some (x.m / power 2 (-x.q))
  else none

/-- The magnitude rounded to the nearest whole number, halves upwards. -/
def Binary.rounded (x : Binary) : Nat :=
  if x.q ≥ 0 then x.m * power 2 x.q
  else (2 * x.m + power 2 (-x.q)) / (2 * power 2 (-x.q))

/-- The largest natural number up to which every whole number is a double. -/
def maxExact : Nat := 9007199254740991

/-- The whole number that a finite double equals, when that number is exact (`maxExact`).
Both zeros are the number `0`. -/
def exactInt? (x : Float) : Option Int :=
  if x.isFinite then
    match (Binary.ofFloat x).toNat? with
    | some n => if n ≤ maxExact then some (if isNegative x then -(n : Int) else n) else none
    | none => none
  else none

/-- The bits of a natural number below `2^53`: the significand is shifted until its top bit is the
implicit one. -/
def bitsOfNat (n : Nat) : UInt64 :=
  if n = 0 then 0
  else
    let e := n.log2
    UInt64.ofNat ((e + 1023) * implicitBit + (n * power 2 (52 - e) - implicitBit))

/-- The double nearest to a whole number. Numbers up to `maxExact` are placed exactly, larger ones
are rounded to nearest, ties to even. -/
def ofInt (n : Int) : Float :=
  let magnitude :=
    if n.natAbs ≤ maxExact then Float.ofBits (bitsOfNat n.natAbs)
    else Float.ofScientific n.natAbs false 0
  if n < 0 then -magnitude else magnitude

/-- A decimal `digits · 10^exp`. -/
structure Digits where
  /-- The significant digits, read as a natural number. -/
  digits : Nat
  /-- The power of ten of the last digit. -/
  exp : Int
deriving DecidableEq, Repr

/-- Compares `a · 10^i` with `n · 2^j` exactly. -/
def compareScaled (a : Nat) (i : Int) (n : Nat) (j : Int) : Ordering :=
  compare (a * power 10 i * power 2 (-j)) (n * power 2 j * power 10 (-i))

/-- Whether a decimal lies among the reals that round to the given double: between the midpoints to
its two neighbours, the midpoints themselves included exactly when the significand is even. -/
def Binary.readsBack (x : Binary) (d : Digits) : Bool :=
  let below := compareScaled d.digits d.exp (if x.narrowBelow then 4 * x.m - 1 else 4 * x.m - 2)
    (x.q - 2)
  let above := compareScaled d.digits d.exp (4 * x.m + 2) (x.q - 2)
  let closed := x.m % 2 = 0
  (below = .gt || (closed && below = .eq)) && (above = .lt || (closed && above = .eq))

end Effects.Decimal
