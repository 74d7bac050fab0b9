import Effects.Decimal.Binary

/-!
# The fewest digits that read back

`Binary.shortest` picks, among the decimals that round to a double, one with the fewest digits and
of those the nearest. The grids `10^(k-1)`, `10^(k-2)`, … are tried in turn, where `10^k` is the
least power of ten above the value; on each grid only the two neighbours of the value can lie in its
interval, and both are tested in exact arithmetic.
-/

namespace Effects.Decimal

/-- Which of two equally near neighbours is taken. -/
inductive Tie where
  /-- The one whose last digit is even. -/
  | toEven
  /-- The larger one. -/
  | up
deriving DecidableEq, Repr

/-- The least `k` with `m · 2^q < 10^k`, for a positive magnitude. The first guess comes from the
binary logarithm and is never too large; it is at most three steps too small. -/
def Binary.scale (x : Binary) : Int :=
  let guess := ((x.m.log2 : Int) + x.q) * 30103 / 100000 - 1
  let fits (k : Int) : Bool := compareScaled 1 k x.m x.q = .gt
  ((List.range 5).map (fun (i : Nat) => guess + (i : Int))).find? fits |>.getD (guess + 5)

/-- The greatest multiple of `10^e` not above the value, counted in units of `10^e`. -/
def Binary.floorAt (x : Binary) (e : Int) : Nat :=
  (x.m * power 2 x.q * power 10 (-e)) / (power 10 e * power 2 (-x.q))

/-- The neighbour of the value on the grid `10^e` that reads back; of two the nearer one. -/
def Binary.onGrid? (x : Binary) (tie : Tie) (e : Int) : Option Digits :=
  let low : Digits := ⟨x.floorAt e, e⟩
  let high : Digits := ⟨low.digits + 1, e⟩
  match x.readsBack low, x.readsBack high with
  | true, true =>
    match compareScaled (low.digits + high.digits) e (2 * x.m) x.q with
    | .gt => some low
    | .lt => some high
    | .eq =>
      match tie with
      | .toEven => some (if low.digits % 2 = 0 then low else high)
      | .up => some high
  | true, false => some low
  | false, true => some high
  | false, false => none

/-- Moves trailing zeros of the digits into the exponent. -/
def Digits.strip : Nat → Digits → Digits
  | 0, d => d
  | n + 1, d => if d.digits % 10 = 0 then strip n ⟨d.digits / 10, d.exp + 1⟩ else d

/-- The exact decimal value of a magnitude. -/
def Binary.exact (x : Binary) : Digits :=
  if x.q ≥ 0 then ⟨x.m * power 2 x.q, 0⟩ else ⟨x.m * power 5 (-x.q), x.q⟩

/-- The shortest decimal that reads back as the given magnitude, without trailing zeros.
Seventeen digits always suffice; the exact value stands behind them. -/
def Binary.shortest (x : Binary) (tie : Tie) : Digits :=
  if x.m = 0 then ⟨0, 0⟩
  else
    let k := x.scale
    let found? := (List.range 17).findSome? fun (n : Nat) => x.onGrid? tie (k - 1 - (n : Int))
    (found?.getD x.exact).strip 400

end Effects.Decimal
