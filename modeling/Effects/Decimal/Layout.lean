import Effects.Decimal.Shortest

/-!
# Writing doubles

A `Layout` fixes how chosen digits are set: which exponents are written positionally, whether a
whole number keeps `.0`, and which of two equally near decimals is printed. This library has
three layouts: `jsonNumber`, `plain` and `diagnostic`.
-/

namespace Effects.Decimal

/-- How a double is written. -/
structure Layout where
  /-- The exponents `from ≤ e ≤ to` of the leading digit that are written positionally; without
  bounds all are. -/
  positional : Option (Int × Int)
  /-- Whole numbers written positionally end in `.0`. -/
  pointZero : Bool
  /-- Exponents that are not negative carry a `+`. -/
  plus : Bool
  /-- Which of two equally near shortest decimals is printed. -/
  tie : Tie
deriving Repr

/-- Numbers in JSON text: positional between `1e-5` and `1e15`, with a point; otherwise scientific
with a signed exponent. -/
def Layout.jsonNumber : Layout := ⟨some (-5, 15), true, true, .toEven⟩

/-- Numbers as plain text: never an exponent, no point on whole numbers. -/
def Layout.plain : Layout := ⟨none, false, false, .up⟩

/-- Numbers in diagnostic text: positional between `1e-4` and `1e15`, with a point; otherwise
scientific. -/
def Layout.diagnostic : Layout := ⟨some (-4, 15), true, false, .up⟩

/-- Text of repeated `'0'`. -/
def zeros (n : Nat) : String := "".pushn '0' n

/-- Writes digits positionally: the point stands after, inside or before them. -/
def Digits.positional (d : Digits) (pointZero : Bool) : String :=
  let text := toString d.digits
  if d.exp ≥ 0 then
    text ++ zeros d.exp.toNat ++ (if pointZero then ".0" else "")
  else
    let places := (-d.exp).toNat
    if text.length > places then
      String.ofList (text.toList.take (text.length - places)) ++ "."
        ++ String.ofList (text.toList.drop (text.length - places))
    else "0." ++ zeros (places - text.length) ++ text

/-- Writes digits as `d.ddde±x`, with the given exponent of the leading digit. -/
def Digits.scientific (d : Digits) (e : Int) (plus : Bool) : String :=
  let text := (toString d.digits).toList
  let mantissa := String.ofList (text.take 1)
    ++ (if text.length > 1 then "." ++ String.ofList (text.drop 1) else "")
  mantissa ++ "e" ++ (if e < 0 then "-" else if plus then "+" else "") ++ toString e.natAbs

/-- The text of the magnitude of a finite double. -/
def Layout.magnitude (l : Layout) (x : Binary) : String :=
  let d := x.shortest l.tie
  let e := d.exp + ((toString d.digits).length : Int) - 1
  match l.positional with
  | none => d.positional l.pointZero
  | some (low, high) =>
    if low ≤ e && e ≤ high then d.positional l.pointZero else d.scientific e l.plus

/-- The text of a finite double. The sign of `-0` is written. -/
def Layout.finite (l : Layout) (x : Float) : String :=
  (if isNegative x then "-" else "") ++ l.magnitude (.ofFloat x)

/-- The text of any double: `NaN`, `inf` and `-inf` are the values without digits. -/
def Layout.write (l : Layout) (x : Float) : String :=
  if x.isNaN then "NaN"
  else if x.isInf then (if isNegative x then "-inf" else "inf")
  else l.finite x

end Effects.Decimal
