import Effects.Decimal.Binary

/-!
# Reading numbers from text

A `Numeral` is the shape that all numeric grammars of this library share: digits, perhaps a point
and more digits, perhaps an exponent. Each grammar says which numerals it admits; their value is the
nearest double, computed from the digits exactly. `float?` reads the loose grammar used for
configuration values and command-line arguments.
-/

namespace Effects.Decimal

/-- The value of a decimal digit. -/
def digitValue (c : Char) : Nat := c.toNat - '0'.toNat

/-- The value of a digit of a base up to sixteen; letters may have either case. -/
def digitIn? (base : Nat) (c : Char) : Option Nat :=
  let value? : Option Nat :=
    if c.isDigit then some (digitValue c)
    else if 'a' ≤ c && c ≤ 'f' then some (c.toNat - 'a'.toNat + 10)
    else if 'A' ≤ c && c ≤ 'F' then some (c.toNat - 'A'.toNat + 10)
    else none
  value?.filter fun value => value < base

/-- The natural number written by digits of a base; other characters count as zero. -/
def natInBase (base : Nat) (digits : List Char) : Nat :=
  digits.foldl (fun n c => base * n + (digitIn? base c).getD 0) 0

/-- The natural number written by decimal digits. -/
def natOfDigits (digits : List Char) : Nat :=
  digits.foldl (fun n c => 10 * n + digitValue c) 0

/-- The largest natural number of 64 bits. -/
def maxNatural64 : Nat := 18446744073709551615

/-- The largest natural number of 32 bits. -/
def maxNatural32 : Nat := 4294967295

/-- Whether a whole number takes no more than 64 bits, one of them for the sign. -/
def isWord (n : Int) : Bool := -9223372036854775808 ≤ n && n ≤ 9223372036854775807

/-- The double nearest to `mantissa · 10^exp`. Magnitudes far outside the range of doubles are
decided before any power is computed. -/
def nearest (mantissa : Nat) (exp : Int) : Float :=
  if mantissa = 0 then 0
  else
    let top := exp + ((toString mantissa).length : Int)
    if top > 310 then Float.ofBits 0x7FF0000000000000
    else if top < -330 then 0
    else if exp ≥ 0 then Float.ofScientific mantissa false exp.toNat
    else Float.ofScientific mantissa true (-exp).toNat

/-- Digits, perhaps a point and more digits, perhaps an exponent. -/
structure Numeral where
  /-- The digits before the point. -/
  whole : List Char
  /-- The digits after the point, if there is a point. -/
  fraction : Option (List Char)
  /-- Whether the exponent is negative, and its digits, if there is an exponent. -/
  exponent : Option (Bool × List Char)

/-- Takes the longest numeral from the front of a text; any of its parts may be empty. -/
def Numeral.scan (text : List Char) : Numeral × List Char :=
  let whole := text.takeWhile Char.isDigit
  let rest := text.dropWhile Char.isDigit
  let (fraction, rest) : Option (List Char) × List Char :=
    match rest with
    | '.' :: more => (some (more.takeWhile Char.isDigit), more.dropWhile Char.isDigit)
    | other => (none, other)
  match rest with
  | c :: more =>
    if c = 'e' || c = 'E' then
      let (negative, digits) : Bool × List Char :=
        match more with
        | '-' :: digits => (true, digits)
        | '+' :: digits => (false, digits)
        | digits => (false, digits)
      (⟨whole, fraction, some (negative, digits.takeWhile Char.isDigit)⟩,
        digits.dropWhile Char.isDigit)
    else (⟨whole, fraction, none⟩, c :: more)
  | [] => (⟨whole, fraction, none⟩, [])

/-- The double nearest to the value of a numeral. -/
def Numeral.value (n : Numeral) : Float :=
  let fraction := n.fraction.getD []
  let exponent : Int :=
    match n.exponent with
    | none => 0
    | some (negative, digits) =>
      if negative then -(natOfDigits digits : Int) else natOfDigits digits
  nearest (natOfDigits (n.whole ++ fraction)) (exponent - fraction.length)

/-- An exponent, where there is one, has digits. -/
def Numeral.exponentComplete (n : Numeral) : Bool :=
  match n.exponent with
  | some (_, []) => false
  | _ => true

/-- Splits a leading sign off a text: whether it is negative, and the rest. -/
def splitSign : List Char → Bool × List Char
  | '-' :: rest => (true, rest)
  | '+' :: rest => (false, rest)
  | rest => (false, rest)

/-- The magnitude written by a text without sign: `inf`, `infinity` and `nan` in any case, or a
numeral with at least one digit, of which the point may stand at either end. -/
def magnitude? (text : List Char) : Option Float :=
  let lower := String.ofList (text.map Char.toLower)
  if lower = "inf" || lower = "infinity" then some (Float.ofBits 0x7FF0000000000000)
  else if lower = "nan" then some (Float.ofBits 0x7FF8000000000000)
  else
    match Numeral.scan text with
    | (n, []) =>
      if n.whole ++ n.fraction.getD [] ≠ [] && n.exponentComplete then some n.value else none
    | _ => none

/-- The double written by a text: a magnitude, perhaps with a sign, and nothing around it. -/
def float? (text : String) : Option Float :=
  let (negative, rest) := splitSign text.toList
  (magnitude? rest).map fun x => if negative then -x else x

/-- The whole number written by a text: digits, perhaps with a sign, and nothing around them. -/
def int? (text : String) : Option Int :=
  let (negative, digits) := splitSign text.toList
  if digits ≠ [] && digits.all Char.isDigit then
    some (if negative then -(natOfDigits digits : Int) else natOfDigits digits)
  else none

end Effects.Decimal
