import Effects.Decimal.Reading

/-!
# Characters by their numbers

Notations for text let a character be written by its code point, in a fixed number of hexadecimal
digits.
-/

namespace Effects.Text

/-- The character that the hexadecimal digits in front of a text name, if there are so many. -/
def codePoint? (count : Nat) (text : List Char) : Option Char :=
  let digits := text.take count
  let code := Decimal.natInBase 16 digits
  if digits.length = count && digits.all (fun c => (Decimal.digitIn? 16 c).isSome)
      && decide code.isValidChar then
    some (Char.ofNat code)
  else none

end Effects.Text
