/-!
# White space

The characters that count as white space in text written by people: the blanks of ASCII, the next
line, and the spaces and separators of other scripts.
-/

namespace Effects.Text

/-- White space. -/
def isBlank (c : Char) : Bool :=
  c = ' ' || (0x9 ≤ c.toNat && c.toNat ≤ 0xD) || c.toNat = 0x85 || c.toNat = 0xA0
    || c.toNat = 0x1680 || (0x2000 ≤ c.toNat && c.toNat ≤ 0x200A)
    || c.toNat = 0x2028 || c.toNat = 0x2029 || c.toNat = 0x202F || c.toNat = 0x205F
    || c.toNat = 0x3000

/-- Drops white space from the front of a text. -/
def trimStart (text : List Char) : List Char := text.dropWhile isBlank

/-- Drops white space from the end of a text. -/
def trimEnd (text : List Char) : List Char := (trimStart text.reverse).reverse

end Effects.Text
