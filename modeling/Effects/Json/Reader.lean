import Effects.Decimal.Reading
import Effects.Json

/-!
# Reading JSON text

A recursive reader over the characters of a text. Every call consumes a character, so a budget of
the text's length is never used up; it stands in for the decrease of the remaining text.
-/

namespace Effects.Json.Reader

/-- Drops blanks from the front of a text. -/
def skipBlanks (text : List Char) : List Char :=
  text.dropWhile fun c => c = ' ' || c = '\n' || c = '\t' || c = '\r'

/-- The value of a hexadecimal digit. -/
def hexValue? (c : Char) : Option Nat := Decimal.digitIn? 16 c

/-- Four hexadecimal digits and the text after them. -/
def fourHex? : List Char → Option (Nat × List Char)
  | a :: b :: c :: d :: rest => do
    let value := 16 * (16 * (16 * (← hexValue? a) + (← hexValue? b)) + (← hexValue? c))
      + (← hexValue? d)
    return (value, rest)
  | _ => none

/-- The character after `\u`: one unit, or two that form a surrogate pair. -/
def unicodeEscape? (text : List Char) : Option (Char × List Char) := do
  let (unit, rest) ← fourHex? text
  if 0xD800 ≤ unit && unit < 0xDC00 then
    match rest with
    | '\\' :: 'u' :: more =>
      let (low, rest) ← fourHex? more
      if 0xDC00 ≤ low && low < 0xE000 then
        return (Char.ofNat (0x10000 + (unit - 0xD800) * 0x400 + (low - 0xDC00)), rest)
      else none
    | _ => none
  else if 0xDC00 ≤ unit && unit < 0xE000 then none
  else return (Char.ofNat unit, rest)

/-- The characters of a string up to its closing quote, in reverse, and the text after it. -/
def stringBody? : Nat → List Char → List Char → Option (List Char × List Char)
  | 0, _, _ => none
  | _, [], _ => none
  | budget + 1, c :: rest, read =>
    if c = '"' then some (read, rest)
    else if c = '\\' then
      match rest with
      | 'u' :: more => do
        let (char, rest) ← unicodeEscape? more
        stringBody? budget rest (char :: read)
      | e :: more =>
        match e with
        | '"' => stringBody? budget more ('"' :: read)
        | '\\' => stringBody? budget more ('\\' :: read)
        | '/' => stringBody? budget more ('/' :: read)
        | 'b' => stringBody? budget more ('\x08' :: read)
        | 'f' => stringBody? budget more ('\x0c' :: read)
        | 'n' => stringBody? budget more ('\n' :: read)
        | 'r' => stringBody? budget more ('\r' :: read)
        | 't' => stringBody? budget more ('\t' :: read)
        | _ => none
      | [] => none
    else if c.toNat < 0x20 then none
    else stringBody? budget rest (c :: read)

/-- A string after its opening quote. -/
def string? (text : List Char) : Option (String × List Char) :=
  (stringBody? (text.length + 1) text []).map fun (read, rest) => (String.ofList read.reverse, rest)

/-- Whether a numeral has the JSON form: no superfluous zero in front, digits around the point and
in the exponent. -/
def numeralAdmitted (n : Decimal.Numeral) : Bool :=
  (match n.whole with
    | [] => false
    | ['0'] => true
    | c :: _ => c ≠ '0')
  && n.fraction ≠ some [] && n.exponentComplete

/-- A number after its sign. Whole numbers outside 64 bits and `-0` are doubles; a magnitude beyond
the doubles is refused. -/
def number? (negative : Bool) (text : List Char) : Option (Json × List Char) :=
  let (n, rest) := Decimal.Numeral.scan text
  if numeralAdmitted n then
    let whole := Decimal.natOfDigits n.whole
    let isInteger := n.fraction.isNone && n.exponent.isNone
    if isInteger && !negative && whole ≤ Decimal.maxNatural64 then some (.integer whole, rest)
    else if isInteger && negative && 0 < whole && Decimal.isWord (-(whole : Int)) then
      some (.integer (-(whole : Int)), rest)
    else if n.value.isFinite then some (.float (if negative then -n.value else n.value), rest)
    else none
  else none

mutual

/-- A value, after blanks, and the text behind it. Arrays and objects are nested at most as deeply
as `nesting` says. -/
def value? : Nat → Nat → List Char → Option (Json × List Char)
  | 0, _, _ => none
  | budget + 1, nesting, text =>
    match skipBlanks text with
    | 'n' :: 'u' :: 'l' :: 'l' :: rest => some (.null, rest)
    | 't' :: 'r' :: 'u' :: 'e' :: rest => some (.bool true, rest)
    | 'f' :: 'a' :: 'l' :: 's' :: 'e' :: rest => some (.bool false, rest)
    | '"' :: rest => (string? rest).map fun (s, rest) => (.string s, rest)
    | '[' :: rest =>
      if nesting = 0 then none
      else
        match skipBlanks rest with
        | ']' :: rest => some (.array [], rest)
        | _ => (elements? budget (nesting - 1) rest).map fun (items, rest) => (.array items, rest)
    | '\x7b' :: rest =>
      if nesting = 0 then none
      else
        match skipBlanks rest with
        | '\x7d' :: rest => some (.object [], rest)
        | _ =>
          (members? budget (nesting - 1) rest).map fun (members, rest) => (ofMembers members, rest)
    | '-' :: rest => number? true rest
    | rest => number? false rest

/-- The elements of an array up to its closing bracket. -/
def elements? : Nat → Nat → List Char → Option (List Json × List Char)
  | 0, _, _ => none
  | budget + 1, nesting, text => do
    let (item, rest) ← value? budget nesting text
    match skipBlanks rest with
    | ',' :: rest =>
      let (items, rest) ← elements? budget nesting rest
      return (item :: items, rest)
    | ']' :: rest => return ([item], rest)
    | _ => none

/-- The members of an object up to its closing brace. -/
def members? : Nat → Nat → List Char → Option (List (String × Json) × List Char)
  | 0, _, _ => none
  | budget + 1, nesting, text =>
    match skipBlanks text with
    | '"' :: rest => do
      let (name, rest) ← string? rest
      match skipBlanks rest with
      | ':' :: rest =>
        let (value, rest) ← value? budget nesting rest
        match skipBlanks rest with
        | ',' :: rest =>
          let (members, rest) ← members? budget nesting rest
          return ((name, value) :: members, rest)
        | '\x7d' :: rest => return ([(name, value)], rest)
        | _ => none
      | _ => none
    | _ => none

end

end Reader

/-- The value written by a text, with nothing but blanks around it, if arrays and objects are nested
in it at most as deeply as `nesting` says. -/
def parseWithin? (nesting : Nat) (text : String) : Option Json :=
  let chars := text.toList
  match Reader.value? (2 * chars.length + 2) nesting chars with
  | some (value, rest) => if (Reader.skipBlanks rest).isEmpty then some value else none
  | none => none

/-- The value written by a text, with nothing but blanks around it. -/
def parse? (text : String) : Option Json := parseWithin? text.length text

end Effects.Json
