import Effects.Json.Reader
import Effects.Setting
import Effects.Text.Blank
import Effects.Text.CodePoint
import Effects.Text.Identifier

/-!
# JSON5

JSON as people like to write it: with comments, names without quotes, texts between apostrophes,
commas behind the last element, and numbers in base sixteen. Whole numbers have at most 64 bits.
-/

namespace Effects.Json5

/-! ## Between values -/

/-- The characters that end a line. -/
def endsLine (c : Char) : Bool := c = '\n' || c = '\r' || c.toNat = 0x2028 || c.toNat = 0x2029

/-- Blanks: white space and byte order marks, but not the next line of ASCII. -/
def isBlank (c : Char) : Bool := (Text.isBlank c && c.toNat ≠ 0x85) || c = '\ufeff'

/-- The text after the end of a comment. -/
def afterComment? : List Char → Option (List Char)
  | '*' :: '/' :: rest => some rest
  | _ :: rest => afterComment? rest
  | [] => none

/-- Drops blanks and comments from the front of a text. Every round drops a character, so a budget
of the text's length is never used up. -/
def skipGap : Nat → List Char → List Char
  | 0, text => text
  | budget + 1, text =>
    match text.dropWhile isBlank with
    | '/' :: '/' :: rest => skipGap budget (rest.dropWhile fun c => !endsLine c)
    | '/' :: '*' :: rest =>
      match afterComment? rest with
      | some rest => skipGap budget rest
      | none => '/' :: '*' :: rest
    | text => text

/-- The text behind blanks and comments. -/
def next (text : List Char) : List Char := skipGap (text.length + 1) text

/-! ## Texts and names -/

/-- What stands for itself after a backslash, and the text behind it. A backslash at the end of a
line joins the line to the next one. -/
def escape? : List Char → Option (List Char × List Char)
  | [] => none
  | '\r' :: '\n' :: rest => some ([], rest)
  | 'u' :: rest => (Json.Reader.unicodeEscape? rest).map fun (c, rest) => ([c], rest)
  | 'x' :: rest => (Text.codePoint? 2 rest).map fun c => ([c], rest.drop 2)
  | c :: rest =>
    if endsLine c then some ([], rest)
    else
      match c with
      | 'b' => some (['\x08'], rest)
      | 'f' => some (['\x0c'], rest)
      | 'n' => some (['\n'], rest)
      | 'r' => some (['\r'], rest)
      | 't' => some (['\t'], rest)
      | 'v' => some (['\x0b'], rest)
      | '0' => some (['\x00'], rest)
      | c => if c.isDigit then none else some ([c], rest)

/-- The characters of a text up to the quote that closes it. Every call takes a character, so a
budget of the text's length is never used up. -/
def quoted? (quote : Char) : Nat → List Char → Option (List Char × List Char)
  | 0, _ => none
  | _, [] => none
  | budget + 1, c :: rest =>
    if c = quote then some ([], rest)
    else if c = '\\' then do
      let (escaped, rest) ← escape? rest
      let (read, rest) ← quoted? quote budget rest
      return (escaped ++ read, rest)
    else if endsLine c then none
    else (quoted? quote budget rest).map fun (read, rest) => (c :: read, rest)

/-- A text after its opening quote. -/
def string? (quote : Char) (text : List Char) : Option (String × List Char) :=
  (quoted? quote (text.length + 1) text).map fun (read, rest) => (String.ofList read, rest)

/-- The characters of a name without quotes, of which only the first is held to be one that begins a
name. A character of a name may be written by its number, and then it may be any. Every call takes a
character, so a budget of the text's length is never used up. -/
def nameChars? : Nat → Bool → List Char → Option (List Char × List Char)
  | 0, _, _ => none
  | _, _, [] => some ([], [])
  | budget + 1, begins, c :: rest =>
    if c = '\\' then
      match rest with
      | 'u' :: rest => do
        let (c, rest) ← Json.Reader.unicodeEscape? rest
        let (read, rest) ← nameChars? budget false rest
        return (c :: read, rest)
      | _ => none
    else if if begins then Text.beginsIdentifier c else Text.continuesIdentifier c then
      (nameChars? budget false rest).map fun (read, rest) => (c :: read, rest)
    else some ([], c :: rest)

/-- The name of a member, with or without quotes. -/
def name? : List Char → Option (String × List Char)
  | [] => none
  | c :: rest =>
    if c = '"' || c = '\x27' then string? c rest
    else
      match nameChars? (rest.length + 2) true (c :: rest) with
      | some (read, rest) => if read = [] then none else some (String.ofList read, rest)
      | none => none

/-! ## Numbers -/

/-- Whether the digits of a number have the right form: no superfluous zero in front, and a digit on
one side of the point at least. -/
def numeralAdmitted (n : Decimal.Numeral) : Bool :=
  (match n.whole with
    | [] => n.fraction.getD [] ≠ []
    | ['0'] => true
    | c :: _ => c ≠ '0')
  && n.exponentComplete

/-- A number behind its sign. Numbers in base sixteen have no sign and at most 32 bits, and infinity
has no plus. -/
def number? (sign : Option Char) (text : List Char) : Option (Setting × List Char) :=
  let signed (x : Float) : Setting := .float (if sign = some '-' then -x else x)
  match text with
  | 'I' :: 'n' :: 'f' :: 'i' :: 'n' :: 'i' :: 't' :: 'y' :: rest =>
    if sign = some '+' then none else some (signed (Float.ofBits 0x7FF0000000000000), rest)
  | 'N' :: 'a' :: 'N' :: rest =>
    if sign = some '+' then none else some (.float (Float.ofBits 0x7FF8000000000000), rest)
  | '0' :: 'x' :: rest | '0' :: 'X' :: rest =>
    let isDigit (c : Char) : Bool := (Decimal.digitIn? 16 c).isSome
    let digits := rest.takeWhile isDigit
    let number := Decimal.natInBase 16 digits
    if sign.isNone && digits ≠ [] && number ≤ Decimal.maxNatural32 then
      some (.integer number, rest.dropWhile isDigit)
    else none
  | text =>
    let (n, rest) := Decimal.Numeral.scan text
    let whole : Int := Decimal.natOfDigits n.whole
    let integer := if sign = some '-' then -whole else whole
    if !numeralAdmitted n then none
    else if n.fraction.isNone && n.exponent.isNone then
      if Decimal.isWord integer then some (.integer integer, rest) else none
    else if n.value.isFinite then some (signed n.value, rest)
    else none

/-! ## Values -/

mutual

/-- A value, and the text behind it. -/
def value? : Nat → List Char → Option (Setting × List Char)
  | 0, _ => none
  | budget + 1, text =>
    match next text with
    | 'n' :: 'u' :: 'l' :: 'l' :: rest => some (.nothing, rest)
    | 't' :: 'r' :: 'u' :: 'e' :: rest => some (.bool true, rest)
    | 'f' :: 'a' :: 'l' :: 's' :: 'e' :: rest => some (.bool false, rest)
    | '"' :: rest => (string? '"' rest).map fun (s, rest) => (.string s, rest)
    | '\x27' :: rest => (string? '\x27' rest).map fun (s, rest) => (.string s, rest)
    | '[' :: rest =>
      match next rest with
      | ']' :: rest => some (.array [], rest)
      | rest => (elements? budget rest).map fun (items, rest) => (.array items, rest)
    | '\x7b' :: rest =>
      match next rest with
      | '\x7d' :: rest => some (.table [], rest)
      | rest =>
        (members? budget rest).map fun (members, rest) => (.table (Fields.ofList members), rest)
    | '+' :: rest => number? (some '+') rest
    | '-' :: rest => number? (some '-') rest
    | rest => number? none rest

/-- The elements of an array up to its closing bracket. A comma may follow the last one. -/
def elements? : Nat → List Char → Option (List Setting × List Char)
  | 0, _ => none
  | budget + 1, text => do
    let (item, rest) ← value? budget text
    match next rest with
    | ',' :: rest =>
      match next rest with
      | ']' :: rest => return ([item], rest)
      | rest =>
        let (items, rest) ← elements? budget rest
        return (item :: items, rest)
    | ']' :: rest => return ([item], rest)
    | _ => none

/-- The members of an object up to its closing brace. A comma may follow the last one. -/
def members? : Nat → List Char → Option (List (String × Setting) × List Char)
  | 0, _ => none
  | budget + 1, text => do
    let (name, rest) ← name? (next text)
    match next rest with
    | ':' :: rest =>
      let (v, rest) ← value? budget rest
      match next rest with
      | ',' :: rest =>
        match next rest with
        | '\x7d' :: rest => return ([(name, v)], rest)
        | rest =>
          let (members, rest) ← members? budget rest
          return ((name, v) :: members, rest)
      | '\x7d' :: rest => return ([(name, v)], rest)
      | _ => none
    | _ => none

end

/-- The settings of the object that a text holds, with nothing but blanks and comments around it.
Every call of a reader takes a character, so a budget of twice the text's length is never used
up. -/
def parse? (text : String) : Option (Fields Setting) :=
  let chars := text.toList
  match value? (2 * chars.length + 2) chars with
  | some (.table members, rest) => if (next rest).isEmpty then some members else none
  | _ => none

end Effects.Json5
