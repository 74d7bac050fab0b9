import Effects.Text.CodePoint

/-!
# Texts, numbers and dates in TOML

Each reader takes a value from the front of a text and returns it with the rest, or fails. What may
follow a value is not decided here.
-/

namespace Effects.Toml

/-! ## Characters -/

/-- Blanks within a line. -/
def isBlank (c : Char) : Bool := c = ' ' || c = '\t'

/-- Drops blanks from the front of a text. -/
def skipBlanks (text : List Char) : List Char := text.dropWhile isBlank

/-- The text after the end of a line. -/
def lineEnd? : List Char → Option (List Char)
  | '\n' :: rest => some rest
  | '\r' :: '\n' :: rest => some rest
  | _ => none

/-- Drops blanks and line ends from the front of a text. -/
def skipLines : List Char → List Char
  | '\r' :: '\n' :: rest => skipLines rest
  | c :: rest => if isBlank c || c = '\n' then skipLines rest else c :: rest
  | [] => []

/-- Characters that stand for themselves: all but the control characters, of which only the tab is
admitted. -/
def isPrintable (c : Char) : Bool := c = '\t' || (0x20 ≤ c.toNat && c.toNat ≠ 0x7F)

theorem length_skipBlanks_le (text : List Char) : (skipBlanks text).length ≤ text.length :=
  (List.dropWhile_suffix _).length_le

theorem length_lineEnd?_lt {text rest : List Char} (h : lineEnd? text = some rest) :
    rest.length < text.length := by
  unfold lineEnd? at h
  split at h
  · simp_all
  · obtain rfl := by simpa using h
    simp only [List.length_cons]
    omega
  · simp at h

theorem length_skipLines_le (text : List Char) : (skipLines text).length ≤ text.length := by
  fun_induction skipLines text with
  | case1 rest ih => simp; omega
  | case2 c rest _ _ ih => simp; omega
  | case3 => simp
  | case4 => simp

/-! ## Texts -/

/-- The apostrophe, which delimits literal texts. -/
def apostrophe : Char := '\x27'

/-- The character that stands after a backslash, and how many characters write it. -/
def escape? : List Char → Option (Char × Nat)
  | 'b' :: _ => some ('\x08', 1)
  | 't' :: _ => some ('\t', 1)
  | 'n' :: _ => some ('\n', 1)
  | 'f' :: _ => some ('\x0c', 1)
  | 'r' :: _ => some ('\r', 1)
  | '"' :: _ => some ('"', 1)
  | '\\' :: _ => some ('\\', 1)
  | 'u' :: rest => (Text.codePoint? 4 rest).map fun c => (c, 5)
  | 'U' :: rest => (Text.codePoint? 8 rest).map fun c => (c, 9)
  | _ => none

/-- Puts a character in front of a text that has been read. -/
def prepend (c : Char) (read : Option (List Char × List Char)) : Option (List Char × List Char) :=
  read.map fun (text, rest) => (c :: text, rest)

/-- A quoted text on one line, after its opening quote. -/
def quoted? : List Char → Option (List Char × List Char)
  | [] => none
  | c :: rest =>
    if c = '"' then some ([], rest)
    else if c = '\\' then
      match escape? rest with
      | some (escaped, used) => prepend escaped (quoted? (rest.drop used))
      | none => none
    else if isPrintable c then prepend c (quoted? rest)
    else none
termination_by text => text.length
decreasing_by all_goals simp only [List.length_drop, List.length_cons]; omega

/-- A literal text on one line, after its opening apostrophe. -/
def literal? : List Char → Option (List Char × List Char)
  | [] => none
  | c :: rest =>
    if c = apostrophe then some ([], rest)
    else if isPrintable c then prepend c (literal? rest)
    else none

/-- The end of a text over several lines, after three delimiters: up to two more still belong to the
text. -/
def closing (delimiter : Char) (text : List Char) : List Char × List Char :=
  let extra := (text.take 2).takeWhile (· = delimiter)
  (extra, text.drop extra.length)

/-- Whether a text starts with three delimiters. -/
def closes (delimiter : Char) (text : List Char) : Bool :=
  text.take 3 = [delimiter, delimiter, delimiter]

/-- A quoted text over several lines, after its opening quotes. A backslash at the end of a line
joins the line to the next character that is not blank. -/
def quotedLines? : List Char → Option (List Char × List Char)
  | [] => none
  | c :: rest =>
    if closes '"' (c :: rest) then some (closing '"' (rest.drop 2))
    else if c = '\\' then
      match _joined : lineEnd? (skipBlanks rest) with
      | some next => quotedLines? (skipLines next)
      | none =>
        match escape? rest with
        | some (escaped, used) => prepend escaped (quotedLines? (rest.drop used))
        | none => none
    else
      match _ended : lineEnd? (c :: rest) with
      | some next => prepend '\n' (quotedLines? next)
      | none => if isPrintable c then prepend c (quotedLines? rest) else none
termination_by text => text.length
decreasing_by
  · have := length_lineEnd?_lt _joined
    have := length_skipBlanks_le rest
    have := length_skipLines_le next
    simp only [List.length_cons]
    omega
  · simp only [List.length_drop, List.length_cons]
    omega
  · exact length_lineEnd?_lt _ended
  · simp

/-- A literal text over several lines, after its opening apostrophes. -/
def literalLines? : List Char → Option (List Char × List Char)
  | [] => none
  | c :: rest =>
    if closes apostrophe (c :: rest) then some (closing apostrophe (rest.drop 2))
    else
      match _ended : lineEnd? (c :: rest) with
      | some next => prepend '\n' (literalLines? next)
      | none => if isPrintable c then prepend c (literalLines? rest) else none
termination_by text => text.length
decreasing_by
  · exact length_lineEnd?_lt _ended
  · simp

/-- A line end directly after the opening delimiter of a text over several lines is dropped. -/
def skipFirstLineEnd (text : List Char) : List Char := (lineEnd? text).getD text

/-- A text of any form. -/
def text? (text : List Char) : Option (String × List Char) :=
  let read :=
    if closes '"' text then quotedLines? (skipFirstLineEnd (text.drop 3))
    else if closes apostrophe text then literalLines? (skipFirstLineEnd (text.drop 3))
    else
      match text with
      | c :: rest =>
        if c = '"' then quoted? rest else if c = apostrophe then literal? rest else none
      | [] => none
  read.map fun (read, rest) => (String.ofList read, rest)

/-! ## Numbers -/

/-- Digits, with single underscores between them, from the front of a text. -/
def digitRun (isDigit : Char → Bool) : List Char → List Char × List Char
  | '_' :: c :: rest =>
    if isDigit c then
      let (digits, rest) := digitRun isDigit rest
      (c :: digits, rest)
    else ([], '_' :: c :: rest)
  | c :: rest =>
    if isDigit c then
      let (digits, rest) := digitRun isDigit rest
      (c :: digits, rest)
    else ([], c :: rest)
  | [] => ([], [])

/-- At least one digit, with single underscores between digits. -/
def digits? (isDigit : Char → Bool) (text : List Char) : Option (List Char × List Char) :=
  match text with
  | c :: _ => if isDigit c then some (digitRun isDigit text) else none
  | [] => none

/-- The digits of a decimal number: a zero, or digits that do not start with a zero. -/
def whole? : List Char → Option (List Char × List Char)
  | '0' :: rest => some (['0'], rest)
  | text => digits? Char.isDigit text

/-- A whole number that fits into 64 bits. -/
def fitting? (n : Int) (rest : List Char) : Option (Int × List Char) :=
  if Decimal.isWord n then some (n, rest) else none

/-- The digits of a number in a base. -/
def inBase? (base : Nat) (text : List Char) : Option (Int × List Char) := do
  let (digits, rest) ← digits? (fun c => (Decimal.digitIn? base c).isSome) text
  fitting? (Decimal.natInBase base digits) rest

/-- A whole number: decimal with a sign, or in base sixteen, eight or two without. -/
def integer? : List Char → Option (Int × List Char)
  | '0' :: 'x' :: rest => inBase? 16 rest
  | '0' :: 'o' :: rest => inBase? 8 rest
  | '0' :: 'b' :: rest => inBase? 2 rest
  | text => do
    let (negative, text) := Decimal.splitSign text
    let (digits, rest) ← whole? text
    let magnitude : Int := Decimal.natOfDigits digits
    fitting? (if negative then -magnitude else magnitude) rest

/-- A point and the digits after it, if there is a point. -/
def fraction? : List Char → Option (Option (List Char) × List Char)
  | '.' :: rest => (digits? Char.isDigit rest).map fun (digits, rest) => (some digits, rest)
  | rest => some (none, rest)

/-- An exponent, if there is one. -/
def exponent? : List Char → Option (Option (Bool × List Char) × List Char)
  | c :: rest =>
    if c = 'e' || c = 'E' then
      let (negative, rest) := Decimal.splitSign rest
      (digits? Char.isDigit rest).map fun (digits, rest) => (some (negative, digits), rest)
    else some (none, c :: rest)
  | [] => some (none, [])

/-- The magnitude of a double: digits with a point or an exponent, or one of `inf` and `nan`. -/
def magnitude? : List Char → Option (Float × List Char)
  | 'i' :: 'n' :: 'f' :: rest => some (Float.ofBits 0x7FF0000000000000, rest)
  | 'n' :: 'a' :: 'n' :: rest => some (Float.ofBits 0x7FF8000000000000, rest)
  | text => do
    let (whole, text) ← whole? text
    let (fraction, text) ← fraction? text
    let (exponent, rest) ← exponent? text
    if fraction.isNone && exponent.isNone then none
    else return (Decimal.Numeral.value ⟨whole, fraction, exponent⟩, rest)

/-- Whether a number is spelled with digits. -/
def startsWithDigit : List Char → Bool
  | c :: _ => c.isDigit
  | [] => false

/-- A double with a sign. Digits beyond the largest double are refused. -/
def float? (text : List Char) : Option (Float × List Char) := do
  let (negative, text) := Decimal.splitSign text
  let (x, rest) ← magnitude? text
  if negative then return (-x, rest)
  else if startsWithDigit text && x.isInf then none
  else return (x, rest)

/-! ## Dates and times -/

/-- A number of exactly `count` digits between two bounds. -/
def field? (count low high : Nat) (text : List Char) : Option (Nat × List Char) :=
  let digits := text.take count
  let n := Decimal.natOfDigits digits
  if digits.length = count && digits.all Char.isDigit && low ≤ n && n ≤ high then
    some (n, text.drop count)
  else none

/-- The text after an expected character. -/
def expect? (c : Char) : List Char → Option (List Char)
  | d :: rest => if d = c then some rest else none
  | [] => none

/-- Digits with zeros in front. -/
def padded (width n : Nat) : String :=
  let digits := toString n
  "".pushn '0' (width - digits.length) ++ digits

/-- The days of a month. -/
def daysOf (year month : Nat) : Nat :=
  if month = 2 then
    if year % 4 = 0 && (year % 100 ≠ 0 || year % 400 = 0) then 29 else 28
  else if month ∈ [4, 6, 9, 11] then 30
  else 31

/-- A date, written out again. -/
def date? (text : List Char) : Option (String × List Char) := do
  let (year, text) ← field? 4 0 9999 text
  let (month, text) ← field? 2 1 12 (← expect? '-' text)
  let (day, rest) ← field? 2 1 (daysOf year month) (← expect? '-' text)
  return (padded 4 year ++ "-" ++ padded 2 month ++ "-" ++ padded 2 day, rest)

/-- The fraction of a second: nine digits count, and zeros at the end are dropped. -/
def secondFraction (digits : List Char) : String :=
  let significant := ((digits.take 9).reverse.dropWhile (· = '0')).reverse
  if significant = [] then "" else "." ++ String.ofList significant

/-- The fraction of a second, if there is one. -/
def secondFraction? : List Char → Option (String × List Char)
  | '.' :: rest =>
    let digits := rest.takeWhile Char.isDigit
    if digits = [] then none else some (secondFraction digits, rest.dropWhile Char.isDigit)
  | rest => some ("", rest)

/-- A time of day with hours up to `lastHour`, written out again. -/
def timeUpTo? (lastHour : Nat) (text : List Char) : Option (String × List Char) := do
  let (hour, text) ← field? 2 0 lastHour text
  let (minute, text) ← field? 2 0 59 (← expect? ':' text)
  let (second, text) ← field? 2 0 60 (← expect? ':' text)
  let (fraction, rest) ← secondFraction? text
  return (padded 2 hour ++ ":" ++ padded 2 minute ++ ":" ++ padded 2 second ++ fraction, rest)

/-- A time of day, written out again. -/
def time? (text : List Char) : Option (String × List Char) := timeUpTo? 23 text

/-- The distance from universal time. -/
def offset? : List Char → Option (String × List Char)
  | [] => none
  | c :: text =>
    if c = 'Z' || c = 'z' then some ("Z", text)
    else if c = '+' || c = '-' then do
      let (hours, text) ← field? 2 0 23 text
      let (minutes, rest) ← field? 2 0 59 (← expect? ':' text)
      let sign := if c = '-' && (0 < hours || 0 < minutes) then "-" else "+"
      return (sign ++ padded 2 hours ++ ":" ++ padded 2 minutes, rest)
    else none

/-- The time after a date, with its offset if there is one. -/
def timeAfterDate? : List Char → Option (String × List Char)
  | [] => none
  | c :: text =>
    if c = 'T' || c = 't' || c = ' ' then do
      let (time, rest) ← time? text
      match offset? rest with
      | some (offset, rest) => return ("T" ++ time ++ offset, rest)
      | none => return ("T" ++ time, rest)
    else none

/-- A date, a time of day or both, written out again. -/
def dateTime? (text : List Char) : Option (String × List Char) :=
  match date? text with
  | some (date, rest) =>
    match timeAfterDate? rest with
    | some (time, rest) => some (date ++ time, rest)
    | none => some (date, rest)
  | none => time? text

/-! ### Dates and times that are texts -/

/-- The distance from universal time at the end of a text, if it stands there. It is no more than a
day; minutes beyond an hour count into the hours. -/
def finalOffset? : List Char → Option String
  | [] => some ""
  | c :: text =>
    if c = 'Z' || c = 'z' then if text = [] then some "Z" else none
    else if c = '+' || c = '-' then do
      let (hours, text) ← field? 2 0 99 text
      let (minutes, text) ← field? 2 0 99 (← expect? ':' text)
      let total := 60 * hours + minutes
      let sign := if c = '-' && 0 < total then "-" else "+"
      if text = [] && total ≤ 24 * 60 then
        return sign ++ padded 2 (total / 60) ++ ":" ++ padded 2 (total % 60)
      else none
    else none

/-- The time after a date at the end of a text, if it stands there. -/
def finalTime? : List Char → Option String
  | [] => some ""
  | c :: text =>
    if c = 'T' || c = 't' || c = ' ' then do
      let (time, rest) ← timeUpTo? 24 text
      return "T" ++ time ++ (← finalOffset? rest)
    else none

/-- A date, a time of day or both that make up a text, written out again. Here a day may have a
twenty-fifth hour, numbered from zero. -/
def dateTimeOfText? (text : String) : Option String := do
  let text := text.toList
  if text[2]? = some ':' then
    let (time, rest) ← timeUpTo? 24 text
    if rest = [] then return time else none
  else
    let (date, rest) ← date? text
    return date ++ (← finalTime? rest)

end Effects.Toml
