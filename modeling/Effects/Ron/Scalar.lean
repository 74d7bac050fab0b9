import Effects.Setting
import Effects.Text.CodePoint

/-!
# Gaps, names, texts and numbers in RON

Each reader takes something from the front of a text and returns it with the rest, or fails. What
may follow is not decided here, except that a word ends where no further character could belong to
it.
-/

namespace Effects.Ron

/-! ## Gaps -/

/-- Blanks. -/
def isBlank (c : Char) : Bool := c = ' ' || c = '\t' || c = '\n' || c = '\r'

/-- The text after the comment in which it begins, where `level` further comments are open around
that one. -/
def afterComment? (level : Nat) : List Char → Option (List Char)
  | [] => none
  | '/' :: '*' :: rest => afterComment? (level + 1) rest
  | '*' :: '/' :: rest => if level = 0 then some rest else afterComment? (level - 1) rest
  | _ :: rest => afterComment? level rest

/-- Drops blanks and comments from the front of a text. A slash that begins no comment is a fault.
Every round drops a character, so a budget of the text's length is never used up. -/
def skipGap? : Nat → List Char → Option (List Char)
  | 0, _ => none
  | budget + 1, text =>
    match text.dropWhile isBlank with
    | '/' :: '/' :: rest => skipGap? budget (rest.dropWhile (· ≠ '\n'))
    | '/' :: '*' :: rest => do skipGap? budget (← afterComment? 0 rest)
    | '/' :: _ => none
    | rest => some rest

/-- The text behind blanks and comments. -/
def next? (text : List Char) : Option (List Char) := skipGap? (text.length + 1) text

/-- The text behind blanks, comments, a comma and further blanks and comments, and whether the comma
is there. -/
def comma? (text : List Char) : Option (Bool × List Char) := do
  match ← next? text with
  | ',' :: rest => return (true, ← next? rest)
  | rest => return (false, rest)

/-- The text behind some characters. -/
def after? (expected text : List Char) : Option (List Char) :=
  if expected.isPrefixOf text then some (text.drop expected.length) else none

/-! ## Names -/

/-- Whether a name can begin with a character. -/
def beginsName (c : Char) : Bool := c.isAlpha || c = '_'

/-- Whether a character can stand in a name. -/
def continuesName (c : Char) : Bool := c.isAlphanum || c = '_'

/-- Whether a character can stand in a name that is marked as raw. -/
def continuesRawName (c : Char) : Bool := continuesName c || c = '.' || c = '+' || c = '-'

/-- A name that is not marked. It must not run into characters that only a raw name may have. -/
def plainName? (text : List Char) : Option (String × List Char) :=
  match text.dropWhile continuesName with
  | c :: rest =>
    if continuesRawName c then none
    else some (String.ofList (text.takeWhile continuesName), c :: rest)
  | [] => some (String.ofList text, [])

/-- A name. The mark `r#` in front of it makes it raw, and what might begin a raw text is no name.
-/
def name? : List Char → Option (String × List Char)
  | [] => none
  | 'r' :: rest =>
    match rest with
    | [] => none
    | '"' :: _ => none
    | '#' :: rest =>
      let raw := rest.takeWhile continuesRawName
      if raw = [] then none else some (String.ofList raw, rest.dropWhile continuesRawName)
    | rest => plainName? ('r' :: rest)
  | c :: rest => if beginsName c then plainName? (c :: rest) else none

/-- The text behind a word, if the word ends there. -/
def word? (word : String) (text : List Char) : Option (List Char) := do
  let rest ← after? word.toList text
  match rest with
  | c :: _ => if continuesName c then none else some rest
  | [] => some []

/-! ## Texts -/

/-- The character that hexadecimal digits between braces name, after the opening brace, and how many
characters write it with both braces. -/
def braced? (text : List Char) : Option (Char × Nat) :=
  let count := ((text.take 6).takeWhile fun c => (Decimal.digitIn? 16 c).isSome).length
  if count ≠ 0 && text[count]? = some '\x7d' then
    (Text.codePoint? count text).map fun c => (c, count + 2)
  else none

/-- The character that stands after a backslash, and how many characters write it. -/
def escape? : List Char → Option (Char × Nat)
  | 'n' :: _ => some ('\n', 1)
  | 'r' :: _ => some ('\r', 1)
  | 't' :: _ => some ('\t', 1)
  | '0' :: _ => some ('\x00', 1)
  | 'x' :: rest => (Text.codePoint? 2 rest).map fun c => (c, 3)
  | 'u' :: '\x7b' :: rest => (braced? rest).map fun (c, used) => (c, used + 1)
  | c :: _ => if c = '\\' || c = '"' || c = '\x27' then some (c, 1) else none
  | [] => none

/-- The characters of a text up to its closing quote. -/
def quoted? : List Char → Option (List Char × List Char)
  | [] => none
  | c :: rest =>
    if c = '"' then some ([], rest)
    else if c = '\\' then
      match escape? rest with
      | some (escaped, used) =>
        (quoted? (rest.drop used)).map fun (read, rest) => (escaped :: read, rest)
      | none => none
    else (quoted? rest).map fun (read, rest) => (c :: read, rest)
termination_by text => text.length
decreasing_by all_goals simp only [List.length_drop, List.length_cons]; omega

/-- The characters up to an ending, and the text behind it. -/
def upTo? (ending : List Char) : List Char → Option (List Char × List Char)
  | [] => none
  | c :: rest =>
    match after? ending (c :: rest) with
    | some rest => some ([], rest)
    | none => (upTo? ending rest).map fun (read, rest) => (c :: read, rest)

/-- A text in quotes, or a raw text, in which only a quote and as many number signs as in front of
it have a meaning. -/
def string? : List Char → Option (String × List Char)
  | '"' :: rest => (quoted? rest).map fun (read, rest) => (String.ofList read, rest)
  | 'r' :: rest =>
    match rest.dropWhile (· = '#') with
    | '"' :: body =>
      (upTo? ('"' :: rest.takeWhile (· = '#')) body).map fun (read, rest) =>
        (String.ofList read, rest)
    | _ => none
  | _ => none

/-- A single character after its opening apostrophe. -/
def character? (text : List Char) : Option (String × List Char) := do
  let (c, used) ←
    match text with
    | [] => none
    | '\\' :: rest => (escape? rest).map fun (c, used) => (c, used + 1)
    | c :: _ => if c = '\x27' then none else some (c, 1)
  return (String.singleton c, ← after? ['\x27'] (text.drop used))

/-! ## Numbers -/

/-- Whether a character can stand in a number in decimal notation with a point or an exponent. -/
def isFloatChar (c : Char) : Bool :=
  c.isDigit || c = 'e' || c = 'E' || c = '.' || c = '+' || c = '-' || c = '_'

/-- Whether a character can stand in a whole number behind its sign and its base. -/
def isIntegerChar (c : Char) : Bool := (Decimal.digitIn? 16 c).isSome || c = '_'

/-- The base of a whole number, and the text behind the mark of that base. -/
def base : List Char → Nat × List Char
  | '0' :: 'x' :: rest => (16, rest)
  | '0' :: 'o' :: rest => (8, rest)
  | '0' :: 'b' :: rest => (2, rest)
  | rest => (10, rest)

/-- A whole number of 64 bits without sign, or with a sign one of these bits. Underscores may stand
behind the first digit. -/
def integer? (text : List Char) : Option (Setting × List Char) :=
  let hasSign := text.head? = some '+' || text.head? = some '-'
  let (b, rest) := base (if hasSign then text.drop 1 else text)
  let run := rest.takeWhile isIntegerChar
  let digits := run.filter (· ≠ '_')
  let magnitude : Int := Decimal.natInBase b digits
  let n := if text.head? = some '-' then -magnitude else magnitude
  if run.head?.isNone || run.head? = some '_'
      || digits.any (fun c => (Decimal.digitIn? b c).isNone) then none
  else if Decimal.isWord n then some (.integer n, rest.dropWhile isIntegerChar)
  else if !hasSign && n ≤ Decimal.maxNatural64 then
    some (.float (Decimal.ofInt n), rest.dropWhile isIntegerChar)
  else none

/-- The words for infinities and for no number, with the sign that may stand in front of them. -/
def floatWords : List String := ["inf", "+inf", "-inf", "NaN", "+NaN", "-NaN"]

/-- A word for a double, if it stands in front. -/
def floatWord? (text : List Char) : Option (Setting × List Char) :=
  floatWords.findSome? fun word => do
    return (.float (← Decimal.float? word), ← word? word text)

/-- A double. -/
def float? (text : List Char) : Option (Setting × List Char) :=
  match floatWord? text with
  | some read => some read
  | none =>
    let run := text.takeWhile isFloatChar
    if '_' ∈ run then none
    else (Decimal.float? (String.ofList run)).map fun x => (.float x, text.dropWhile isFloatChar)

/-- A number: a whole one if no character says otherwise and it has the form of one, or else a
double. -/
def number? (text : List Char) : Option (Setting × List Char) :=
  let unsigned :=
    match text with
    | '+' :: rest | '-' :: rest => rest
    | rest => rest
  if (unsigned.takeWhile isFloatChar).length > (unsigned.takeWhile isIntegerChar).length then
    float? text
  else
    match integer? text with
    | some read => some read
    | none => float? text

end Effects.Ron
