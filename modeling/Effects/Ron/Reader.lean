import Effects.Ron.Scalar

/-!
# Reading RON

A text holds one value, in front of which it may ask for extensions of the notation. Structures and
maps are tables, tuples and lists are arrays, and a name that stands alone, an empty pair of
parentheses and an absent optional value are nothing. Values are nested up to a limit.
-/

namespace Effects.Ron

/-! ## Extensions -/

/-- What a text asks for besides the plain notation. -/
structure Extensions where
  /-- The parentheses of an optional value may be left out. -/
  implicitSome : Bool := false
  /-- The parentheses of an optional value are those of the structure in it. -/
  unwrapVariants : Bool := false
deriving DecidableEq, Repr

/-- Adds the extension of some name. That the parentheses of a wrapping structure may be left out
makes no difference to settings. -/
def Extensions.add? (e : Extensions) (name : String) : Option Extensions :=
  match name with
  | "unwrap_newtypes" => some e
  | "implicit_some" => some { e with implicitSome := true }
  | "unwrap_variant_newtypes" => some { e with unwrapVariants := true }
  | _ => none

/-- The names of extensions, with commas between them. Every name takes a character, so a budget of
the text's length is never used up. -/
def extensionNames? : Nat → Extensions → List Char → Option (Extensions × List Char)
  | 0, _, _ => none
  | budget + 1, e, text => do
    let (name, rest) ← name? text
    let e ← e.add? name
    let (separated, rest) ← comma? rest
    let hasNext := (rest.head?.map continuesName).getD false
    if separated && hasNext then extensionNames? budget e rest
    else if hasNext then none
    else return (e, rest)

/-- The text behind some words, with gaps between and behind them. -/
def words? : List String → List Char → Option (List Char)
  | [], text => some text
  | word :: words, text => do words? words (← next? (← after? word.toList text))

/-- The extensions that are asked for in front of the value. Every attribute takes a character, so a
budget of the text's length is never used up. -/
def attributes? : Nat → Extensions → List Char → Option (Extensions × List Char)
  | 0, _, _ => none
  | budget + 1, e, text =>
    match text with
    | '#' :: _ => do
      let names ← words? ["#", "!", "[", "enable", "("] text
      let (e, rest) ← extensionNames? (names.length + 1) e names
      attributes? budget e (← words? [")", "]"] rest)
    | _ => some (e, text)

/-! ## Values -/

/-- How deeply values may be nested. A list counts once and its elements once more. -/
def maxNesting : Nat := 128

/-- Whether the parentheses that open in front of a text belong to a tuple: no name with a colon
behind it comes first. -/
def isTuple? (text : List Char) : Option Bool :=
  match name? text with
  | none => some true
  | some (_, rest) => do return (← (← next? rest).head?) ≠ ':'

/-- The key of an entry of a map. -/
inductive Key where
  | character (c : String)
  | string (s : String)
deriving DecidableEq, Repr

/-- The key in front of a text. -/
def Key.read? : List Char → Option (Key × List Char)
  | '\x27' :: rest => (character? rest).map fun (c, rest) => (.character c, rest)
  | text => (string? text).map fun (s, rest) => (.string s, rest)

/-- The members of a map. A text as a key goes before a character, and otherwise the later of two
entries counts. -/
def membersOfMap (entries : List (Key × Setting)) : Fields Setting :=
  let characters := entries.filterMap fun
    | (.character c, v) => some (c, v)
    | _ => none
  let texts := entries.filterMap fun
    | (.string s, v) => some (s, v)
    | _ => none
  Fields.ofList (characters ++ texts)

mutual

/-- A value, and the text behind it, where `nesting` further levels are admitted. -/
def value? (e : Extensions) : Nat → Nat → List Char → Option (Setting × List Char)
  | 0, _, _ => none
  | budget + 1, nesting, text =>
    match word? "true" text, word? "false" text, word? "Some" text, word? "None" text with
    | some rest, _, _, _ => some (.bool true, rest)
    | _, some rest, _, _ => some (.bool false, rest)
    | _, _, some rest, _ =>
      if nesting = 0 then none
      else do
        match ← next? rest with
        | '(' :: rest =>
          let rest ← next? rest
          let (v, rest) ←
            if e.unwrapVariants then inParentheses? e budget (nesting - 1) rest
            else value? e budget (nesting - 1) rest
          let (_, rest) ← comma? rest
          return (v, ← after? [')'] rest)
        | rest => if e.implicitSome then value? e budget (nesting - 1) rest else none
    | _, _, _, some rest => some (.nothing, rest)
    | none, none, none, none =>
      match after? ['(', ')'] text, floatWord? text, name? text with
      | some rest, _, _ => some (.nothing, rest)
      | _, some read, _ => some read
      | _, _, some (_, rest) => do
        match ← next? rest with
        | '(' :: rest => parenthesized? e budget nesting rest
        | rest => return (.nothing, rest)
      | none, none, none =>
        match text with
        | '(' :: rest => parenthesized? e budget nesting rest
        | '[' :: rest =>
          if nesting = 0 then none
          else do
            let (items, rest) ← elements? e budget (nesting - 1) ']' true rest
            return (.array items, rest.drop 1)
        | '\x7b' :: rest =>
          if nesting = 0 then none
          else do
            let (entries, rest) ← entries? e budget (nesting - 1) true rest
            return (.table (membersOfMap entries), rest.drop 1)
        | '\x27' :: rest => (character? rest).map fun (c, rest) => (.string c, rest)
        | c :: _ =>
          if c.isDigit || c = '+' || c = '-' then number? text
          else if c = '.' then float? text
          else (string? text).map fun (s, rest) => (.string s, rest)
        | [] => none

/-- A structure or a tuple after its opening parenthesis. -/
def parenthesized? (e : Extensions) : Nat → Nat → List Char → Option (Setting × List Char)
  | 0, _, _ => none
  | budget + 1, nesting, text => do
    let (v, rest) ← inParentheses? e budget nesting (← next? text)
    return (v, rest.drop 1)

/-- What stands between parentheses, and the text from the closing one on. -/
def inParentheses? (e : Extensions) : Nat → Nat → List Char → Option (Setting × List Char)
  | 0, _, _ => none
  | budget + 1, nesting, text =>
    if nesting = 0 then none
    else do
      if ← isTuple? text then
        let (items, rest) ← elements? e budget (nesting - 1) ')' true text
        return (.array items, rest)
      else
        let (members, rest) ← members? e budget (nesting - 1) true text
        return (.table (Fields.ofList members), rest)

/-- The elements in front of a closing character, and the text from that character on. Another
element is there only if a comma is there, or nothing yet, as `separated` says. -/
def elements? (e : Extensions) :
    Nat → Nat → Char → Bool → List Char → Option (List Setting × List Char)
  | 0, _, _, _, _ => none
  | budget + 1, nesting, closing, separated, text => do
    let text ← next? text
    if (← text.head?) = closing then return ([], text)
    else if !separated || nesting = 0 then none
    else
      let (item, rest) ← value? e budget (nesting - 1) text
      let (separated, rest) ← comma? rest
      let (items, rest) ← elements? e budget nesting closing separated rest
      return (item :: items, rest)

/-- The members of a structure in front of its closing parenthesis. -/
def members? (e : Extensions) :
    Nat → Nat → Bool → List Char → Option (List (String × Setting) × List Char)
  | 0, _, _, _ => none
  | budget + 1, nesting, separated, text => do
    let text ← next? text
    if (← text.head?) = ')' then return ([], text)
    else if !separated || nesting = 0 then none
    else
      let (name, rest) ← name? text
      let rest ← next? (← after? [':'] (← next? rest))
      let (v, rest) ← value? e budget (nesting - 1) rest
      let (separated, rest) ← comma? rest
      let (members, rest) ← members? e budget nesting separated rest
      return ((name, v) :: members, rest)

/-- The entries of a map in front of its closing brace. -/
def entries? (e : Extensions) :
    Nat → Nat → Bool → List Char → Option (List (Key × Setting) × List Char)
  | 0, _, _, _ => none
  | budget + 1, nesting, separated, text => do
    let text ← next? text
    if (← text.head?) = '\x7d' then return ([], text)
    else if !separated || nesting = 0 then none
    else
      let (key, rest) ← Key.read? text
      let rest ← next? (← after? [':'] (← next? rest))
      let (v, rest) ← value? e budget (nesting - 1) rest
      let (separated, rest) ← comma? rest
      let (entries, rest) ← entries? e budget nesting separated rest
      return ((key, v) :: entries, rest)

end

/-- The settings of the structure or map that a text holds, with nothing but blanks and comments
around it. No more than four calls of a reader follow each other without taking a character, so a
budget of four times the text's length is never used up. -/
def parse? (text : String) : Option (Fields Setting) := do
  let text ← next? text.toList
  let (e, text) ← attributes? (text.length + 1) {} text
  match ← value? e (4 * text.length + 4) maxNesting text with
  | (.table members, rest) => if (← next? rest).isEmpty then return members else none
  | _ => none

end Effects.Ron
