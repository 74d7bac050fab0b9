import Effects.Toml.Document
import Effects.Toml.Scalar

/-!
# Reading TOML

`Toml.parse?` reads a text line by line into a document and returns its settings. Every call of a
reader below consumes a character, so a budget of the text's length is never used up; it stands in
for the decrease of the remaining text.
-/

namespace Effects.Toml

/-- How deeply arrays and tables may be nested, and how many names a key may have. -/
def maxNesting : Nat := 80

/-! ## Keys -/

/-- The characters of names that need no quotes. -/
def isNameChar (c : Char) : Bool := c.isAlphanum || c = '-' || c = '_'

/-- One name of a key: quoted, literal or bare. -/
def name? : List Char → Option (String × List Char)
  | [] => none
  | c :: rest =>
    if c = '"' then (quoted? rest).map fun (name, rest) => (String.ofList name, rest)
    else if c = apostrophe then (literal? rest).map fun (name, rest) => (String.ofList name, rest)
    else if isNameChar c then
      some (String.ofList (c :: rest.takeWhile isNameChar), rest.dropWhile isNameChar)
    else none

/-- The names of a key, with points between them and blanks around them. -/
def names? : Nat → List Char → Option (List String × List Char)
  | 0, _ => none
  | budget + 1, text => do
    let (name, rest) ← name? (skipBlanks text)
    match skipBlanks rest with
    | '.' :: rest =>
      let (names, rest) ← names? budget rest
      return (name :: names, rest)
    | rest => return ([name], rest)

/-- A key: the names that lead to it, and its own. -/
def key? (text : List Char) : Option ((List String × String) × List Char) := do
  let (names, rest) ← names? (text.length + 1) text
  if names.length < maxNesting then return ((names.dropLast, ← names.getLast?), rest)
  else none

/-! ## Values -/

/-- Drops a comment from the front of a text, if there is one. -/
def skipComment : List Char → List Char
  | '#' :: rest => rest.dropWhile isPrintable
  | text => text

/-- Drops blanks, line ends and whole comments, as they may stand between the elements of an array.
Each round drops a line end, so a budget of the text's length is never used up. -/
def skipGap : Nat → List Char → List Char
  | 0, text => text
  | budget + 1, text =>
    let text := skipBlanks text
    match lineEnd? (skipComment text) with
    | some rest => skipGap budget rest
    | none => text

mutual

/-- A value at the given depth of nesting. -/
def value? : Nat → Nat → List Char → Option (Entry × List Char)
  | 0, _, _ => none
  | budget + 1, depth, text =>
    match text with
    | [] => none
    | c :: rest =>
      if c = '[' then
        if depth + 1 < maxNesting then
          (elements? budget (depth + 1) rest).map fun (items, rest) => (.array items, rest)
        else none
      else if c = '\x7b' then
        if depth + 1 < maxNesting then
          match skipBlanks rest with
          | '\x7d' :: rest => some (.table .inline [], rest)
          | rest =>
            (pairs? budget (depth + 1) rest []).map fun (entries, rest) =>
              (.table .inline entries, rest)
        else none
      else if c = '"' || c = apostrophe then
        (text? text).map fun (s, rest) => (.single (.string s), rest)
      else if c = 't' then
        if rest.take 3 = ['r', 'u', 'e'] then some (.single (.bool true), rest.drop 3) else none
      else if c = 'f' then
        if rest.take 4 = ['a', 'l', 's', 'e'] then some (.single (.bool false), rest.drop 4)
        else none
      else
        match dateTime? text with
        | some (s, rest) => some (.dateTime s, rest)
        | none =>
          match float? text with
          | some (x, rest) => some (.single (.float x), rest)
          | none => (integer? text).map fun (n, rest) => (.single (.integer n), rest)

/-- The elements of an array up to its closing bracket. A comma may follow the last one. -/
def elements? : Nat → Nat → List Char → Option (List Entry × List Char)
  | 0, _, _ => none
  | budget + 1, depth, text =>
    match skipGap text.length text with
    | ']' :: rest => some ([], rest)
    | text => do
      let (item, rest) ← value? budget depth text
      match skipGap rest.length rest with
      | ',' :: rest =>
        let (items, rest) ← elements? budget depth rest
        return (item :: items, rest)
      | ']' :: rest => return ([item], rest)
      | _ => none

/-- The pairs of a table that is written as a value, up to its closing brace, added to `entries`. No
comma follows the last one. -/
def pairs? : Nat → Nat → List Char → Entries → Option (Entries × List Char)
  | 0, _, _, _ => none
  | budget + 1, depth, text, entries => do
    let ((path, key), rest) ← key? text
    let (v, rest) ← value? budget depth (skipBlanks (← expect? '=' rest))
    let entries ← entries.assign key v path
    match skipBlanks rest with
    | ',' :: rest => pairs? budget depth rest entries
    | '\x7d' :: rest => return (entries, rest)
    | _ => none

end

/-! ## Lines -/

/-- The text after a line of which only blanks and a comment are left. -/
def restOfLine? (text : List Char) : Option (List Char) :=
  match skipComment (skipBlanks text) with
  | [] => some []
  | text => lineEnd? text

/-- A header in single brackets, after the opening one. -/
def header? (text : List Char) : Option ((List String × String) × List Char) := do
  let (key, rest) ← key? text
  return (key, ← restOfLine? (← expect? ']' rest))

/-- A header in double brackets, after the opening ones. -/
def elementHeader? (text : List Char) : Option ((List String × String) × List Char) := do
  let (key, rest) ← key? text
  return (key, ← restOfLine? (← expect? ']' (← expect? ']' rest)))

/-- An assignment of a value to a key. -/
def assignment? (text : List Char) : Option ((List String × String) × Entry × List Char) := do
  let (key, rest) ← key? text
  let (v, rest) ← value? (2 * rest.length + 2) 0 (skipBlanks (← expect? '=' rest))
  return (key, v, ← restOfLine? rest)

/-- Reads lines into a document, of which the table at the path `current` is open. -/
def lines? : Nat → List String → Entries → List Char → Option Entries
  | 0, _, _, _ => none
  | budget + 1, current, document, text =>
    match skipBlanks text with
    | [] => some document
    | '[' :: '[' :: text => do
      let ((path, key), rest) ← elementHeader? text
      lines? budget (path ++ [key]) (← document.within (Entries.openElement key) path) rest
    | '[' :: text => do
      let ((path, key), rest) ← header? text
      lines? budget (path ++ [key]) (← document.within (Entries.openTable key) path) rest
    | text =>
      match restOfLine? text with
      | some rest => lines? budget current document rest
      | none => do
        let ((path, key), v, rest) ← assignment? text
        lines? budget current (← document.within (Entries.assign key v path) current) rest

/-- The settings that a text defines. A byte order mark in front is dropped. -/
def parse? (text : String) : Option (Fields Setting) := do
  let chars :=
    match text.toList with
    | '\ufeff' :: rest => rest
    | chars => chars
  match ← settingOfTable? (← lines? (chars.length + 1) [] [] chars) with
  | .table members => return members
  | _ => none

end Effects.Toml
