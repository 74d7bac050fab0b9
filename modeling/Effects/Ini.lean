import Effects.Setting
import Effects.Text.Blank
import Effects.Text.CodePoint

/-!
# INI files

A text of headings `[section]`, assignments `key = value` and comments. What is assigned in front of
the first heading is a setting of its own, and what is assigned behind a heading belongs to the
table of that name. Every value is a text.
-/

namespace Effects.Ini

/-- What stands in a file, apart from comments. -/
inductive Item where
  /-- The name of the section that begins. -/
  | heading (name : String)
  /-- The assignment of a value to a key. -/
  | assignment (key value : String)
deriving DecidableEq, Repr

/-! ## Reading -/

/-- What stands for itself after a backslash, and how many characters write it. A backslash at the
end of a line joins the line to the next one. A character by its number has four digits, and a plus
may stand in place of the first one. -/
def escape? : List Char → Option (List Char × Nat)
  | [] => none
  | '0' :: _ => some (['\x00'], 1)
  | 'a' :: _ => some (['\x07'], 1)
  | 'b' :: _ => some (['\x08'], 1)
  | 't' :: _ => some (['\t'], 1)
  | 'r' :: _ => some (['\r'], 1)
  | 'n' :: _ => some (['\n'], 1)
  | '\n' :: _ => some ([], 1)
  | 'x' :: '+' :: rest => (Text.codePoint? 3 rest).map fun c => ([c], 5)
  | 'x' :: rest => (Text.codePoint? 4 rest).map fun c => ([c], 5)
  | c :: _ => some ([c], 1)

/-- The text up to a character that ends it, without escapes, and the rest from that character on.
The end of the file ends a text if `ends none` says so. -/
def textUntil? (ends : Option Char → Bool) : List Char → Option (List Char × List Char)
  | [] => if ends none then some ([], []) else none
  | c :: rest =>
    if ends (some c) then some ([], c :: rest)
    else if c = '\\' then
      match escape? rest with
      | some (escaped, used) =>
        (textUntil? ends (rest.drop used)).map fun (text, rest) => (escaped ++ text, rest)
      | none => none
    else (textUntil? ends rest).map fun (text, rest) => (c :: text, rest)
termination_by text => text.length
decreasing_by all_goals simp only [List.length_drop, List.length_cons]; omega

/-- Whether a text on one line ends at a character, or at the end of the file. -/
def endsLine : Option Char → Bool
  | none => true
  | some c => c = '\n' || c = '\r'

/-- A value: quoted parts and the rest of the line, one behind the other. White space around the
value does not count. Every quoted part takes a character, so a budget of the text's length is never
used up. -/
def value? : Nat → List Char → Option (List Char × List Char)
  | 0, _ => none
  | budget + 1, text =>
    match text with
    | [] => some ([], [])
    | c :: rest =>
      if c = '"' || c = '\x27' then do
        let (part, rest) ← textUntil? (· = some c) rest
        let (more, rest) ← value? budget (rest.drop 1)
        return (part ++ more, rest)
      else textUntil? endsLine text

/-- White space around a text dropped. -/
def trimmed (text : List Char) : String := String.ofList (Text.trimStart (Text.trimEnd text))

/-- Drops white space, and says whether a line begins behind it, where one begins in front of it if
`fresh` says so. -/
def skipSpace (fresh : Bool) : List Char → Bool × List Char
  | [] => (fresh, [])
  | c :: rest => if Text.isBlank c then skipSpace (c = '\n') rest else (fresh, c :: rest)

/-- Reads the items of a text, at the beginning of a line if `fresh` says so. A comment fills a
whole line. Every item takes a character, so a budget of the text's length is never used up. -/
def items? : Nat → Bool → List Char → Option (List Item)
  | 0, _, _ => none
  | budget + 1, fresh, text =>
    let (fresh, text) := skipSpace fresh text
    match text with
    | [] => some []
    | c :: rest =>
      if c = ';' || c = '#' then
        if fresh then items? budget true ((rest.dropWhile (· ≠ '\n')).drop 1) else none
      else if c = '[' then do
        let (name, rest) ← textUntil? (· = some ']') rest
        return .heading (trimmed name) :: (← items? budget false (rest.drop 1))
      else do
        let (key, rest) ← textUntil? (fun c => c = some '=' || c = some ':') text
        if trimmed key = "" then none
        else
          let (value, rest) ← value? (rest.length + 1)
            ((rest.drop 1).dropWhile fun c => Text.isBlank c && !endsLine (some c))
          return .assignment (trimmed key) (trimmed value) :: (← items? budget false rest)

/-! ## Settings -/

/-- The assignments in front of the next heading, and the items from that heading on. -/
def assignments : List Item → List (String × Setting) × List Item
  | .assignment key value :: rest =>
    let (settings, rest) := assignments rest
    ((key, .string value) :: settings, rest)
  | rest => ([], rest)

theorem length_assignments_le (items : List Item) :
    (assignments items).2.length ≤ items.length := by
  fun_induction assignments items with
  | case1 key value rest settings rest' h ih => simp_all; omega
  | case2 => simp

/-- The tables of sections. -/
def sections : List Item → List (String × Setting)
  | [] => []
  | .heading name :: rest =>
    (name, .table (Fields.ofList (assignments rest).1)) :: sections (assignments rest).2
  | .assignment _ _ :: rest => sections rest
termination_by items => items.length
decreasing_by
  · exact Nat.lt_succ_of_le (length_assignments_le rest)
  · simp

/-- The settings that a text defines. Of two settings or sections of one name the later one counts.
-/
def parse? (text : String) : Option (Fields Setting) := do
  let chars := text.toList
  let items ← items? (chars.length + 1) true chars
  return Fields.ofList ((assignments items).1 ++ sections (assignments items).2)

end Effects.Ini
