import Effects.Decimal.Layout
import Effects.Fields

/-!
# JSON values and their text

A JSON number is either a whole number or a double, as its text decides; objects keep their members
sorted by name. `Json.compact` writes a value without blanks, `Json.pretty` with one member a line.
-/

namespace Effects

/-- A JSON value. -/
inductive Json where
  | null
  | bool (b : Bool)
  /-- A number written without point and exponent. -/
  | integer (n : Int)
  /-- A number written with point or exponent, or beyond 64 bits. -/
  | float (x : Float)
  | string (s : String)
  | array (items : List Json)
  /-- Members in increasing order of their names. -/
  | object (members : List (String × Json))
deriving Inhabited

namespace Json

/-- One hexadecimal digit, in lower case. -/
def hexDigit (n : Nat) : Char :=
  if n < 10 then Char.ofNat ('0'.toNat + n) else Char.ofNat ('a'.toNat + (n - 10))

/-- A character inside a JSON string: the quote, the backslash and the control characters below
`0x20` are escaped, every other character stands for itself. -/
def escapeChar (c : Char) : String :=
  if c = '"' then "\\\""
  else if c = '\\' then "\\\\"
  else if c = '\x08' then "\\b"
  else if c = '\x0c' then "\\f"
  else if c = '\n' then "\\n"
  else if c = '\r' then "\\r"
  else if c = '\t' then "\\t"
  else if c.toNat < 0x20 then
    "\\u00" ++ String.ofList [hexDigit (c.toNat / 16), hexDigit (c.toNat % 16)]
  else c.toString

/-- A JSON string literal. -/
def quote (s : String) : String :=
  "\"" ++ s.foldl (fun text c => text ++ escapeChar c) "" ++ "\""

/-- The text of a double; a double that is not finite has no JSON form and is written `null`. -/
def floatText (x : Float) : String :=
  if x.isFinite then Decimal.Layout.jsonNumber.finite x else "null"

mutual

/-- The text of a value, without blanks. -/
def compact : Json → String
  | .null => "null"
  | .bool b => if b then "true" else "false"
  | .integer n => toString n
  | .float x => floatText x
  | .string s => quote s
  | .array items => "[" ++ ",".intercalate (compactItems items) ++ "]"
  | .object members => "\x7b" ++ ",".intercalate (compactMembers members) ++ "\x7d"

/-- The texts of the elements of an array. -/
def compactItems : List Json → List String
  | [] => []
  | item :: rest => compact item :: compactItems rest

/-- The texts of the members of an object. -/
def compactMembers : List (String × Json) → List String
  | [] => []
  | (name, value) :: rest => (quote name ++ ":" ++ compact value) :: compactMembers rest

end

/-- A new line with the given indentation, of two blanks a level. -/
def indentation (depth : Nat) : String := "\n" ++ "".pushn ' ' (2 * depth)

mutual

/-- The text of a value with one element or member a line; empty arrays and objects stay on one. -/
def prettyAt (depth : Nat) : Json → String
  | .null => "null"
  | .bool b => if b then "true" else "false"
  | .integer n => toString n
  | .float x => floatText x
  | .string s => quote s
  | .array [] => "[]"
  | .array (item :: rest) =>
    "[" ++ ",".intercalate (prettyItems depth (item :: rest)) ++ indentation depth ++ "]"
  | .object [] => "\x7b\x7d"
  | .object (member :: rest) =>
    "\x7b" ++ ",".intercalate (prettyMembers depth (member :: rest)) ++ indentation depth ++ "\x7d"

/-- The elements of an array, each on a line of its own. -/
def prettyItems (depth : Nat) : List Json → List String
  | [] => []
  | item :: rest =>
    (indentation (depth + 1) ++ prettyAt (depth + 1) item) :: prettyItems depth rest

/-- The members of an object, each on a line of its own. -/
def prettyMembers (depth : Nat) : List (String × Json) → List String
  | [] => []
  | (name, value) :: rest =>
    (indentation (depth + 1) ++ quote name ++ ": " ++ prettyAt (depth + 1) value)
      :: prettyMembers depth rest

end

/-- The indented text of a value. -/
def pretty (j : Json) : String := prettyAt 0 j

/-- The member of an object with the given name. -/
def member? (j : Json) (name : String) : Option Json :=
  match j with
  | .object members => Fields.get? members name
  | _ => none

/-- The text, if the value is one. -/
def asString? : Json → Option String
  | .string s => some s
  | _ => none

/-- The parts of a structure: by name in an object, by position in an array. An array has no
elements beyond the last part. -/
def parts? (names : List String) : Json → Option (List (Option Json))
  | .object members => some (names.map fun name => Fields.get? members name)
  | .array items =>
    if items.length ≤ names.length then some ((List.range names.length).map fun i => items[i]?)
    else none
  | _ => none

/-- An object; of two members of one name the later one counts. -/
def ofMembers (pairs : List (String × Json)) : Json := .object (Fields.ofList pairs)

end Json

end Effects
