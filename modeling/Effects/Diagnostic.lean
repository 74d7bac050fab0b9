import Effects.Process
import Effects.Text.Visible

/-!
# Diagnostic text

The text of a payload that names every variant. Operations and bodies have no content to show.
Strings are quoted so that what cannot be seen by itself is written as an escape.
-/

namespace Effects

/-- The digits of a number in base sixteen, in lower case and without zeros in front. -/
def hexText (n : Nat) : String := String.ofList (Nat.toDigits 16 n)

/-- A character in diagnostic text. -/
def diagnosticChar (c : Char) : String :=
  if c = '"' then "\\\""
  else if c = '\\' then "\\\\"
  else if c = '\n' then "\\n"
  else if c = '\r' then "\\r"
  else if c = '\t' then "\\t"
  else if c.toNat = 0 then "\\0"
  else if Text.isVisible c then c.toString
  else "\\u\x7b" ++ hexText c.toNat ++ "\x7d"

/-- A quoted string in diagnostic text. -/
def diagnosticString (s : String) : String :=
  "\"" ++ s.foldl (fun text c => text ++ diagnosticChar c) "" ++ "\""

namespace Value

mutual

/-- The diagnostic text of a value. -/
def diagnostic : Value → String
  | .null => "Null"
  | .bool b => "Bool(" ++ (if b then "true" else "false") ++ ")"
  | .num x => "Num(" ++ Decimal.Layout.diagnostic.write x ++ ")"
  | .str s => "Str(" ++ diagnosticString s ++ ")"
  | .list items => "List([" ++ ", ".intercalate (diagnosticItems items) ++ "])"
  | .obj fields => "Obj(\x7b" ++ ", ".intercalate (diagnosticFields fields) ++ "\x7d)"

/-- The diagnostic texts of the elements of a list. -/
def diagnosticItems : List Value → List String
  | [] => []
  | v :: rest => diagnostic v :: diagnosticItems rest

/-- The diagnostic texts of the fields of an object. -/
def diagnosticFields : List (String × Value) → List String
  | [] => []
  | (name, v) :: rest => (diagnosticString name ++ ": " ++ diagnostic v) :: diagnosticFields rest

end

end Value

/-- The diagnostic text of a payload. -/
def Payload.diagnostic : Payload → String
  | none => "None"
  | value v => "Val(" ++ v.diagnostic ++ ")"
  | future _ => "Future(..)"
  | body _ _ => "Body(..)"

end Effects
