import Effects.Setting.Path

/-!
# Environment variables

The variables of a process that configure it. A variable counts when its name starts with
`EFFECTKIT_`, in any case; what follows is a key, in which `__` stands for a point. Values are text,
so one that looks like a flag or a number is taken for it.
-/

namespace Effects

/-- Environment variables, in the order of their names. -/
abbrev Environment := Fields String

namespace Environment

/-- What marks the names of the variables that count: they start with it, in any case. -/
def marker : List Char := "effectkit_".toList

/-- The key in a name: after the start that marks it, with a point for every pair of underscores. -/
def pointed : List Char → List Char
  | '_' :: '_' :: rest => '.' :: pointed rest
  | c :: rest => c :: pointed rest
  | [] => []

/-- The key that a variable sets, if it counts. -/
def key? (name : String) : Option String :=
  (marker.isPrefixOf? (Text.lower name).toList).map fun key => String.ofList (pointed key)

/-- The setting that a value stands for: a flag, a whole number of 64 bits, a double, or else
text. -/
def settingOf (text : String) : Setting :=
  let word := Text.lower text
  if word = "true" then .bool true
  else if word = "false" then .bool false
  else
    match (Decimal.int? text).filter Decimal.isWord with
    | some n => .integer n
    | none =>
      match Decimal.float? text with
      | some x => .float x
      | none => .string text

/-- The settings in an environment, by key. -/
def settings (env : Environment) : Fields Setting :=
  .ofList (env.filterMap fun v => (key? v.1).map fun key => (key, settingOf v.2))

/-- Adds a variable, unless it is set already. -/
def supplement (env : Environment) (name value : String) : Environment :=
  match env.get? name with
  | some _ => env
  | none => env.insert name value

end Environment

end Effects
