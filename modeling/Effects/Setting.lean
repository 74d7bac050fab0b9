import Effects.Decimal.Layout
import Effects.Decimal.Reading
import Effects.Json
import Effects.Text.Case

/-!
# Settings

A setting is a value that has been configured somewhere, before anybody has said of which type it
should be. Settings from several sources are laid over each other with `Setting.put`: a table is
merged into a table, and any other setting takes the place of what was there. Reading a setting as
text or as a number is lenient, since some sources hold nothing but text.
-/

namespace Effects

/-- A configured value. -/
inductive Setting where
  | nothing
  | bool (b : Bool)
  | integer (n : Int)
  | float (x : Float)
  | string (s : String)
  | array (items : List Setting)
  /-- Members in increasing order of their names. -/
  | table (members : List (String × Setting))
deriving Inhabited

namespace Setting

/-! ## Laying settings over each other -/

/-- The members of a table; other settings have none. -/
def members : Setting → Fields Setting
  | .table members => members
  | _ => []

/-- The elements of an array; other settings have none. -/
def items : Setting → List Setting
  | .array items => items
  | _ => []

mutual

/-- Puts a setting into `target` under a name. Names do not distinguish cases. A table is merged
into what stands there; every other setting replaces it. -/
def put (target : Setting) (name : String) : Setting → Setting
  | .table members =>
    let key := Text.lower name
    let inner := (target.members.get? key).getD (.table [])
    .table (target.members.insert key (putAll inner members))
  | single => .table (target.members.insert (Text.lower name) single)

/-- Puts the members of a table into `target`. -/
def putAll (target : Setting) : List (String × Setting) → Setting
  | [] => target
  | (name, single) :: rest => putAll (put target name single) rest

end

/-! ## Reading settings -/

/-- A setting as text. Flags and numbers are written out. -/
def text? : Setting → Option String
  | .string s => some s
  | .bool b => some (if b then "true" else "false")
  | .integer n => some (toString n)
  | .float x => some (Decimal.Layout.plain.write x)
  | _ => none

/-- A double as a natural number: rounded to the nearest, halves upwards, and brought into the range
of the natural numbers of 64 bits. -/
def naturalOfFloat (x : Float) : Nat :=
  if x.isNaN || Decimal.isNegative x then 0
  else if x.isInf then Decimal.maxNatural64
  else min (Decimal.Binary.ofFloat x).rounded Decimal.maxNatural64

/-- A word for a flag, in any case. -/
def switchOfWord? (word : String) : Option Bool :=
  let word := Text.lower word
  if word = "true" || word = "on" || word = "yes" then some true
  else if word = "false" || word = "off" || word = "no" then some false
  else none

/-- The number written by digits, perhaps after a plus. -/
def naturalOfText? (text : String) : Option Nat :=
  let digits :=
    match text.toList with
    | '+' :: digits => digits
    | digits => digits
  if digits ≠ [] && digits.all Char.isDigit then some (Decimal.natOfDigits digits) else none

/-- A setting as a natural number up to a bound. A flag counts as one or zero, also as a word; a
double is rounded. -/
def natural? (bound : Nat) (s : Setting) : Option Nat :=
  let number? : Option Nat :=
    match s with
    | .bool b => some b.toNat
    | .integer n => if 0 ≤ n then some n.toNat else none
    | .float x => some (naturalOfFloat x)
    | .string s =>
      match switchOfWord? s with
      | some b => some b.toNat
      | none => naturalOfText? s
    | _ => none
  number?.filter fun n => n ≤ min bound Decimal.maxNatural64

/-- A table of texts. -/
def texts? : Setting → Option (Fields String)
  | .table members => members.mapM fun m => m.2.text?.map fun s => (m.1, s)
  | _ => none

/-- The parts of a structure: by name in a table, by position in an array. -/
def parts? (names : List String) : Setting → Option (List (Option Setting))
  | .table members => some (names.map fun name => Fields.get? members name)
  | .array items => some ((List.range names.length).map fun i => items[i]?)
  | _ => none

mutual

/-- A JSON value as a setting. Whole numbers beyond 64 bits are doubles. -/
def ofJson : Json → Setting
  | .null => .nothing
  | .bool b => .bool b
  | .integer n => if Decimal.isWord n then .integer n else .float (Decimal.ofInt n)
  | .float x => .float x
  | .string s => .string s
  | .array items => .array (ofItems items)
  | .object members => .table (ofMembers members)

/-- The elements of a JSON array as settings. -/
def ofItems : List Json → List Setting
  | [] => []
  | item :: rest => ofJson item :: ofItems rest

/-- The members of a JSON object as settings. -/
def ofMembers : List (String × Json) → List (String × Setting)
  | [] => []
  | (name, value) :: rest => (name, ofJson value) :: ofMembers rest

end

end Setting

end Effects
