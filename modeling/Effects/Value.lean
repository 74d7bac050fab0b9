import Effects.Json

/-!
# Runtime values

The dynamically typed values that commands carry, that computations are resumed with and that they
complete with. Equality of values is structural, with the equality of doubles at the leaves: `NaN`
differs from itself and the two zeros are equal. `Value.toJson` and `Value.ofJson` are the JSON form
of values; a number that is whole and exact is written as a whole number.
-/

namespace Effects

/-- A runtime value. -/
inductive Value where
  | null
  | bool (b : Bool)
  | num (x : Float)
  | str (s : String)
  | list (items : List Value)
  /-- Fields in increasing order of their names. -/
  | obj (fields : List (String × Value))
deriving Inhabited

namespace Value

/-- An object; of two fields of one name the later one counts. -/
def ofFields (pairs : List (String × Value)) : Value := .obj (Fields.ofList pairs)

/-- A field of an object; other values have no fields. -/
def get? (v : Value) (name : String) : Option Value :=
  match v with
  | .obj fields => Fields.get? fields name
  | _ => none

/-- The text, if the value is one. -/
def asStr? : Value → Option String
  | .str s => some s
  | _ => none

/-- The number, if the value is one. -/
def asNum? : Value → Option Float
  | .num x => some x
  | _ => none

/-- The truth value, if the value is one. -/
def asBool? : Value → Option Bool
  | .bool b => some b
  | _ => none

/-- The elements, if the value is a list. -/
def asList? : Value → Option (List Value)
  | .list items => some items
  | _ => none

/-- Whether the value is `null`. -/
def isNull : Value → Bool
  | .null => true
  | _ => false

/-! ## Equality -/

mutual

/-- Structural equality. -/
def equal : Value → Value → Bool
  | .null, .null => true
  | .bool a, .bool b => a == b
  | .num x, .num y => x == y
  | .str s, .str t => s == t
  | .list xs, .list ys => equalItems xs ys
  | .obj fs, .obj gs => equalFields fs gs
  | _, _ => false

/-- Lists are equal element by element. -/
def equalItems : List Value → List Value → Bool
  | [], [] => true
  | x :: xs, y :: ys => equal x y && equalItems xs ys
  | _, _ => false

/-- Fields are equal name by name. -/
def equalFields : List (String × Value) → List (String × Value) → Bool
  | [], [] => true
  | (k, x) :: xs, (l, y) :: ys => k == l && equal x y && equalFields xs ys
  | _, _ => false

end

instance : BEq Value := ⟨equal⟩

/-! ## JSON form -/

/-- The JSON form of a number: a whole number if it is whole and exact, `null` if it is not finite,
itself otherwise. Both zeros are `0`. -/
def numToJson (x : Float) : Json :=
  match Decimal.exactInt? x with
  | some n => .integer n
  | none => if x.isFinite then .float x else .null

mutual

/-- The JSON form of a value. -/
def toJson : Value → Json
  | .null => .null
  | .bool b => .bool b
  | .num x => numToJson x
  | .str s => .string s
  | .list items => .array (itemsToJson items)
  | .obj fields => .object (fieldsToJson fields)

/-- The JSON form of the elements of a list. -/
def itemsToJson : List Value → List Json
  | [] => []
  | v :: rest => toJson v :: itemsToJson rest

/-- The JSON form of the fields of an object. -/
def fieldsToJson : List (String × Value) → List (String × Json)
  | [] => []
  | (name, v) :: rest => (name, toJson v) :: fieldsToJson rest

end

mutual

/-- The value that a JSON value stands for; whole numbers become the nearest double. -/
def ofJson : Json → Value
  | .null => .null
  | .bool b => .bool b
  | .integer n => .num (Decimal.ofInt n)
  | .float x => .num x
  | .string s => .str s
  | .array items => .list (itemsOfJson items)
  | .object members => .obj (fieldsOfJson members)

/-- The values of the elements of an array. -/
def itemsOfJson : List Json → List Value
  | [] => []
  | j :: rest => ofJson j :: itemsOfJson rest

/-- The values of the members of an object. -/
def fieldsOfJson : List (String × Json) → List (String × Value)
  | [] => []
  | (name, j) :: rest => (name, ofJson j) :: fieldsOfJson rest

end

/-- The text of a value: its JSON form without blanks. -/
def render (v : Value) : String := v.toJson.compact

instance : ToString Value := ⟨render⟩

/-- Text stands for itself, any other value for its JSON text. -/
def plain : Value → String
  | .str s => s
  | v => v.render

end Value

end Effects
