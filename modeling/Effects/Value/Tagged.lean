import Effects.Value

/-!
# Values with their variant named

The self-describing JSON form of values: an object of the variant `t` and the content `v`, or the
two by position. Numbers are always written as doubles here, so the variant is never in doubt. In an
object the variant may also be named by an object of its own, whose only member is `null`.
-/

namespace Effects.Value

/-- A variant name beside its content. -/
def variant (name : String) (content : Json) : Json :=
  .object [("t", .string name), ("v", content)]

mutual

/-- The tagged form of a value. -/
def toTagged : Value → Json
  | .null => .object [("t", .string "Null")]
  | .bool b => variant "Bool" (.bool b)
  | .num x => variant "Num" (if x.isFinite then .float x else .null)
  | .str s => variant "Str" (.string s)
  | .list items => variant "List" (.array (itemsToTagged items))
  | .obj fields => variant "Obj" (.object (fieldsToTagged fields))

/-- The tagged forms of the elements of a list. -/
def itemsToTagged : List Value → List Json
  | [] => []
  | v :: rest => toTagged v :: itemsToTagged rest

/-- The tagged forms of the fields of an object. -/
def fieldsToTagged : List (String × Value) → List (String × Json)
  | [] => []
  | (name, v) :: rest => (name, toTagged v) :: fieldsToTagged rest

end

/-- The name of a variant: a text, or the only member of an object, which is `null`. -/
def variantName? : Json → Option String
  | .string name => some name
  | .object [(name, .null)] => some name
  | _ => none

mutual

/-- The value that a tagged form stands for. As an object, other members are ignored and `Null`
needs no content. -/
def ofTagged? : Json → Option Value
  | .object members => ofMembers? none none members
  | .array [.string name, content] => ofVariant? name content
  | _ => none

/-- The value of the members of an object, of which the variant and the content may have been seen
already. The content is kept as a function of the variant. -/
def ofMembers? (name : Option String) (content : Option (String → Option Value)) :
    List (String × Json) → Option Value
  | [] =>
    match name, content with
    | some name, some content => content name
    | some name, none => if name = "Null" then some .null else none
    | none, _ => none
  | (key, j) :: rest =>
    if key = "t" then
      match variantName? j with
      | some name => ofMembers? (some name) content rest
      | none => none
    else if key = "v" then ofMembers? name (some fun name => ofVariant? name j) rest
    else ofMembers? name content rest

/-- The value of a variant with a content. -/
def ofVariant? (name : String) : Json → Option Value
  | .null => if name = "Null" then some .null else none
  | .bool b => if name = "Bool" then some (.bool b) else none
  | .integer n => if name = "Num" then some (.num (Decimal.ofInt n)) else none
  | .float x => if name = "Num" then some (.num x) else none
  | .string s => if name = "Str" then some (.str s) else none
  | .array items => if name = "List" then (ofItems? items).map .list else none
  | .object members => if name = "Obj" then (ofFields? members).map .obj else none

/-- The values of tagged elements. -/
def ofItems? : List Json → Option (List Value)
  | [] => some []
  | j :: rest => do return (← ofTagged? j) :: (← ofItems? rest)

/-- The values of tagged fields. -/
def ofFields? : List (String × Json) → Option (List (String × Value))
  | [] => some []
  | (name, j) :: rest => do return (name, ← ofTagged? j) :: (← ofFields? rest)

end

end Effects.Value
