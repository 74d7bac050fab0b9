/-!
# Named fields

The members of an object, a record store and a configuration table are all finite maps from names.
They are kept as a list of pairs in strictly increasing byte order of the names, so that two maps
with the same bindings are the same list and every printer sees one order. Byte order of UTF-8 is
the order of code points, which is the order of `String`.
-/

namespace Effects

/-- A finite map from names, as pairs with strictly increasing names. -/
abbrev Fields (α : Type) := List (String × α)

namespace Fields

variable {α β : Type}

/-- The binding of a name. -/
def get? (fields : Fields α) (name : String) : Option α :=
  match fields with
  | [] => none
  | (key, value) :: rest => if key = name then some value else get? rest name

/-- Binds a name, replacing an earlier binding. -/
def insert (fields : Fields α) (name : String) (value : α) : Fields α :=
  match fields with
  | [] => [(name, value)]
  | (key, old) :: rest =>
    if name < key then (name, value) :: (key, old) :: rest
    else if name = key then (name, value) :: rest
    else (key, old) :: insert rest name value

/-- Removes the binding of a name, if there is one. -/
def erase (fields : Fields α) (name : String) : Fields α :=
  match fields with
  | [] => []
  | (key, value) :: rest => if key = name then rest else (key, value) :: erase rest name

/-- The map of a list of bindings; of two bindings of a name the later one counts. -/
def ofList (pairs : List (String × α)) : Fields α :=
  pairs.foldl (fun fields pair => fields.insert pair.1 pair.2) []

/-- The names, in increasing order. -/
def names (fields : Fields α) : List String := fields.map (·.1)

end Fields

end Effects
