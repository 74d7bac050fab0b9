import Effects.Decimal.Reading
import Effects.Setting

/-!
# Nodes of YAML

A document is a tree of nodes. A plain text stands for a flag, a number or nothing if it looks like
one; a tag can demand that, and a text that does not comply is no value. Mappings keep their entries
in the order of the text, and a later entry takes the place of an earlier one with its key.
-/

namespace Effects.Yaml

/-- The key of an entry. Texts and whole numbers are different keys, also if they are written alike.
-/
inductive Key where
  | text (s : String)
  | number (n : Int)
deriving DecidableEq, Repr

/-- The name of a key in a table. -/
def Key.name : Key → String
  | text s => s
  | number n => toString n

/-- A node. -/
inductive Node where
  /-- No value: a text that is not what its tag demands, or a node that is used within itself. -/
  | invalid
  | null
  | bool (b : Bool)
  | integer (n : Int)
  /-- A double, as it is written. -/
  | real (text : String)
  | string (s : String)
  | sequence (items : List Node)
  /-- The entries of a mapping. A node that is no text and no whole number has no key. -/
  | mapping (entries : List (Option Key × Node))

namespace Node

/-! ## Plain texts -/

/-- The words for infinities and for no number. -/
def realWords : List String :=
  [".inf", ".Inf", ".INF", "+.inf", "+.Inf", "+.INF", "-.inf", "-.Inf", "-.INF", ".nan", "NaN",
    ".NAN"]

/-- Whether a text looks like a double. -/
def looksReal (text : String) : Bool :=
  realWords.contains text || (Decimal.float? text).isSome

/-- A whole number of 64 bits, one of them for the sign. -/
def int? (text : String) : Option Int := (Decimal.int? text).filter Decimal.isWord

/-- A whole number in a base, perhaps with a sign. -/
def inBase? (base : Nat) (text : List Char) : Option Int :=
  let (negative, digits) := Decimal.splitSign text
  let magnitude : Int := Decimal.natInBase base digits
  if digits ≠ [] && digits.all (fun c => (Decimal.digitIn? base c).isSome) then
    some (if negative then -magnitude else magnitude)
  else none

/-- A whole number behind the mark of its base, or behind a plus. -/
def marked? : List Char → Option Int
  | '0' :: 'x' :: rest => (inBase? 16 rest).filter Decimal.isWord
  | '0' :: 'o' :: rest => (inBase? 8 rest).filter Decimal.isWord
  | '+' :: rest => int? (String.ofList rest)
  | _ => none

/-- What a plain text stands for. -/
def ofPlain (text : String) : Node :=
  match marked? text.toList with
  | some n => .integer n
  | none =>
    if text = "~" || text = "null" then .null
    else if text = "true" then .bool true
    else if text = "false" then .bool false
    else
      match int? text with
      | some n => .integer n
      | none => if looksReal text then .real text else .string text

/-- What a plain text stands for if a tag demands a type. -/
def ofTagged (type text : String) : Node :=
  match type with
  | "bool" => if text = "true" then .bool true else if text = "false" then .bool false else .invalid
  | "int" =>
    match int? text with
    | some n => .integer n
    | none => .invalid
  | "float" => if looksReal text then .real text else .invalid
  | "null" => if text = "~" || text = "null" then .null else .invalid
  | _ => .string text

/-- What a text stands for: a plain one with a tag of the common types, any other with a tag, or one
without. -/
def ofScalar (isPlain : Bool) (tag : Option (String × String)) (text : String) : Node :=
  if isPlain then
    match tag with
    | none => ofPlain text
    | some (handle, type) => if handle = "!!" then ofTagged type text else .string text
  else .string text

/-! ## Mappings -/

/-- The key that a node is. -/
def key? : Node → Option Key
  | string s => some (.text s)
  | integer n => some (.number n)
  | _ => none

/-- Whether a node is no value. -/
def isInvalid : Node → Bool
  | invalid => true
  | _ => false

/-- The mapping whose keys and values are some nodes in turn. A node that is no value cannot be a
key: it is passed over. -/
def ofChildren (entries : List (Option Key × Node)) : List Node → Node
  | [] => .mapping entries
  | [_] => .mapping entries
  | k :: v :: rest =>
    if k.isInvalid then ofChildren entries (v :: rest)
    else ofChildren (entries.filter (·.1 ≠ k.key?) ++ [(k.key?, v)]) rest

/-! ## Settings -/

mutual

/-- The setting that a node stands for. Every key is a text or a whole number, and every double is
written as a number. -/
def toSetting? : Node → Option Setting
  | invalid => some .nothing
  | null => some .nothing
  | bool b => some (.bool b)
  | integer n => some (.integer n)
  | real text => (Decimal.float? text).map .float
  | string s => some (.string s)
  | sequence items => do return .array (← settingsOfItems? items)
  | mapping entries => do return .table (Fields.ofList (← settingsOfEntries? entries))

/-- The settings of the entries of a sequence. -/
def settingsOfItems? : List Node → Option (List Setting)
  | [] => some []
  | item :: rest => do return (← item.toSetting?) :: (← settingsOfItems? rest)

/-- The settings of the entries of a mapping. -/
def settingsOfEntries? : List (Option Key × Node) → Option (List (String × Setting))
  | [] => some []
  | (key, v) :: rest => do
    return ((← key).name, ← v.toSetting?) :: (← settingsOfEntries? rest)

end

end Node

end Effects.Yaml
