import Effects.Setting

/-!
# Paths to settings

A path leads through tables and arrays to one setting. Its text is a name, followed by further names
after points and by positions in brackets: `store.records.r1`, `servers[0].name`. Setting a value at
the end of a path makes whatever is missing on the way.
-/

namespace Effects.Setting

/-- One step of a path. -/
inductive PathStep where
  /-- To the member of a table. -/
  | member (name : String)
  /-- To the element of an array; negative positions count from its end. -/
  | item (position : Int)
deriving DecidableEq, Repr

/-! ## The text of a path -/

/-- The characters of names in paths. -/
def isNameChar (c : Char) : Bool := c.isAlphanum || c = ' ' || c = '_' || c = '-'

/-- A name at the front of a text. -/
def name? (text : List Char) : Option (PathStep × List Char) :=
  let name := text.takeWhile isNameChar
  if name = [] then none
  else some (.member (String.ofList name), text.dropWhile isNameChar)

/-- A position up to its closing bracket. It has to fit into 64 bits. -/
def position? (text : List Char) : Option (PathStep × List Char) :=
  let text := text.dropWhile fun c => c = ' ' || c = '\t'
  let (negative, text) : Bool × List Char :=
    match text with
    | '-' :: rest => (true, rest)
    | rest => (false, rest)
  let digits := text.takeWhile Char.isDigit
  let magnitude := Decimal.natOfDigits digits
  let rest := (text.dropWhile Char.isDigit).dropWhile fun c => c = ' ' || c = '\t'
  match rest with
  | ']' :: rest =>
    if digits ≠ [] && Decimal.isWord magnitude then
      some (.item (if negative then -(magnitude : Int) else magnitude), rest)
    else none
  | _ => none

/-- The steps that follow a name. A step takes at least one character, so a budget of the text's
length is never used up. -/
def steps? : Nat → List Char → Option (List PathStep)
  | _, [] => some []
  | 0, _ => none
  | budget + 1, c :: text => do
    let (step, rest) ←
      if c = '.' then name? text else if c = '[' then position? text else none
    return step :: (← steps? budget rest)

/-- The path that a text writes. -/
def path? (text : String) : Option (List PathStep) := do
  let (first, rest) ← name? text.toList
  return first :: (← steps? rest.length rest)

/-- The path of a key: the path that it writes, or else the key itself as a single name. -/
def pathOfKey (key : String) : List PathStep := (path? key).getD [.member key]

/-! ## Setting a value -/

/-- The index of a position in an array, if it is not before its beginning. -/
def index? (position : Int) (size : Nat) : Option Nat :=
  if 0 ≤ position then some position.toNat
  else if position.natAbs ≤ size then some (size - position.natAbs)
  else none

/-- An array prolonged with empty settings until it has an element at an index. -/
def prolonged (items : List Setting) (index : Nat) : List Setting :=
  items ++ List.replicate (index + 1 - items.length) .nothing

/-- Sets a value at the end of a path. What is not a table or an array where one is needed gives way
to an empty one. -/
def assign (value : Setting) : List PathStep → Setting → Setting
  | [], _ => value
  | [.member name], target => target.put name value
  | .member name :: rest, target =>
    let key := Text.lower name
    let inner := (target.members.get? key).getD .nothing
    .table (target.members.insert key (assign value rest inner))
  | .item position :: rest, target =>
    match index? position target.items.length with
    | some index =>
      let items := prolonged target.items index
      .array (items.set index (assign value rest (items[index]?.getD .nothing)))
    | none => target

/-- Lays settings over `target`; each name is read as a path. -/
def overlay (target : Setting) (settings : List (String × Setting)) : Setting :=
  settings.foldl (fun target s => assign s.2 (pathOfKey s.1) target) target

end Effects.Setting
