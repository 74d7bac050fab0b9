import Effects.Decimal.Reading
import Effects.Yaml.Cursor
import Effects.Yaml.Token

/-!
# Properties and directives in YAML

A node may have a type, which is written as a tag, and a name, which is written as an anchor and
used as an alias. Directives stand in front of a document.
-/

namespace Effects.Yaml

/-! ## Identifiers of resources -/

/-- The marks that identifiers of resources consist of, besides letters and digits. -/
def uriMarks : List Char :=
  [';', '/', '?', ':', '@', '&', '=', '+', '$', ',', '.', '!', '~', '*', '\x27', '(', ')', '[', ']']

/-- Whether a character can stand in an identifier of a resource. -/
def isUriChar (c : Char) : Bool := isNameChar c || uriMarks.contains c

/-- The bytes in front of a text, each of which is written as a percent sign and two hexadecimal
digits. -/
def escapedBytes? : Nat → List Char → Option (List Nat)
  | 0, _ => some []
  | count + 1, '%' :: a :: b :: rest => do
    let byte := 16 * (← Decimal.digitIn? 16 a) + (← Decimal.digitIn? 16 b)
    return byte :: (← escapedBytes? count rest)
  | _, _ => none

/-- The number of bytes of a character, from the first of them. -/
def byteCount? (first : Nat) : Option Nat :=
  if first / 128 = 0 then some 1
  else if first / 32 = 6 then some 2
  else if first / 16 = 14 then some 3
  else if first / 8 = 30 then some 4
  else none

/-- The character that escaped bytes name, and how many characters write it. The bytes are the
digits of its number. -/
def uriEscape? (text : List Char) : Option (Char × Nat) := do
  let count ← byteCount? (← (← escapedBytes? 1 text).head?)
  let bytes ← escapedBytes? count text
  let code := bytes.foldl (fun n byte => 256 * n + byte) 0
  if (bytes.drop 1).all (fun byte => byte / 64 = 2) && decide code.isValidChar then
    return (Char.ofNat code, 3 * count)
  else none

/-- The identifier in front of a text, and how many characters write it. -/
def uri? : List Char → Option (List Char × Nat)
  | [] => some ([], 0)
  | c :: rest =>
    if c = '%' then
      match uriEscape? (c :: rest) with
      | some (escaped, used) =>
        (uri? (rest.drop (used - 1))).map fun (read, size) => (escaped :: read, size + used)
      | none => none
    else if isUriChar c then (uri? rest).map fun (read, size) => (c :: read, size + 1)
    else some ([], 0)
termination_by text => text.length
decreasing_by all_goals simp only [List.length_drop, List.length_cons]; omega

/-- An identifier that is not empty, and the place behind it. -/
def resource? (c : Cursor) : Option (List Char × Cursor) := do
  let (read, size) ← uri? c.text
  if size = 0 then none else return (read, c.forward size)

/-! ## Tags -/

/-- A tag from its exclamation mark on. In angle brackets stands a whole identifier. Otherwise a
second exclamation mark ends the handle of the tag, and a tag with one mark alone has the handle
`!`, or none if nothing follows. -/
def tag? (c : Cursor) : Option (Token × Cursor) := do
  let name := (c.next.text.takeWhile isNameChar)
  let behind := c.next.forward name.length
  let (tag, rest) ←
    if c.ahead? 1 = some '<' then do
      let (suffix, rest) ← resource? (c.forward 2)
      if rest.ahead? 0 = some '>' then
        some (Token.tag "" (String.ofList suffix), rest.next)
      else none
    else if behind.ahead? 0 = some '!' then do
      let (suffix, rest) ← resource? behind.next
      some (Token.tag (String.ofList ('!' :: name ++ ['!'])) (String.ofList suffix), rest)
    else do
      let (more, size) ← uri? behind.text
      let suffix := name ++ more
      let tag := if suffix = [] then Token.tag "" "!" else Token.tag "!" (String.ofList suffix)
      some (tag, behind.forward size)
  if endsWord (rest.ahead? 0) then return (tag, rest) else none

/-! ## Names of nodes -/

/-- Whether a character can stand behind the name of a node. -/
def endsName : Option Char → Bool
  | none => true
  | some c => isSpace c || ['?', ':', ',', ']', '\x7d', '%', '@', '\x60'].contains c

/-- The name behind the mark of an anchor or of an alias. -/
def nodeName? (c : Cursor) : Option (String × Cursor) :=
  let name := c.next.text.takeWhile isNameChar
  let rest := c.next.forward name.length
  if name ≠ [] && endsName (rest.ahead? 0) then some (String.ofList name, rest) else none

/-! ## Directives -/

/-- The place behind a number of at most nine digits. -/
def pastNumber? (c : Cursor) : Option Cursor :=
  let count := (c.text.takeWhile Char.isDigit).length
  if 0 < count && count ≤ 9 then some (c.forward count) else none

/-- The place behind a version, which is two numbers with a point between them. -/
def pastVersion? (c : Cursor) : Option Cursor := do
  let c ← pastNumber? c
  if c.ahead? 0 = some '.' then pastNumber? c.next else none

/-- The place behind the definition of a handle by an identifier. -/
def pastHandle? (c : Cursor) : Option Cursor := do
  if c.ahead? 0 ≠ some '!' then none
  else
    let name := c.next.text.takeWhile isNameChar
    let behind := c.next.forward name.length
    let behind ←
      if behind.ahead? 0 = some '!' then some behind.next
      else if name = [] then some behind
      else none
    let (_, rest) ← resource? (behind.past isBlank)
    if endsWord (rest.ahead? 0) then return rest else none

/-- The line behind a directive, from its percent sign on. A directive with an unknown name is
passed over. -/
def pastDirective? (c : Cursor) : Option Cursor := do
  let name := c.next.text.takeWhile isNameChar
  let behind := c.next.forward name.length
  if name = [] || !endsWord (behind.ahead? 0) then none
  else
    let rest ←
      match String.ofList name with
      | "YAML" => pastVersion? (behind.past isBlank)
      | "TAG" => pastHandle? (behind.past isBlank)
      | _ => some (behind.past fun ch => !isBreak ch)
    rest.nextLine?

end Effects.Yaml
