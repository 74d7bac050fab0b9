import Effects.Yaml.Layout
import Effects.Yaml.Node

/-!
# Reading YAML

The tokens of a text are put together to nodes. A reader takes tokens away and remembers the nodes
that have names. Its budget is never used up: it bounds the depth and the length of what is read,
and is taken from the number of tokens.
-/

namespace Effects.Yaml

/-- What has been read, as far as later nodes depend on it. -/
structure Reading where
  /-- The tokens that are left. -/
  tokens : List Token
  /-- The names that have been given, the last one first. -/
  names : List String := []
  /-- The nodes with a name that are complete, by the number of names given before. -/
  named : List (Nat × Node) := []

/-- A computation that takes tokens, or fails. -/
abbrev Reader := StateT Reading Option

namespace Reader

/-! ## Tokens -/

/-- The next token, which stays where it is. -/
def peek? : Reader (Option Token) := fun r => some (r.tokens.head?, r)

/-- Takes the next token away. -/
def skip : Reader Unit := fun r => some ((), { r with tokens := r.tokens.drop 1 })

/-- Whether the next token is one of some. -/
def sees (expected : List Token) : Reader Bool := do
  return (← peek?).any (expected.contains ·)

/-- Takes the next token away if it is the expected one. -/
def take? (expected : Token) : Reader Bool := do
  if ← sees [expected] then
    skip
    return true
  else return false

/-- A token that must be there. -/
def expect (expected : Token) : Reader Unit := do
  unless ← take? expected do failure

/-! ## Names -/

/-- Gives a name, and returns its number. -/
def giveName (name : String) : Reader Nat := fun r =>
  some (r.names.length, { r with names := name :: r.names })

/-- Takes an anchor away, if it comes next, and gives its name. -/
def anchor? : Reader (Option Nat) := do
  match ← peek? with
  | some (.anchor name) =>
    skip
    return some (← giveName name)
  | _ => return none

/-- Takes a tag away, if it comes next. -/
def tag? : Reader (Option (String × String)) := do
  match ← peek? with
  | some (.tag handle suffix) =>
    skip
    return some (handle, suffix)
  | _ => return none

/-- The anchor and the tag of a node, in any order. -/
def properties : Reader (Option Nat × Option (String × String)) := do
  match ← anchor? with
  | some number => return (some number, ← tag?)
  | none =>
    match ← tag? with
    | some tag => return (← anchor?, some tag)
    | none => return (none, none)

/-- Remembers a node under the number of its name. -/
def keep (number : Option Nat) (node : Node) : Reader Node := fun r =>
  match number with
  | some n => some (node, { r with named := (n, node) :: r.named })
  | none => some (node, r)

/-- The node with a name. One that is not complete yet is no value. -/
def named (name : String) : Reader Node := fun r =>
  match r.names.dropWhile (· ≠ name) with
  | [] => none
  | _ :: earlier => some ((r.named.lookup earlier.length).getD .invalid, r)

/-! ## Nodes -/

mutual

/-- A node. Blocks are admitted if `inBlock` says so, and a sequence that is not indented if
`indentless` says so. -/
def node (inBlock indentless : Bool) : Nat → Reader Node
  | 0 => failure
  | budget + 1 => do
    match ← peek? with
    | some (.alias name) =>
      skip
      named name
    | _ =>
      let (number, tag) ← properties
      match ← peek? with
      | some (.scalar isPlain text) =>
        skip
        keep number (.ofScalar isPlain tag text)
      | some .flowSequenceStart =>
        skip
        keep number (.sequence (← flowItems true budget))
      | some .flowMappingStart =>
        skip
        keep number (.ofChildren [] (← flowChildren true budget))
      | next =>
        if next = some .entry && indentless then
          keep number (.sequence (← indentlessItems budget))
        else if next = some .sequenceStart && inBlock then
          skip
          keep number (.sequence (← blockItems budget))
        else if next = some .mappingStart && inBlock then
          skip
          keep number (.ofChildren [] (← blockChildren budget))
        else if number.isSome || tag.isSome then keep number (.ofScalar true tag "")
        else failure

/-- A node, or null if one of some tokens comes next. -/
def nodeUnless (absent : List Token) (inBlock indentless : Bool) : Nat → Reader Node
  | 0 => failure
  | budget + 1 => do
    if ← sees absent then return .null else node inBlock indentless budget

/-- The entries of a sequence with dashes, up to the end of its block. -/
def blockItems : Nat → Reader (List Node)
  | 0 => failure
  | budget + 1 => do
    if ← take? .blockEnd then return []
    else
      expect .entry
      let item ← nodeUnless [.entry, .blockEnd] true false budget
      return item :: (← blockItems budget)

/-- The entries of a sequence with dashes that is not indented. -/
def indentlessItems : Nat → Reader (List Node)
  | 0 => failure
  | budget + 1 => do
    if ← take? .entry then
      let item ← nodeUnless [.entry, .key, .value, .blockEnd] true false budget
      return item :: (← indentlessItems budget)
    else return []

/-- The keys and values of a mapping in turn, up to the end of its block. -/
def blockChildren : Nat → Reader (List Node)
  | 0 => failure
  | budget + 1 => do
    let absent : List Token := [.key, .value, .blockEnd]
    if ← take? .blockEnd then return []
    else
      let k ←
        if ← take? .key then nodeUnless absent true true budget
        else if ← sees [.value] then pure .null
        else failure
      let v ← if ← take? .value then nodeUnless absent true true budget else pure .null
      return k :: v :: (← blockChildren budget)

/-- The value of an entry in brackets, or null if there is none. -/
def flowValue (absent : List Token) : Nat → Reader Node
  | 0 => failure
  | budget + 1 => do
    if ← take? .value then nodeUnless absent false false budget else return .null

/-- The keys and values of a mapping in braces in turn, up to the closing brace. Commas stand
between the entries, and one may stand behind the last of them. -/
def flowChildren (isFirst : Bool) : Nat → Reader (List Node)
  | 0 => failure
  | budget + 1 => do
    if ← take? .flowMappingEnd then return []
    else
      unless isFirst do expect .flowEntry
      if ← take? .flowMappingEnd then return []
      else
        let (k, v) ←
          if ← take? .key then
            let k ← nodeUnless [.value, .flowEntry, .flowMappingEnd] false false budget
            pure (k, ← flowValue [.flowEntry, .flowMappingEnd] budget)
          else if ← sees [.value] then
            pure (Node.null, ← flowValue [.flowEntry, .flowMappingEnd] budget)
          else pure (← node false false budget, Node.null)
        return k :: v :: (← flowChildren false budget)

/-- The entries of a sequence in brackets, up to the closing one. An entry with a key is a mapping
of its own; if its key is empty, the token behind the mark of the key is passed over. -/
def flowItems (isFirst : Bool) : Nat → Reader (List Node)
  | 0 => failure
  | budget + 1 => do
    if ← take? .flowSequenceEnd then return []
    else
      unless isFirst do expect .flowEntry
      if ← take? .flowSequenceEnd then return []
      else
        let item ←
          if ← take? .key then
            let k ←
              if ← sees [.value, .flowEntry, .flowSequenceEnd] then
                skip
                pure Node.null
              else node false false budget
            let v ← flowValue [.flowEntry, .flowSequenceEnd] budget
            pure (Node.ofChildren [] [k, v])
          else node false false budget
        return item :: (← flowItems false budget)

end

/-! ## Documents -/

/-- The node of a document, behind its beginning. -/
def content (budget : Nat) : Reader Node := do
  match ← peek? with
  | none => return .null
  | some _ => nodeUnless [.directive, .documentStart, .documentEnd] true false budget

/-- The document in front. Directives demand that its beginning is marked. -/
def document (budget : Nat) : Reader Node := do
  if ← sees [.directive, .documentStart] then
    modify fun r => { r with tokens := r.tokens.dropWhile (· = .directive) }
    expect .documentStart
    content budget
  else node true false budget

end Reader

/-- The settings of the only document of a text, which is a mapping. A text without document defines
none. A text ends in front of a null character. -/
def parse? (text : String) : Option (Fields Setting) := do
  match ← tokens? (text.toList.takeWhile (· ≠ '\x00')) with
  | [] => return []
  | tokens =>
    let (node, rest) ← (Reader.document (4 * tokens.length + 4)).run { tokens := tokens }
    if rest.tokens.all (· = .documentEnd) then
      match ← node.toSetting? with
      | .table members => return members
      | _ => none
    else none

end Effects.Yaml
