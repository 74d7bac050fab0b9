import Effects.Yaml.Property
import Effects.Yaml.Scalar

/-!
# From text to tokens

The tokens of a text are found from left to right. Two things need memory. A block begins where a
line is indented more than the blocks around it, and all deeper blocks end where it is indented
less; so the columns of the open blocks are remembered. And a key may have no mark of its own: that
something is a key is known only at the colon behind it, so the place of what may turn out to be a
key is remembered, for every collection in brackets that is open.
-/

namespace Effects.Yaml

/-- What may turn out to be a key. -/
structure PendingKey where
  /-- The number of tokens in front of it. -/
  place : Nat
  /-- Where it begins. -/
  index : Nat
  /-- The line in which it begins. -/
  line : Nat
  /-- The column in which it begins. -/
  column : Nat
  /-- Whether it has to be a key. -/
  isRequired : Bool
deriving DecidableEq, Repr

/-- The most characters that may stand between the beginning of a key and its colon. -/
def maxKeyLength : Nat := 1024

/-- The most collections in brackets that may be open. -/
def maxFlowDepth : Nat := 255

/-- How far the tokens of a text have been found. -/
structure Layout where
  /-- The place up to which the text has been read. -/
  cursor : Cursor
  /-- The tokens. -/
  tokens : List Token := []
  /-- The columns of the open blocks, from the inside out. -/
  columns : List Nat := []
  /-- What may turn out to be a key in the innermost collection. -/
  pending : Option PendingKey := none
  /-- The same for the collections around it, if it is one in brackets. -/
  outer : List (Option PendingKey) := []
  /-- Whether a key may begin here. -/
  keyAllowed : Bool := true
  /-- Where the last quoted text ends: directly behind it a colon needs no gap. -/
  quoteEnd : Option Nat := none

namespace Layout

/-- Whether a collection in brackets is open. -/
def inFlow (l : Layout) : Bool := l.outer ≠ []

/-- Adds a token. -/
def emit (l : Layout) (t : Token) : Layout := { l with tokens := l.tokens ++ [t] }

/-- Adds a token of some characters. -/
def emitNext (l : Layout) (t : Token) (size : Nat) : Layout :=
  { l.emit t with cursor := l.cursor.forward size }

/-! ## Blocks -/

/-- Closes the blocks of some columns, from the inside out. -/
def close (l : Layout) (count : Nat) : Layout :=
  if l.inFlow then l
  else
    { l with
      tokens := l.tokens ++ List.replicate count .blockEnd
      columns := l.columns.drop count }

/-- Closes all blocks that stand in a higher column. -/
def closeTo (l : Layout) (column : Nat) : Layout :=
  l.close (l.columns.takeWhile (column < ·)).length

/-- Closes all blocks. -/
def closeAll (l : Layout) : Layout := l.close l.columns.length

/-- Opens a block in a column, if that is deeper than the blocks around it, with a token at some
place. -/
def openBlock (l : Layout) (column : Nat) (t : Token) (place : Nat) : Layout :=
  if l.inFlow || l.columns.head?.any (column ≤ ·) then l
  else { l with tokens := l.tokens.insertIdx place t, columns := column :: l.columns }

/-! ## Keys -/

/-- A pending key, unless it is too late for its colon. A key stands on one line. -/
def freshKey? (c : Cursor) : Option PendingKey → Option (Option PendingKey)
  | none => some none
  | some key =>
    if key.line < c.line || key.index + maxKeyLength < c.index then
      if key.isRequired then none else some none
    else some (some key)

/-- Forgets what cannot be a key any more. -/
def dropStale? (l : Layout) : Option Layout := do
  return { l with
    pending := ← freshKey? l.cursor l.pending
    outer := ← l.outer.mapM (freshKey? l.cursor) }

/-- Something that is no key follows: what is pending is no key. -/
def forgetKey? (l : Layout) : Option Layout :=
  if l.pending.any (·.isRequired) then none else some { l with pending := none }

/-- Something follows that may be a key, if a key is allowed here. -/
def expectKey? (l : Layout) : Option Layout :=
  if l.keyAllowed then do
    let c := l.cursor
    let isRequired := l.inFlow && l.columns.head? = some c.column
    return { ← l.forgetKey? with
      pending := some ⟨l.tokens.length, c.index, c.line, c.column, isRequired⟩ }
  else some l

/-! ## Tokens -/

/-- Passes over blanks, line breaks and comments. Outside of brackets a key may begin on a new line,
and a tab does not indent it. Every round takes a character, so a budget of the text's length is
never used up. -/
def skipGap : Nat → Layout → Layout
  | 0, l => l
  | budget + 1, l =>
    match l.cursor.text with
    | [] => l
    | c :: _ =>
      if c = ' ' || (c = '\t' && (l.inFlow || !l.keyAllowed)) then
        skipGap budget { l with cursor := l.cursor.next }
      else if isBreak c then
        skipGap budget
          { l with cursor := l.cursor.pastBreak, keyAllowed := l.keyAllowed || !l.inFlow }
      else if c = '#' then skipGap budget { l with cursor := l.cursor.pastComment }
      else l

/-- The beginning or the end of a document. -/
def marker? (l : Layout) (t : Token) : Option Layout := do
  return { (← l.closeAll.forgetKey?).emitNext t 3 with keyAllowed := false }

/-- A directive. -/
def directive? (l : Layout) : Option Layout := do
  let l ← l.closeAll.forgetKey?
  return { l.emit .directive with cursor := ← pastDirective? l.cursor, keyAllowed := false }

/-- An opening bracket or brace. -/
def openFlow? (l : Layout) (t : Token) : Option Layout := do
  let l ← l.expectKey?
  if l.outer.length < maxFlowDepth then
    return { l.emitNext t 1 with
      pending := none, outer := l.pending :: l.outer, keyAllowed := true }
  else none

/-- A closing bracket or brace. -/
def closeFlow? (l : Layout) (t : Token) : Option Layout := do
  let l := { (← l.forgetKey?).emitNext t 1 with keyAllowed := false }
  match l.outer with
  | [] => return l
  | key :: outer => return { l with pending := key, outer := outer }

/-- A comma. -/
def flowEntry? (l : Layout) : Option Layout := do
  return { (← l.forgetKey?).emitNext .flowEntry 1 with keyAllowed := true }

/-- The dash of an entry. -/
def entry? (l : Layout) : Option Layout := do
  if l.inFlow || !l.keyAllowed then none
  else
    let l ← (l.openBlock l.cursor.column .sequenceStart l.tokens.length).forgetKey?
    return { l.emitNext .entry 1 with keyAllowed := true }

/-- The question mark of a key. -/
def key? (l : Layout) : Option Layout := do
  if !l.inFlow && !l.keyAllowed then none
  else
    let l ← (l.openBlock l.cursor.column .mappingStart l.tokens.length).forgetKey?
    return { l.emitNext .key 1 with keyAllowed := !l.inFlow }

/-- The colon of a value. If a key is pending, it is one, and a block begins in its column. -/
def value? (l : Layout) : Option Layout :=
  match l.pending with
  | some key =>
    let l := { l with tokens := l.tokens.insertIdx key.place .key, pending := none }
    some { (l.openBlock key.column .mappingStart key.place).emitNext .value 1 with
      keyAllowed := false }
  | none =>
    if !l.inFlow && !l.keyAllowed then none
    else
      let l := l.openBlock l.cursor.column .mappingStart l.tokens.length
      some { l.emitNext .value 1 with keyAllowed := !l.inFlow }

/-- A tag, or the name of a node. -/
def property? (l : Layout) (read : Cursor → Option (Token × Cursor)) : Option Layout := do
  let l ← l.expectKey?
  let (t, c) ← read l.cursor
  return { l.emit t with cursor := c, keyAllowed := false }

/-- A block of lines, behind which a key may begin. -/
def block? (l : Layout) (folds : Bool) : Option Layout := do
  let l ← l.expectKey?
  let (text, c) ← Yaml.block? folds l.columns.head? l.cursor
  return { l.emit (.scalar false text) with cursor := c, keyAllowed := true }

/-- A quoted text. -/
def quoted? (l : Layout) (quote : Char) : Option Layout := do
  let l ← l.expectKey?
  let (text, c) ← Yaml.quoted? quote l.cursor
  return { l.emit (.scalar false text) with
    cursor := c, keyAllowed := false, quoteEnd := some c.index }

/-- A plain text. A key may begin behind it if it is the first thing on its line. -/
def plain? (l : Layout) : Option Layout := do
  let l ← l.expectKey?
  let column :=
    match l.columns with
    | [] => 0
    | column :: _ => column + 1
  let (text, isBroken, c) ← Yaml.plain? l.inFlow column l.cursor
  return { l.emit (.scalar true text) with cursor := c, keyAllowed := isBroken }

/-- Whether a colon here stands in front of a value: a gap follows it, or in brackets an indicator
follows it or a quoted text stands in front of it. -/
def isAtValue (l : Layout) : Bool :=
  endsWord (l.cursor.ahead? 1)
    || (l.inFlow && ((l.cursor.ahead? 1).any isFlow || l.quoteEnd = some l.cursor.index))

/-- The token that begins with a character. -/
def token? (l : Layout) (c : Char) : Option Layout :=
  let atWordEnd := endsWord (l.cursor.ahead? 1)
  if l.cursor.column = 0 && c = '%' then l.directive?
  else if l.cursor.isMarker '-' then l.marker? .documentStart
  else if l.cursor.isMarker '.' then l.marker? .documentEnd
  else
    match c with
    | '[' => l.openFlow? .flowSequenceStart
    | '\x7b' => l.openFlow? .flowMappingStart
    | ']' => l.closeFlow? .flowSequenceEnd
    | '\x7d' => l.closeFlow? .flowMappingEnd
    | ',' => l.flowEntry?
    | '*' => l.property? fun c => (nodeName? c).map fun (name, c) => (.alias name, c)
    | '&' => l.property? fun c => (nodeName? c).map fun (name, c) => (.anchor name, c)
    | '!' => l.property? tag?
    | '"' | '\x27' => l.quoted? c
    | '%' | '@' | '\x60' => none
    | '-' => if atWordEnd then l.entry? else l.plain?
    | '?' => if atWordEnd then l.key? else l.plain?
    | ':' => if l.isAtValue then l.value? else l.plain?
    | '|' => if l.inFlow then l.plain? else l.block? false
    | '>' => if l.inFlow then l.plain? else l.block? true
    | _ => l.plain?

/-- Finds all tokens. Every one that is not implied takes a character, so a budget of the text's
length is never used up. -/
def run? : Nat → Layout → Option Layout
  | 0, _ => none
  | budget + 1, l => do
    let l ← (l.skipGap (l.cursor.text.length + 1)).dropStale?
    let l := l.closeTo l.cursor.column
    match l.cursor.text with
    | [] => l.closeAll.forgetKey?
    | c :: _ => run? budget (← l.token? c)

end Layout

/-- The tokens of a text. -/
def tokens? (text : List Char) : Option (List Token) :=
  (Layout.run? (text.length + 1) { cursor := { text := text } }).map (·.tokens)

end Effects.Yaml
