import Effects.Text.CodePoint
import Effects.Yaml.Cursor

/-!
# Texts in YAML

A text is plain, in quotes, or a block of lines. Plain and quoted texts are folded: a line break
between two words is a space, and of several line breaks the first does not count. A block keeps its
lines, or folds them if they are not indented any further.
-/

namespace Effects.Yaml

/-! ## Folding -/

/-- What separates two words. -/
structure Gap where
  /-- The number of its characters. -/
  size : Nat
  /-- The blanks in front of the first line break. -/
  blanks : List Char
  /-- The number of line breaks. -/
  breaks : Nat
deriving DecidableEq, Repr

namespace Gap

/-- Nothing between two words. -/
def none : Gap := ⟨0, [], 0⟩

/-- The number of line breaks in a text. A carriage return and a line feed are one. -/
def countBreaks : List Char → Nat
  | '\r' :: '\n' :: rest => countBreaks rest + 1
  | c :: rest => if isBreak c then countBreaks rest + 1 else countBreaks rest
  | [] => 0

/-- The gap in front of a text. -/
def ofText (text : List Char) : Gap :=
  let spaces := text.takeWhile isSpace
  ⟨spaces.length, spaces.takeWhile isBlank, countBreaks spaces⟩

/-- What a gap stands for in a folded text. -/
def folded (g : Gap) : List Char :=
  match g.breaks with
  | 0 => g.blanks
  | 1 => [' ']
  | n + 1 => List.replicate n '\n'

/-- Whether a tab indents a line of a gap: it stands behind a line break, in front of a column. -/
def hasTab (g : Gap) (c : Cursor) (column : Nat) : Bool :=
  (List.range g.size).any fun i =>
    let here := c.forward i
    here.ahead? 0 = some '\t' && here.column < column && (c.text.take i).any isBreak

end Gap

/-! ## Plain texts -/

/-- The word in front of a text. A colon ends it only in front of a gap, and in a collection in
brackets the indicators of such collections end it too. -/
def word (inFlow : Bool) : List Char → List Char
  | [] => []
  | c :: rest =>
    if isSpace c then []
    else if c = ':' && (endsWord rest.head? || (inFlow && rest.head?.any isFlow)) then []
    else if inFlow && isFlow c then []
    else c :: word inFlow rest

/-- Reads the words of a plain text, of which the next one stands behind a gap that has been read.
It ends in front of a comment or a document, and outside of brackets where a line is not indented up
to `column`. The result says whether a line break is the last that has been read. Every word or gap
takes a character, so a budget of the text's length is never used up. -/
def words? (inFlow : Bool) (column : Nat) :
    Nat → Gap → Cursor → Option (List Char × Bool × Cursor)
  | 0, _, _ => none
  | budget + 1, before, c =>
    if c.isAtDocument || c.ahead? 0 = some '#' then some ([], before.breaks ≠ 0, c)
    else
      let w := word inFlow c.text
      let read := if w = [] then [] else before.folded ++ w
      let after := c.forward w.length
      let gap := Gap.ofText after.text
      if gap.size = 0 then some (read, w = [] && before.breaks ≠ 0, after)
      else if gap.hasTab after column then none
      else
        let rest := after.forward gap.size
        if !inFlow && rest.column < column then some (read, gap.breaks ≠ 0, rest)
        else (words? inFlow column budget gap rest).map fun (more, read') => (read ++ more, read')

/-- A plain text, and whether a line break is the last that has been read. -/
def plain? (inFlow : Bool) (column : Nat) (c : Cursor) : Option (String × Bool × Cursor) :=
  (words? inFlow column (c.text.length + 1) .none c).map fun (read, isBroken, c) =>
    (String.ofList read, isBroken, c)

/-! ## Quoted texts -/

/-- The character that stands after a backslash, and how many characters write it. -/
def escape? : List Char → Option (Char × Nat)
  | [] => none
  | c :: rest =>
    match c with
    | '0' => some ('\x00', 1)
    | 'a' => some ('\x07', 1)
    | 'b' => some ('\x08', 1)
    | 't' | '\t' => some ('\t', 1)
    | 'n' => some ('\n', 1)
    | 'v' => some ('\x0b', 1)
    | 'f' => some ('\x0c', 1)
    | 'r' => some ('\r', 1)
    | 'e' => some ('\x1b', 1)
    | ' ' | '"' | '\x27' | '\\' => some (c, 1)
    | 'N' => some ('\u0085', 1)
    | '_' => some ('\u00a0', 1)
    | 'L' => some ('\u2028', 1)
    | 'P' => some ('\u2029', 1)
    | 'x' => (Text.codePoint? 2 rest).map fun c => (c, 3)
    | 'u' => (Text.codePoint? 4 rest).map fun c => (c, 5)
    | 'U' => (Text.codePoint? 8 rest).map fun c => (c, 9)
    | _ => none

/-- Puts characters in front of a text that has been read. -/
def prepend (front : List Char) (read : Option (List Char × Cursor)) :
    Option (List Char × Cursor) :=
  read.map fun (text, c) => (front ++ text, c)

/-- Reads a quoted text up to its closing quote. Between apostrophes only an apostrophe has a
meaning, and two of them stand for one. A backslash at the end of a line joins the line to the next
one. Every call takes a character, so a budget of the text's length is never used up. -/
def quotedFrom? (quote : Char) : Nat → Cursor → Option (List Char × Cursor)
  | 0, _ => none
  | budget + 1, c =>
    match c.text with
    | [] => none
    | ch :: rest =>
      if c.isAtDocument then none
      else if ch = quote then
        if quote = '\x27' && rest.head? = some '\x27' then
          prepend [quote] (quotedFrom? quote budget (c.forward 2))
        else some ([], c.next)
      else if quote = '"' && ch = '\\' then
        if rest.head?.any isBreak then
          let c := c.next.pastBreak
          let gap := Gap.ofText c.text
          prepend (List.replicate gap.breaks '\n') (quotedFrom? quote budget (c.forward gap.size))
        else
          match escape? rest with
          | some (escaped, used) =>
            prepend [escaped] (quotedFrom? quote budget (c.forward (used + 1)))
          | none => none
      else if isSpace ch then
        let gap := Gap.ofText c.text
        prepend gap.folded (quotedFrom? quote budget (c.forward gap.size))
      else prepend [ch] (quotedFrom? quote budget c.next)

/-- A quoted text from its opening quote on. -/
def quoted? (quote : Char) (c : Cursor) : Option (String × Cursor) :=
  (quotedFrom? quote c.text.length c.next).map fun (read, c) => (String.ofList read, c)

/-! ## Blocks of lines -/

/-- What becomes of the line breaks at the end of a block. -/
inductive Chomping where
  /-- One is kept. -/
  | clip
  /-- None is kept. -/
  | strip
  /-- All are kept. -/
  | keep
deriving DecidableEq, Repr

/-- The chomping that a character asks for. -/
def Chomping.ofChar? (c : Char) : Option Chomping :=
  if c = '+' then some keep else if c = '-' then some strip else none

/-- The indentation that a digit asks for, or zero without a digit. -/
def increment? (c : Cursor) : Option (Nat × Cursor) :=
  match c.ahead? 0 with
  | some ch =>
    if ch = '0' then none
    else if ch.isDigit then some (Decimal.digitValue ch, c.next)
    else some (0, c)
  | none => some (0, c)

/-- What stands behind the mark of a block: chomping and indentation, in any order. -/
def header? (c : Cursor) : Option (Chomping × Nat × Cursor) := do
  match (c.ahead? 0).bind Chomping.ofChar? with
  | some chomping => return (chomping, ← increment? c.next)
  | none =>
    let (increment, c) ← increment? c
    match (c.ahead? 0).bind Chomping.ofChar? with
    | some chomping => return (chomping, increment, c.next)
    | none => return (.clip, increment, c)

/-- Passes over empty lines and the indentation of the next line, which is as deep as it can be, or
`column` deep: the number of the lines, and the deepest column on the way. A tab in the indentation
is a fault. Every round takes a line break, so a budget of the text's length is never used up. -/
def margin? (column : Option Nat) : Nat → Nat → Nat → Cursor → Option (Nat × Nat × Cursor)
  | 0, _, _, _ => none
  | budget + 1, breaks, deepest, c =>
    let spaces := (c.text.takeWhile (· = ' ')).length
    let depth :=
      match column with
      | none => spaces
      | some n => min spaces (n - c.column)
    let c := c.forward depth
    let isInside :=
      match column with
      | none => true
      | some n => c.column < n
    if isInside && c.ahead? 0 = some '\t' then none
    else if (c.ahead? 0).any isBreak then
      margin? column budget (breaks + 1) (max deepest c.column) c.pastBreak
    else some (breaks, max deepest c.column, c)

/-- The line breaks between two lines of a block: `empty` lines stand between them, and neither line
is indented any further if `isFolded` says so. -/
def lineGap (isFolded : Bool) (empty : Nat) : List Char :=
  if isFolded then if empty = 0 then [' '] else List.replicate empty '\n'
  else List.replicate (empty + 1) '\n'

/-- The line breaks at the end of a block: that of the last line, if it has one, and those of
`empty` lines. -/
def ending (chomping : Chomping) (isBroken : Bool) (empty : Nat) : List Char :=
  match chomping with
  | .clip => if isBroken then ['\n'] else []
  | .strip => []
  | .keep => (if isBroken then ['\n'] else []) ++ List.replicate empty '\n'

/-- Reads the lines of a block from the first that is not empty on, which stand in a column. `empty`
lines stand in front of the next one, and `isIndented` says whether the line in front of these
begins with a blank, if there is one. Every line takes a character, so a budget of the text's length
is never used up. -/
def lines? (folds : Bool) (chomping : Chomping) (column : Nat) :
    Nat → Option Bool → Nat → Cursor → Option (List Char × Cursor)
  | 0, _, _, _ => none
  | budget + 1, isIndented, empty, c =>
    match c.ahead? 0 with
    | none => some (ending chomping isIndented.isSome empty, c)
    | some ch =>
      if c.column ≠ column then some (ending chomping isIndented.isSome empty, c)
      else do
        let front :=
          match isIndented with
          | none => List.replicate empty '\n'
          | some indented => lineGap (folds && !indented && !isBlank ch) empty
        let line := c.text.takeWhile fun ch => !isBreak ch
        let c := c.forward line.length
        if c.text = [] then return (front ++ line, c)
        else
          let (empty, _, c) ← margin? (some column) (c.text.length + 1) 0 0 c.pastBreak
          let (more, c) ← lines? folds chomping column budget (some (isBlank ch)) empty c
          return (front ++ line ++ more, c)

/-- A block from its mark on, in a surrounding block that stands in the column `parent`, if there is
one. Its lines are indented as the header says, or else as the first of them is, and deeper than the
surroundings. -/
def block? (folds : Bool) (parent : Option Nat) (c : Cursor) : Option (String × Cursor) := do
  let (chomping, increment, c) ← header? c.next
  let c ← c.nextLine?
  let column? := if increment = 0 then none else some (parent.getD 0 + increment)
  let (empty, deepest, c) ← margin? column? (c.text.length + 1) 0 0 c
  let least :=
    match parent with
    | none => 1
    | some n => n + 1
  let (read, c) ←
    lines? folds chomping (column?.getD (max deepest least)) (c.text.length + 1) none empty c
  return (String.ofList read, c)

end Effects.Yaml
