/-!
# Places in a text

In YAML the column in which something stands matters, so a text is read with a cursor that knows its
place. The characters are sorted by what they separate: blanks and line breaks stand between words,
and flow indicators between the parts of a collection in brackets.
-/

namespace Effects.Yaml

/-! ## Characters -/

/-- Blanks within a line. -/
def isBlank (c : Char) : Bool := c = ' ' || c = '\t'

/-- Line breaks. -/
def isBreak (c : Char) : Bool := c = '\n' || c = '\r'

/-- Whatever separates words. -/
def isSpace (c : Char) : Bool := isBlank c || isBreak c

/-- The indicators between the parts of a collection in brackets. -/
def isFlow (c : Char) : Bool := c = ',' || c = '[' || c = ']' || c = '\x7b' || c = '\x7d'

/-- The characters of the names of anchors, tag handles and directives. -/
def isNameChar (c : Char) : Bool := c.isAlphanum || c = '_' || c = '-'

/-- Whether a word ends in front of a character, or in front of the end of the text. -/
def endsWord : Option Char → Bool
  | none => true
  | some c => isSpace c

/-- Whether a line ends in front of a character, or in front of the end of the text. -/
def endsLine : Option Char → Bool
  | none => true
  | some c => isBreak c

/-! ## Cursors -/

/-- A place in a text: what follows, and how many characters, line feeds and characters of the line
stand in front. -/
structure Cursor where
  /-- The text from here on. -/
  text : List Char
  /-- The number of characters in front. -/
  index : Nat := 0
  /-- The number of line feeds in front. -/
  line : Nat := 0
  /-- The number of characters since the last line feed. -/
  column : Nat := 0
deriving DecidableEq, Repr

namespace Cursor

/-- The character at some distance. -/
def ahead? (c : Cursor) (distance : Nat) : Option Char := c.text[distance]?

/-- The place behind the next character. -/
def next (c : Cursor) : Cursor :=
  match c.text with
  | [] => c
  | '\n' :: rest => ⟨rest, c.index + 1, c.line + 1, 0⟩
  | _ :: rest => ⟨rest, c.index + 1, c.line, c.column + 1⟩

/-- The place at some distance. -/
def forward (c : Cursor) : Nat → Cursor
  | 0 => c
  | distance + 1 => c.next.forward distance

/-- The place behind all next characters of a kind. -/
def past (c : Cursor) (isKind : Char → Bool) : Cursor := c.forward (c.text.takeWhile isKind).length

/-- The place behind a line break, if there is one. A carriage return and a line feed are one. -/
def pastBreak (c : Cursor) : Cursor :=
  match c.text with
  | '\r' :: '\n' :: _ => c.forward 2
  | ch :: _ => if isBreak ch then c.next else c
  | [] => c

/-- The place behind a comment, if there is one. -/
def pastComment (c : Cursor) : Cursor :=
  if c.ahead? 0 = some '#' then c.past fun ch => !isBreak ch else c

/-- The beginning of the next line, if nothing but blanks and a comment stands in front of it. -/
def nextLine? (c : Cursor) : Option Cursor :=
  let c := (c.past isBlank).pastComment
  if endsLine (c.ahead? 0) then some c.pastBreak else none

/-- Whether a word of three equal characters stands at the beginning of a line. -/
def isMarker (c : Cursor) (ch : Char) : Bool :=
  c.column = 0 && c.text.take 3 = [ch, ch, ch] && endsWord (c.ahead? 3)

/-- Whether a document begins or ends here. -/
def isAtDocument (c : Cursor) : Bool := c.isMarker '-' || c.isMarker '.'

end Cursor

end Effects.Yaml
