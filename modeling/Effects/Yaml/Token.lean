/-!
# Tokens of YAML

The parts into which a text falls before anything is known about its structure. Blocks that are only
marked by indentation have tokens for their beginning and their end too, and so do keys that have no
mark in the text.
-/

namespace Effects.Yaml

/-- A part of a text. -/
inductive Token where
  /-- A directive in front of a document. -/
  | directive
  /-- Three dashes: a document begins. -/
  | documentStart
  /-- Three points: a document ends. -/
  | documentEnd
  /-- A sequence begins whose entries stand below each other. -/
  | sequenceStart
  /-- A mapping begins whose entries stand below each other. -/
  | mappingStart
  /-- A sequence or mapping ends, since the indentation ends. -/
  | blockEnd
  /-- A dash: an entry of a sequence. -/
  | entry
  /-- An opening bracket. -/
  | flowSequenceStart
  /-- A closing bracket. -/
  | flowSequenceEnd
  /-- An opening brace. -/
  | flowMappingStart
  /-- A closing brace. -/
  | flowMappingEnd
  /-- A comma. -/
  | flowEntry
  /-- The key of an entry follows. -/
  | key
  /-- A colon: the value of an entry follows. -/
  | value
  /-- A name for the node that follows. -/
  | anchor (name : String)
  /-- The node with a name. -/
  | alias (name : String)
  /-- The type of the node that follows. -/
  | tag (handle suffix : String)
  /-- A text, and whether it stands without quotes on the lines of its surroundings. -/
  | scalar (isPlain : Bool) (text : String)
deriving DecidableEq, Repr

end Effects.Yaml
