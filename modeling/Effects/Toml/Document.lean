import Effects.Setting
import Effects.Toml.Scalar

/-!
# TOML documents

A document is a tree of tables that grows line by line: a header opens a table, a header in double
brackets adds a table to an array, and an assignment sets a key. Every table remembers how it came
to be, since that decides what may still be added to it: a table has one header, what dotted keys
have made is only extended by dotted keys, and a table that is written as a value is complete.

Tables keep their keys in the order in which these were set. The order matters in one case only: a
table that begins with the key `dateTimeKey` is another way to write a date or a time.
-/

namespace Effects.Toml

/-- How a table has come to be. -/
inductive Origin where
  /-- It has a header. -/
  | header
  /-- The header of a table below it names it. -/
  | parent
  /-- A dotted key names it. -/
  | dotted
  /-- It is written as a value. -/
  | inline
deriving DecidableEq, Repr

/-- What a key stands for. -/
inductive Entry where
  /-- A flag, a number or a text. -/
  | single (v : Setting)
  /-- A date, a time of day or both. -/
  | dateTime (text : String)
  /-- An array that is written as a value. -/
  | array (items : List Entry)
  /-- A table. -/
  | table (origin : Origin) (entries : List (String × Entry))
  /-- An array of tables with headers of their own, of which only the last one grows. -/
  | tables (earlier : List (List (String × Entry))) (last : List (String × Entry))

/-- The contents of a table, in the order in which they were set. -/
abbrev Entries := List (String × Entry)

namespace Entries

/-- Sets a key: in its place, or else behind all others. -/
def put (key : String) (entry : Entry) : Entries → Entries
  | [] => [(key, entry)]
  | (name, old) :: rest =>
    if name = key then (name, entry) :: rest else (name, old) :: put key entry rest

/-- Changes the table at the end of a path. Tables that are missing on the way are made. -/
def within (change : Entries → Option Entries) : List String → Entries → Option Entries
  | [], entries => change entries
  | key :: path, entries => do
    match entries.lookup key with
    | none => return entries.put key (.table .parent (← within change path []))
    | some (.table .inline _) => none
    | some (.table origin inner) =>
      return entries.put key (.table origin (← within change path inner))
    | some (.tables earlier last) =>
      return entries.put key (.tables earlier (← within change path last))
    | some _ => none

/-- Opens a table by its header. It must not have a header yet; a table that has only been named by
the header of another one moves behind all others. -/
def openTable (key : String) (entries : Entries) : Option Entries :=
  match entries.lookup key with
  | none => some (entries.put key (.table .header []))
  | some (.table .parent inner) =>
    some (put key (.table .header inner) (entries.filter fun entry => entry.1 ≠ key))
  | some _ => none

/-- Opens one more table of an array. -/
def openElement (key : String) (entries : Entries) : Option Entries :=
  match entries.lookup key with
  | none => some (entries.put key (.tables [] []))
  | some (.tables earlier last) => some (entries.put key (.tables (earlier ++ [last]) []))
  | some _ => none

/-- Sets a key that has not been set. -/
def define (key : String) (entry : Entry) (entries : Entries) : Option Entries :=
  match entries.lookup key with
  | none => some (entries.put key entry)
  | some _ => none

/-- Sets a key below the tables of a dotted path. A path leads through tables without header, and
the last of them has been made by a dotted key. -/
def assign (key : String) (entry : Entry) : List String → Entries → Option Entries
  | [], entries => define key entry entries
  | name :: path, entries => do
    match entries.lookup name with
    | none => return entries.put name (.table .dotted (← assign key entry path []))
    | some (.table .dotted inner) =>
      return entries.put name (.table .dotted (← assign key entry path inner))
    | some (.table .parent inner) =>
      if path = [] then none
      else return entries.put name (.table .parent (← assign key entry path inner))
    | some (.tables earlier last) =>
      if path = [] then none
      else return entries.put name (.tables earlier (← assign key entry path last))
    | some _ => none

end Entries

/-! ## Settings -/

/-- The first key of a table that stands for a date or a time. -/
def dateTimeKey : String := "$__toml_private_datetime"

mutual

/-- The setting that an entry stands for. -/
def Entry.toSetting? : Entry → Option Setting
  | .single v => some v
  | .dateTime text => some (.string text)
  | .array items => do return .array (← settingsOfItems? items)
  | .table _ entries => settingOfTable? entries
  | .tables earlier last => do
    return .array ((← settingsOfTables? earlier) ++ [← settingOfTable? last])

/-- The settings of the elements of an array. -/
def settingsOfItems? : List Entry → Option (List Setting)
  | [] => some []
  | item :: rest => do return (← item.toSetting?) :: (← settingsOfItems? rest)

/-- The setting that a table stands for. If it begins with `dateTimeKey`, the text at that key has
to be a date or a time, and nothing else in the table counts. -/
def settingOfTable? : List (String × Entry) → Option Setting
  | [] => some (.table [])
  | (key, first) :: rest =>
    if key = dateTimeKey then
      match first with
      | .single (.string text) => (dateTimeOfText? text).map .string
      | _ => none
    else do
      return .table (Fields.ofList ((key, ← first.toSetting?) :: (← settingsOfEntries? rest)))

/-- The settings of the entries of a table. -/
def settingsOfEntries? : List (String × Entry) → Option (List (String × Setting))
  | [] => some []
  | (key, entry) :: rest => do return (key, ← entry.toSetting?) :: (← settingsOfEntries? rest)

/-- The settings of the tables of an array. -/
def settingsOfTables? : List (List (String × Entry)) → Option (List Setting)
  | [] => some []
  | entries :: rest => do return (← settingOfTable? entries) :: (← settingsOfTables? rest)

end

end Effects.Toml
