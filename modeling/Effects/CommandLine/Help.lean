import Effects.CommandLine.Topic

/-!
# Help texts

The explanation of a topic: what it is for, how it is called, and one line for each command, number
and option, in two columns.
-/

namespace Effects.CommandLine

/-- A part of a help text: a title, and lines of two columns. -/
structure HelpSection where
  /-- The title. -/
  title : String
  /-- Each line: what is written on the command line, and what it means. -/
  entries : List (String × String)

namespace HelpSection

/-- The width of the first column. -/
def width (s : HelpSection) : Nat := (s.entries.map fun e => e.1.length).foldl max 0

/-- A line of two columns. -/
def line (width : Nat) (entry : String × String) : String :=
  "  " ++ entry.1.pushn ' ' (width - entry.1.length) ++ "  " ++ entry.2 ++ "\n"

/-- The text of a section; one without entries has none. -/
def text (s : HelpSection) : String :=
  if s.entries = [] then ""
  else "\n" ++ s.title ++ ":\n" ++ String.join (s.entries.map (line s.width))

end HelpSection

/-- An option as it is written on the command line. -/
def Switch.usage (s : Switch) : String :=
  "--" ++ s.name ++ (match s.value with | some value => " <" ++ value ++ ">" | none => "")

namespace Topic

/-- What is given to a topic besides options: how it is written, and what it is. -/
def operands : Topic → List (String × String)
  | multiply => [("<NUMBERS>...", "Numbers to multiply")]
  | help => [("[COMMAND]...", "Print help for the subcommand(s)")]
  | _ => []

/-- How a topic is called: its words, the options that may be given, those that have to, and the
rest. -/
def usage (topic : Topic) : String :=
  let words := if topic = program then [programName] else [programName, topic.word]
  let optional := if topic.switches.any fun s => !s.required then ["[OPTIONS]"] else []
  let required := (topic.switches.filter fun s => s.required).map Switch.usage
  let command := if topic.commands = [] then [] else ["<COMMAND>"]
  " ".intercalate (words ++ optional ++ required ++ topic.operands.map (·.1) ++ command)

/-- The lines for the options of a topic. Long names stand below each other. -/
def optionEntries (topic : Topic) : List (String × String) :=
  if topic = help then []
  else topic.switches.map (fun s => ("    " ++ s.usage, s.about))
    ++ [("-h, --" ++ helpSwitch, "Print help")]

/-- The help text of a topic. -/
def helpText (topic : Topic) : String :=
  topic.about ++ "\n\nUsage: " ++ topic.usage ++ "\n"
    ++ (HelpSection.mk "Commands" (topic.commands.map fun c => (c.word, c.about))).text
    ++ (HelpSection.mk "Arguments" topic.operands).text
    ++ (HelpSection.mk "Options" topic.optionEntries).text

end Topic

end Effects.CommandLine
