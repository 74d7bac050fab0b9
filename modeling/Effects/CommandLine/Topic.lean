/-!
# What can be said on the command line

The program has three commands and one that explains them. A topic is a command or the program as a
whole: what can be given to it, and what is said about it. Reading a command line and explaining it
both go by these descriptions.
-/

namespace Effects.CommandLine

/-- Something with options and a help text of its own. -/
inductive Topic where
  /-- The program as a whole. -/
  | program
  /-- The command that handles a request. -/
  | request
  /-- The command that multiplies numbers. -/
  | multiply
  /-- The command that handles a request and shows its log. -/
  | collect
  /-- The command that explains the others. -/
  | help
deriving DecidableEq, Repr

/-- An option. -/
structure Switch where
  /-- The name, written after two dashes. -/
  name : String
  /-- What the value is called in help texts; a switch without value is a flag. -/
  value : Option String
  /-- Whether the option has to be given. -/
  required : Bool
  /-- What the option is for. -/
  about : String
deriving DecidableEq, Repr

/-- The name of the program. -/
def programName : String := "effectkit"

/-- The option that names the configuration file, which every command accepts. -/
def configSwitch : Switch :=
  ⟨"config", some "CONFIG", false, "Path to config file (overrides default search)"⟩

/-- The option for the cookie of a request. -/
def cookieSwitch : Switch :=
  ⟨"cookie", some "COOKIE", true, "Cookie to check against the configured secret"⟩

/-- The option that asks for help. -/
def helpSwitch : String := "help"

namespace Topic

/-- The word for a topic. -/
def word : Topic → String
  | program => programName
  | request => "request"
  | multiply => "multiply"
  | collect => "collect"
  | help => "help"

/-- What a topic is for. -/
def about : Topic → String
  | program => "Effectkit - run computations through swappable interpreters"
  | request => "Handle a request: log, check the cookie, load a record"
  | multiply => "Multiply numbers, exiting early on zero"
  | collect => "Handle a request with the collecting logger and print the logs"
  | help => "Print this message or the help of the given subcommand(s)"

/-- The options of a topic, apart from the one that asks for help. -/
def switches : Topic → List Switch
  | program => [configSwitch]
  | request =>
    [configSwitch, cookieSwitch, ⟨"id", some "ID", true, "Id of the record to load"⟩,
      ⟨"request-id", some "REQUEST_ID", false, "Request id (generated if omitted)"⟩,
      ⟨"instrument", none, false, "Log every store call and its result"⟩]
  | multiply => [configSwitch]
  | collect => [configSwitch, cookieSwitch]
  | help => []

/-- The option of a topic with a given name. -/
def switch? (topic : Topic) (name : String) : Option Switch :=
  topic.switches.find? fun switch => switch.name = name

/-- Whether numbers are given to a topic. -/
def takesNumbers : Topic → Bool
  | multiply => true
  | _ => false

/-- The commands below a topic. -/
def commands : Topic → List Topic
  | program => [request, multiply, collect, help]
  | _ => []

/-- The command below a topic that a word names. -/
def command? (topic : Topic) (word : String) : Option Topic :=
  topic.commands.find? fun command => command.word = word

end Topic

end Effects.CommandLine
