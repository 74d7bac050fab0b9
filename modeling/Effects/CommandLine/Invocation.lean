import Effects.CommandLine.Topic
import Effects.Decimal.Reading
import Effects.Fields

/-!
# Reading a command line

`Invocation.ofArguments` turns the arguments of the program into the job that they ask for, or says
why they do not. Arguments are read from left to right. What has been begun, an option without its
value or a row of numbers, stays open until the next option, and only then is it checked; so the
first mistake that is noticed is not always the leftmost one.
-/

namespace Effects.CommandLine

/-- What the program is asked to do. -/
inductive Job where
  /-- Handle a request for a record; without an identifier the request gets a fresh one. -/
  | request (cookie id : String) (requestId : Option String) (instrument : Bool)
  /-- Multiply numbers. -/
  | multiply (numbers : List Float)
  /-- Handle a request without a record and show its log. -/
  | collect (cookie : String)

/-- A job, and where the configuration for it is. -/
structure Invocation where
  /-- The path of the configuration file, if one is given. -/
  config : Option String
  /-- The job. -/
  job : Job

/-- Why a command line asks for no job. -/
inductive Refusal where
  /-- Help is asked for. -/
  | help (topic : Topic)
  /-- Nothing is given at all. -/
  | nothingGiven
  /-- There are options, but no command. -/
  | noCommand
  /-- A word that should be a command is none. -/
  | unknownCommand (word : String)
  /-- An argument that the command does not accept. -/
  | unknownArgument (argument : String)
  /-- An option is required, or numbers are. -/
  | missingArgument
  /-- An option lacks its value. -/
  | missingValue (name : String)
  /-- A flag is given a value. -/
  | unexpectedValue (name : String)
  /-- An option is given twice. -/
  | repeated (name : String)
  /-- A value is not a number. -/
  | notNumber
deriving DecidableEq, Repr

/-! ## Single arguments -/

/-- What an argument looks like. -/
inductive Shape where
  /-- Two dashes: only operands follow. -/
  | terminator
  /-- A long option, perhaps with a value after an equals sign. -/
  | long (name : String) (value : Option String)
  /-- One dash and letters. -/
  | short (letters : List Char)
  /-- Anything else. -/
  | word
deriving DecidableEq, Repr

/-- The shape of an argument. A single dash is a word. -/
def Shape.of (argument : String) : Shape :=
  match argument.toList with
  | ['-', '-'] => terminator
  | '-' :: '-' :: text =>
    match text.dropWhile (· ≠ '=') with
    | _ :: value => long (String.ofList (text.takeWhile (· ≠ '='))) (some (String.ofList value))
    | [] => long (String.ofList text) none
  | '-' :: c :: rest => short (c :: rest)
  | _ => word

/-- Whether the letters after a dash look like a number: digits, of which the first is followed by
at most one point and then at most one `e`, of either case; neither comes first, and the `e` not
last. -/
def looksNumeric (letters : List Char) : Bool :=
  let isExponent (c : Char) : Bool := c = 'e' || c = 'E'
  let (mantissa, exponent) :=
    (letters.takeWhile fun c => !isExponent c, letters.dropWhile fun c => !isExponent c)
  let (whole, fraction) := (mantissa.takeWhile (· ≠ '.'), mantissa.dropWhile (· ≠ '.'))
  let digits (text : List Char) : Bool := text.all Char.isDigit
  digits whole && digits (fraction.drop 1) && (fraction = [] || whole ≠ [])
    && (exponent = [] || (mantissa ≠ [] && exponent.drop 1 ≠ [] && digits (exponent.drop 1)))

/-! ## What has been given -/

/-- The options and numbers that have been checked. -/
structure Given where
  /-- The options, with their values; that of a flag is empty. -/
  options : Fields String := []
  /-- The numbers. -/
  numbers : List Float := []

/-- Whether anything has been given. -/
def Given.isEmpty (g : Given) : Bool := g.options.isEmpty && g.numbers.isEmpty

/-- Adds an option, which must not have been given before. -/
def Given.addOption (g : Given) (name value : String) : Except Refusal Given :=
  match g.options.get? name with
  | some _ => .error (.repeated name)
  | none => .ok { g with options := g.options.insert name value }

/-- Adds numbers. -/
def Given.addNumbers (g : Given) (texts : List String) : Except Refusal Given :=
  match texts.mapM Decimal.float? with
  | some numbers => .ok { g with numbers := g.numbers ++ numbers }
  | none => .error .notNumber

/-- What has been begun and not been checked yet. -/
inductive Begun where
  | nothing
  /-- An option, perhaps still without its value. -/
  | option (name : String) (value : Option String)
  /-- A row of numbers. -/
  | numbers (texts : List String)

/-- How far the arguments of a topic have been read. -/
structure Progress where
  /-- What has been checked. -/
  given : Given := {}
  /-- What has not. -/
  begun : Begun := .nothing

namespace Progress

/-- Checks what has been begun. -/
def settle (p : Progress) : Except Refusal Given :=
  match p.begun with
  | .nothing => .ok p.given
  | .option name none => .error (.missingValue name)
  | .option name (some value) => p.given.addOption name value
  | .numbers texts => p.given.addNumbers texts

/-- The option that still lacks its value. -/
def awaits? (p : Progress) : Option String :=
  match p.begun with
  | .option name none => some name
  | _ => none

/-- Takes a long option. -/
def long (p : Progress) (topic : Topic) (name : String) (value : Option String) :
    Except Refusal Progress :=
  if name = helpSwitch then
    match value with
    | some _ => .error (.unexpectedValue name)
    | none => do
      let _ ← p.settle
      .error (.help topic)
  else
    match topic.switch? name, value with
    | none, _ => .error (.unknownArgument ("--" ++ name))
    | some ⟨_, some _, _, _⟩, some value => return ⟨← (← p.settle).addOption name value, .nothing⟩
    | some ⟨_, some _, _, _⟩, none => return ⟨← p.settle, .option name none⟩
    | some ⟨_, none, _, _⟩, some _ => .error (.unexpectedValue name)
    | some ⟨_, none, _, _⟩, none => return ⟨← (← p.settle).addOption name "", .nothing⟩

/-- Takes letters after a dash, which can only ask for help. -/
def short (p : Progress) (topic : Topic) (letters : List Char) : Except Refusal Progress :=
  if letters.head? = some 'h' then do
    let _ ← p.settle
    .error (.help topic)
  else .error (.unknownArgument (String.ofList ('-' :: letters)))

/-- Takes an argument that is no option and no value of one. -/
def operand (p : Progress) (topic : Topic) (terminated : Bool) (argument : String) :
    Except Refusal Progress :=
  if topic.takesNumbers then
    match p.begun with
    | .numbers texts => .ok { p with begun := .numbers (texts ++ [argument]) }
    | _ => return ⟨← p.settle, .numbers [argument]⟩
  else if topic.commands = [] || (terminated && (topic.command? argument).isSome) then
    .error (.unknownArgument argument)
  else .error (.unknownCommand argument)

/-- Takes an argument before two dashes. -/
def argument (p : Progress) (topic : Topic) (argument : String) : Except Refusal Progress :=
  let word : Except Refusal Progress :=
    match p.awaits? with
    | some name => .ok { p with begun := .option name (some argument) }
    | none => p.operand topic false argument
  match Shape.of argument with
  | .long name value => p.long topic name value
  | .short letters =>
    if topic.takesNumbers && looksNumeric letters then word else p.short topic letters
  | _ => word

end Progress

/-! ## All arguments -/

/-- The help that is asked for by the words after `help`. -/
def helpOn (topic : Topic) : List String → Refusal
  | [] => .help topic
  | word :: rest =>
    match topic.command? word with
    | some command => helpOn command rest
    | none => .unknownCommand word

/-- Reads arguments of a topic after two dashes. -/
def readOperands (topic : Topic) (p : Progress) : List String → Except Refusal Progress
  | [] => .ok p
  | argument :: rest => do readOperands topic (← p.operand topic true argument) rest

/-- Reads arguments of a topic, up to a word for a command below it: that command and the arguments
after it are returned. -/
def readArguments (topic : Topic) (p : Progress) :
    List String → Except Refusal (Progress × Option (Topic × List String))
  | [] => .ok (p, none)
  | argument :: rest =>
    match if p.awaits?.isNone then topic.command? argument else none with
    | some .help => .error (helpOn topic rest)
    | some command => .ok (p, some (command, rest))
    | none =>
      match Shape.of argument with
      | .terminator => do return (← readOperands topic p rest, none)
      | _ => do readArguments topic (← p.argument topic argument) rest

/-- The job of a command. -/
def Job.ofGiven (command : Topic) (g : Given) : Except Refusal Job :=
  match command with
  | .request =>
    match g.options.get? "cookie", g.options.get? "id" with
    | some cookie, some id =>
      .ok (.request cookie id (g.options.get? "request-id") (g.options.get? "instrument").isSome)
    | _, _ => .error .missingArgument
  | .multiply => if g.numbers = [] then .error .missingArgument else .ok (.multiply g.numbers)
  | .collect =>
    match g.options.get? "cookie" with
    | some cookie => .ok (.collect cookie)
    | none => .error .missingArgument
  | _ => .error .noCommand

/-- The invocation that the arguments of the program write. A configuration file named after the
command goes before one named in front of it. -/
def Invocation.ofArguments (arguments : List String) : Except Refusal Invocation := do
  match ← readArguments .program {} arguments with
  | (outer, none) =>
    let given ← outer.settle
    if given.isEmpty then throw .nothingGiven else throw .noCommand
  | (outer, some (command, rest)) =>
    let (inner, _) ← readArguments command {} rest
    let given ← inner.settle
    let job ← Job.ofGiven command given
    let before ← outer.settle
    return ⟨(given.options.get? configSwitch.name).or (before.options.get? configSwitch.name), job⟩

end Effects.CommandLine
