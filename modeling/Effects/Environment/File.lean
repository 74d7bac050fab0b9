import Effects.Environment
import Effects.Text.Blank
import Effects.Text.Letter

/-!
# Files of environment variables

A file of assignments `NAME=value`, one a line, that supplement the environment. Values may be
quoted, quoted values may run over several lines, and `$NAME` or `${NAME}` stands for a variable.
Reading stops at the first line that is no assignment; what was assigned before it stays assigned.
-/

namespace Effects.Environment

/-! ## Lines -/

/-- Where a line of a file stands with respect to quotes, after each of its characters. -/
inductive Quoting where
  /-- Outside of quotes. -/
  | outside
  /-- Outside of quotes, after white space: a comment may begin here. -/
  | afterBlank
  /-- Outside of quotes, after a backslash. -/
  | escaped
  /-- Between apostrophes. -/
  | strong
  /-- Between apostrophes, after a backslash. -/
  | strongEscaped
  /-- Between quotes. -/
  | weak
  /-- Between quotes, after a backslash. -/
  | weakEscaped
deriving DecidableEq, Repr

/-- Outside of quotes, where a character leads. -/
def Quoting.opened (c : Char) : Quoting :=
  if c = '\\' then escaped else if c = '"' then weak else if c = '\x27' then strong else outside

/-- The state after a character. -/
def Quoting.after (c : Char) : Quoting → Quoting
  | outside => if Text.isBlank c && c ≠ '\n' && c ≠ '\r' then afterBlank else opened c
  | afterBlank => opened c
  | escaped => outside
  | strong => if c = '\\' then strongEscaped else if c = '\x27' then outside else strong
  | strongEscaped => strong
  | weak => if c = '\\' then weakEscaped else if c = '"' then outside else weak
  | weakEscaped => weak

/-- Follows a line. A comment ends it: what stands before it is returned as complete. -/
def Quoting.follow (q : Quoting) (read : List Char) : List Char → Quoting × List Char
  | [] => (q, read.reverse)
  | c :: rest =>
    if q = afterBlank && c = '#' then (outside, read.reverse)
    else Quoting.follow (q.after c) (c :: read) rest

/-- The lines of a text, each with its line end. -/
def physicalLines (line : List Char) : List Char → List (List Char)
  | [] => if line = [] then [] else [line.reverse]
  | c :: rest =>
    if c = '\n' then (c :: line).reverse :: physicalLines [] rest
    else physicalLines (c :: line) rest

/-- Joins lines while a quote is open. A line that is never completed is missing at the end. -/
def logicalLines (q : Quoting) (begun : List Char) :
    List (List Char) → List (Option (List Char))
  | [] => if q = .outside then [] else [none]
  | line :: rest =>
    if (Text.trimStart (begun ++ line)).head? = some '#' then
      some [] :: logicalLines .outside [] rest
    else
      match q.follow [] line with
      | (.outside, kept) => some (begun ++ kept) :: logicalLines .outside [] rest
      | (q, kept) => logicalLines q (begun ++ kept) rest

/-! ## Values -/

/-- Where a character of a value stands. -/
inductive Quotes where
  | none
  | strong
  | weak
deriving DecidableEq, Repr

/-- The character that stands after a backslash. -/
def escape? (c : Char) : Option Char :=
  if c = 'n' then some '\n'
  else if c = '\\' || c = '\x27' || c = '"' || c = '$' || c = ' ' then some c
  else Option.none

/-- The characters of names after a dollar sign. -/
def isNameChar (c : Char) : Bool := Text.isAlphanumeric c

/-- What follows a dollar sign: a name, the character after it that stands for itself, even if it is
a quote, and the rest. In braces any name may stand, without them only letters and digits, or
nothing. -/
def reference? (text : List Char) : Option (String × List Char × List Char) :=
  let name := text.takeWhile isNameChar
  match text.dropWhile isNameChar with
  | [] => some (String.ofList name, [], [])
  | c :: rest =>
    if name = [] && c = '\x7b' then
      match rest.dropWhile (· ≠ '\x7d') with
      | _ :: after => some (String.ofList (rest.takeWhile (· ≠ '\x7d')), [], after)
      | [] => Option.none
    else if c = '$' then some (String.ofList name, [], c :: rest)
    else some (String.ofList name, [c], rest)

theorem length_reference?_le {text literal rest : List Char} {name : String}
    (h : reference? text = some (name, literal, rest)) : rest.length ≤ text.length := by
  have dropped : (text.dropWhile isNameChar).length ≤ text.length :=
    (List.dropWhile_suffix _).length_le
  simp only [reference?] at h
  split at h
  · obtain ⟨-, -, rfl⟩ := by simpa using h
    simp
  · rename_i c tail eq
    rw [eq, List.length_cons] at dropped
    split at h
    · split at h
      · rename_i d after inner
        have closed : (tail.dropWhile (· ≠ '\x7d')).length ≤ tail.length :=
          (List.dropWhile_suffix _).length_le
        rw [inner, List.length_cons] at closed
        obtain ⟨-, -, rfl⟩ := by simpa using h
        omega
      · simp at h
    · split at h
      · obtain ⟨-, -, rfl⟩ := by simpa using h
        simpa using dropped
      · obtain ⟨-, -, rfl⟩ := by simpa using h
        omega

/-- A value, in which `lookup` tells what variables stand for. Outside of quotes a blank ends it,
and only a comment may follow. -/
def value? (lookup : String → List Char) (quotes : Quotes) : List Char → Option (List Char)
  | [] => if quotes = .none then some [] else Option.none
  | c :: text =>
    if quotes = .strong then
      if c = '\x27' then value? lookup .none text
      else (value? lookup .strong text).map (c :: ·)
    else if c = '$' then
      match _found : reference? text with
      | some (name, literal, rest) =>
        (value? lookup quotes rest).map fun read => lookup name ++ literal ++ read
      | Option.none => Option.none
    else if c = '\\' then
      match text with
      | [] => if quotes = .none then some [] else Option.none
      | d :: rest =>
        match escape? d with
        | some e => (value? lookup quotes rest).map (e :: ·)
        | Option.none => Option.none
    else if c = '"' then value? lookup (if quotes = .weak then .none else .weak) text
    else if quotes = .weak then (value? lookup .weak text).map (c :: ·)
    else if c = '\x27' then value? lookup .strong text
    else if c = ' ' || c = '\t' then
      match text.dropWhile fun c => c = ' ' || c = '\t' with
      | [] => some []
      | d :: _ => if d = '#' then some [] else Option.none
    else (value? lookup .none text).map (c :: ·)
termination_by text => text.length
decreasing_by
  all_goals simp only [List.length_cons]
  all_goals first
    | omega
    | exact Nat.lt_succ_of_le (length_reference?_le _found)

/-! ## Assignments -/

/-- Whether a character may start the name of a variable. -/
def startsName (c : Char) : Bool := c.isAlpha || c = '_'

/-- The name of a variable. -/
def variableName? (text : List Char) : Option (String × List Char) :=
  match text with
  | [] => Option.none
  | c :: _ =>
    if startsName c then
      let inName (c : Char) : Bool := c.isAlphanum || c = '_' || c = '.'
      some (String.ofList (text.takeWhile inName), text.dropWhile inName)
    else Option.none

/-- The text after an equals sign. -/
def afterEquals? (text : List Char) : Option (List Char) :=
  match Text.trimStart text with
  | '=' :: rest => some rest
  | _ => Option.none

/-- The name that is assigned to, and the text of its value. The word `export` may stand in front of
the name, and may be a name itself. -/
def target? (line : List Char) : Option (String × List Char) := do
  let (name, rest) ← variableName? line
  match afterEquals? rest with
  | some rest => return (name, Text.trimStart rest)
  | Option.none =>
    if name = "export" then
      let (name, rest) ← variableName? (Text.trimStart rest)
      return (name, Text.trimStart (← afterEquals? rest))
    else Option.none

/-- The environment while a file is read, with the values that the file has assigned so far. -/
structure Loading where
  /-- The variables. -/
  env : Environment
  /-- The last value that the file assigns to each name. -/
  assigned : Environment

/-- What a variable stands for: its value, or else the value that the file assigns to it, or else
nothing. -/
def Loading.lookup (l : Loading) (name : String) : List Char :=
  match l.env.get? name with
  | some value => value.toList
  | Option.none => ((l.assigned.get? name).getD "").toList

/-- Reads a line. Blank lines and comments change nothing. -/
def Loading.line? (l : Loading) (line : List Char) : Option Loading :=
  match Text.trimStart (Text.trimEnd line) with
  | [] => some l
  | '#' :: _ => some l
  | line => do
    let (name, text) ← target? line
    let value ← if text.head? = some '#' then some [] else value? l.lookup .none text
    let value := String.ofList value
    return ⟨l.env.supplement name value, l.assigned.insert name value⟩

/-- Reads lines up to the first that is no assignment. -/
def Loading.lines (l : Loading) : List (Option (List Char)) → Loading
  | some line :: rest =>
    match l.line? line with
    | some next => next.lines rest
    | Option.none => l
  | _ => l

/-- The environment supplemented by the assignments of a file. A byte order mark in front of the
text is dropped. -/
def withFile (env : Environment) (text : String) : Environment :=
  let chars :=
    match text.toList with
    | '\ufeff' :: rest => rest
    | chars => chars
  (Loading.lines ⟨env, []⟩ (logicalLines .outside [] (physicalLines [] chars))).env

end Effects.Environment
