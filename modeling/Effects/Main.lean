import Effects.CommandLine.Execution

/-!
# The command-line program

Reads files, the environment and random bytes, and prints what `CommandLine.execute` decides.
-/

namespace Effects.CommandLine

/-- Two hexadecimal digits. -/
def hexByte (b : UInt8) : String :=
  String.ofList [Json.hexDigit (b.toNat / 16), Json.hexDigit (b.toNat % 16)]

/-- The text of a random identifier of sixteen bytes: five groups of digits, in which the version
and the variant are fixed. -/
def identifier (bytes : List UInt8) : String :=
  let fixed := bytes.mapIdx fun i b =>
    if i = 6 then (b &&& 0x0F) ||| 0x40 else if i = 8 then (b &&& 0x3F) ||| 0x80 else b
  let group (start size : Nat) : String := String.join (((fixed.drop start).take size).map hexByte)
  "-".intercalate [group 0 4, group 4 2, group 6 2, group 8 2, group 10 6]

/-- The variable that a line `NAME=value` sets. -/
def variableOf? (line : String) : Option (String × String) :=
  match line.toList.dropWhile (· ≠ '=') with
  | _ :: value => some (String.ofList (line.toList.takeWhile (· ≠ '=')), String.ofList value)
  | [] => none

/-- The contents of a file, if it can be read. -/
def contents (path : String) : IO (Option String) := do
  try return some (← IO.FS.readFile path)
  catch _ => return none

/-- The variables that the program was started with. -/
def environment : IO Environment := do
  let lines := ((← contents "/proc/self/environ").getD "").splitOn "\x00"
  return .ofList (lines.filterMap variableOf?)

/-- Lets some milliseconds pass. -/
def pause (ms : Nat) : IO Unit := do
  for _ in [0 : ms / 1000000000] do
    IO.sleep 1000000000
  IO.sleep (UInt32.ofNat (ms % 1000000000))

end Effects.CommandLine

open Effects Effects.CommandLine

/-- Runs the program on its arguments. -/
def main (arguments : List String) : IO UInt32 := do
  let env ← environment
  let freshId := identifier (← IO.getRandomBytes 16).toList
  let exit ← execute contents env freshId arguments
  pause exit.elapsed
  for event in exit.events do IO.eprintln event.line
  unless exit.complaint.isEmpty do IO.eprintln exit.complaint
  IO.print exit.output
  return UInt32.ofNat exit.code
