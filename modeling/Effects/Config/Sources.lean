import Effects.Config.Basic
import Effects.Environment.File
import Effects.Ini
import Effects.Json.Reader
import Effects.Json5
import Effects.Ron.Reader
import Effects.Toml.Reader
import Effects.Yaml.Reader

/-!
# Sources of the configuration

A configuration is laid together from three sources: the defaults, a file and the environment. A
later source has the last word about each setting that it mentions. Which file is read is said by
the environment too, and the environment itself is supplemented by a file. Whoever loads a
configuration says how files are read, so nothing here touches a disk.
-/

namespace Effects

/-- Why there is no configuration. -/
inductive ConfigError where
  /-- The file is not well formed. -/
  | unreadable
  /-- A setting is missing or cannot be understood. -/
  | invalid
deriving DecidableEq, Repr

/-- The text of an error. -/
def ConfigError.message : ConfigError → String
  | unreadable => "Failed to read configuration"
  | invalid => "Invalid configuration"

namespace Config

/-! ## Files -/

/-- The format of a configuration file. -/
inductive FileFormat where
  | toml
  | json
  | yaml
  | ini
  | ron
  | json5
deriving DecidableEq, Repr

/-- How deeply arrays and objects may be nested in a configuration file in JSON. -/
def maxJsonNesting : Nat := 127

namespace FileFormat

/-- The formats, in the order in which files are looked for. -/
def all : List FileFormat := [toml, json, yaml, ini, ron, json5]

/-- The endings of the names of files in a format. -/
def extensions : FileFormat → List String
  | toml => ["toml"]
  | json => ["json"]
  | yaml => ["yaml", "yml"]
  | ini => ["ini"]
  | ron => ["ron"]
  | json5 => ["json5"]

/-- The settings that a text in a format defines. -/
def parse? (format : FileFormat) (text : String) : Option (Fields Setting) :=
  match format with
  | toml => Toml.parse? text
  | json =>
    match (Json.parseWithin? maxJsonNesting text).map Setting.ofJson with
    | some (.table members) => some members
    | _ => none
  | yaml => Yaml.parse? text
  | ini => Ini.parse? text
  | ron => Ron.parse? text
  | json5 => Json5.parse? text

end FileFormat

/-- What follows the last point in the name of a file, if anything stands in front of that point. -/
def extensionOf? (path : String) : Option String :=
  let name := path.toList.reverse.takeWhile (· ≠ '/')
  let extension := name.takeWhile (· ≠ '.')
  match name.dropWhile (· ≠ '.') with
  | '.' :: _ :: _ => some (String.ofList extension.reverse)
  | _ => none

/-- The format of the file at a path. -/
def formatOf? (path : String) : Option FileFormat :=
  FileFormat.all.find? fun format => format.extensions.any fun name => extensionOf? path = some name

/-- The paths that prolong a path by the ending of a format. What is prolonged is the last name on
the path; slashes and single points behind it do not count. -/
def prolongations (path : String) : List (FileFormat × String) :=
  match (path.splitOn "/").reverse.dropWhile fun name => name = "" || name = "." with
  | [] => []
  | name :: above =>
    if name = ".." then []
    else
      let stem := "/".intercalate (name :: above).reverse
      FileFormat.all.flatMap fun format =>
        format.extensions.map fun ending => (format, stem ++ "." ++ ending)

/-- A configuration file. -/
structure SourceFile where
  /-- Its format. -/
  format : FileFormat
  /-- What stands in it. -/
  text : String

/-- The settings that a file defines. A byte order mark in front is dropped. -/
def SourceFile.settings? (file : SourceFile) : Option (Fields Setting) :=
  match file.text.toList with
  | '\ufeff' :: rest => file.format.parse? (String.ofList rest)
  | _ => file.format.parse? file.text

/-- The first of some files that can be read. -/
def firstFile? {m : Type → Type} [Monad m] (read : String → m (Option String)) :
    List (FileFormat × String) → m (Option SourceFile)
  | [] => return none
  | (format, path) :: rest => do
    match ← read path with
    | some text => return some ⟨format, text⟩
    | none => firstFile? read rest

/-- Finds the configuration file at a path, or else at the path prolonged by the ending of a format.
A file whose name says no format is passed over. -/
def find? {m : Type → Type} [Monad m] (read : String → m (Option String)) (path : String) :
    m (Option SourceFile) := do
  match ← read path with
  | some text => return (formatOf? path).map fun format => ⟨format, text⟩
  | none => firstFile? read (prolongations path)

/-! ## Settings -/

/-- What holds where no source says anything else. -/
def defaults : Setting :=
  .table [("log_filter", .string defaultLogFilter), ("secret", .string "SECRET"),
    ("store", .table [("latency_ms", .integer 0), ("retries", .integer defaultRetries)])]

/-- The settings of a store. -/
def storeOfSetting? (s : Setting) : Option StoreConfig := do
  match ← s.parts? ["latency_ms", "retries", "records"] with
  | [latency, retries, records] =>
    return ⟨← partOr (Setting.natural? Decimal.maxNatural64) 0 latency,
      ← partOr (Setting.natural? Decimal.maxNatural32) defaultRetries retries,
      ← partOr Setting.texts? [] records⟩
  | _ => none

/-- The settings of the program. -/
def ofSetting? (s : Setting) : Option Config := do
  match ← s.parts? ["secret", "log_filter", "store"] with
  | [some secret, filter, store] =>
    return ⟨← secret.text?, ← partOr Setting.text? defaultLogFilter filter,
      ← partOr storeOfSetting? ⟨0, 0, []⟩ store⟩
  | _ => none

/-- The configuration that the defaults, a file and an environment give. -/
def ofSources (file : Option SourceFile) (env : Environment) : Except ConfigError Config := do
  let settings ←
    match file with
    | none => pure []
    | some file =>
      match file.settings? with
      | some settings => pure settings
      | none => throw .unreadable
  match ofSetting? ((defaults.overlay settings).overlay env.settings) with
  | some config => return config
  | none => throw .invalid

/-! ## Loading -/

/-- The variable that names the configuration file. -/
def pathVariable : String := "EFFECTKIT_CONFIG_PATH"

/-- The configuration file where none is named. -/
def defaultPath : String := "effectkit.toml"

/-- The file of further environment variables. -/
def environmentFile : String := ".env"

/-- The environment in which the configuration is looked for: a path given by the caller goes before
one in the environment, and the file of variables supplements it. -/
def environment {m : Type → Type} [Monad m] (read : String → m (Option String))
    (path? : Option String) (env : Environment) : m Environment := do
  let env :=
    match path? with
    | some path => env.insert pathVariable path
    | none => env
  match ← read environmentFile with
  | some text => return env.withFile text
  | none => return env

/-- Loads the configuration. -/
def load {m : Type → Type} [Monad m] (read : String → m (Option String)) (path? : Option String)
    (env : Environment) : m (Except ConfigError Config) := do
  let env ← environment read path? env
  return ofSources (← find? read ((env.get? pathVariable).getD defaultPath)) env

end Config

end Effects
