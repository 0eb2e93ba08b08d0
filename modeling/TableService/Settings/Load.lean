/-
  Settings from a file and from the environment.

  * `Settings.defaults` hold where nothing else is said; a file is put over them, and the variables
    of `overrides` over the file.
  * `Settings.load?` gives the settings, unless the file has a fault or a value does not fit.
-/
import TableService.Settings.Environment
import TableService.Settings.Json
import TableService.Settings.Toml
import TableService.Settings.Yaml

namespace TableService

/-- The format of a file of settings. -/
inductive FileFormat where
  | json
  | yaml
  | toml
  deriving DecidableEq, Repr

namespace FileFormat

/-- The format that the extension of a name stands for. -/
def ofExtension? : String → Option FileFormat
  | "json" => some .json
  | "yaml" => some .yaml
  | "yml" => some .yaml
  | "toml" => some .toml
  | _ => none

/-- The entries of a file; a mark of the byte order at its front is passed over. -/
def entries? (format : FileFormat) (text : String) : Option (List (String × Settings.Tree)) :=
  let text := if text.toList.head? = some '\uFEFF' then String.ofList (text.toList.drop 1) else text
  match format with
  | .json => Settings.entriesOfJsonText? text
  | .yaml => Settings.entriesOfYamlText? text
  | .toml => Settings.entriesOfTomlText? text

end FileFormat

namespace Settings

/-- The port where none is given. -/
def defaultPort : Nat := 3000

/-- The settings that hold where nothing else is said. -/
def defaults : Tree :=
  .table
    [("database", .table
      [("type", .text "sqlite"), ("path", .text "./data/database.sqlite")]),
    ("server", .table [("host", .text "0.0.0.0"), ("port", .int defaultPort)]),
    ("schema", .table [("path", .text "./schema.yaml")]),
    ("localization", .table [("enable", .bool false), ("fallback_locale", .text "en")]),
    ("storage", .table [("enable", .bool false)]),
    ("auth", .table [("enable", .bool false)]),
    ("logging", .table [("level", .text "info")])]

/-- The port in the value of a variable; the default port in place of what is none. -/
def portOfText (text : String) : Tree :=
  .int ((wholeBelow? UInt16.size text.toList).getD defaultPort)

/-- A variable, where its value belongs, and how it is read. -/
def overrides : List (String × String × String × (String → Tree)) :=
  [("DATABASE_TYPE", "database", "type", .text),
    ("DATABASE_URL", "database", "url", .text),
    ("DATABASE_PATH", "database", "path", .text),
    ("HOST", "server", "host", .text),
    ("PORT", "server", "port", portOfText),
    ("SCHEMA_PATH", "schema", "path", .text),
    ("RUST_LOG", "logging", "level", .text)]

/-- Puts the variables that are set over a tree. -/
def override (env : Environment) (root : Tree) : Tree :=
  overrides.foldl (fun root (source, part, name, read) =>
    match env.get? source with
    | some value => Tree.put [.name part, .name name] (read value) root
    | none => root) root

/-- The settings of a service with these variables and this file, if there is one. -/
def load? (env : Environment) (file : Option (FileFormat × String)) : Option Settings := do
  let root ← match file with
    | none => some defaults
    | some (format, text) => (format.entries? text).map (Tree.addFile · defaults)
  ofTree? (override env root)

end Settings

end TableService
