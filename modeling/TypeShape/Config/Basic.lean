/-
The configuration: where files are looked for, how large they may be, how validators
are named, and what the server is called and logs.

A configuration is usable if its size limit is positive, its root is named and its
level of logging is a known one.
-/
import TypeShape.Fault
import TypeShape.Number.Literal

namespace TypeShape

/-- A configuration, usable or not. -/
structure Config where
  root : Text
  sizeLimit : SizeLimit
  suffix : Text
  serverName : Text
  logLevel : Text
deriving DecidableEq, Inhabited

namespace Config

/-- What holds where nothing else is said. -/
def standard : Config where
  root := "."
  sizeLimit := .whole 5
  suffix := ""
  serverName := "tsschema-validators"
  logLevel := "INFO"

-- ============================================================= validity

/-- The settings that make the configuration unusable, in the order of their fields. -/
def faults (c : Config) : List SettingFault :=
  (if c.sizeLimit.isPositive then [] else [.sizeLimit])
    ++ (if c.root.isEmpty then [.root] else [])
    ++ (if logLevels.elem c.logLevel then [] else [.logLevel])

/-- The configuration, if it is usable. -/
def validated (c : Config) : Except ConfigFault Config :=
  if c.faults.isEmpty then .ok c else .error (.invalid c.faults)

-- ============================================================== sources

/-- A table of environment variables. -/
abbrev Environment := List (Text × Text)

/-- The value of a variable, or a default. -/
def Environment.get (e : Environment) (name default : Text) : Text :=
  ((e.find? fun (n, _) => n == name).map (·.2)).getD default

/-- The configuration that the environment asks for. -/
def ofEnvironment (e : Environment) : Except ConfigFault Config :=
  let written := e.get "MAX_FILE_SIZE_MB" "5"
  match NumberLiteral.whole? written with
  | none => .error (.notWhole written)
  | some (.error number) => .error (.longNumber number)
  | some (.ok n) =>
    validated {
      root := e.get "MCP_FILE_ROOT" standard.root
      sizeLimit := .whole n
      suffix := e.get "VALIDATOR_NAME_SUFFIX" standard.suffix
      serverName := e.get "VALIDATOR_SERVER_NAME" standard.serverName
      logLevel := Text.upper (e.get "LOG_LEVEL" standard.logLevel) }

/-- A text setting: a missing value leaves it empty. -/
def textSetting : Json → Except Fault Text
  | .str s => .ok s
  | .null => .ok []
  | _ => .error .wrongArguments

/-- Change one setting, by its name. -/
def set (c : Config) (name : Text) (value : Json) : Except Fault Config :=
  if name = "project_root" then return { c with root := ← textSetting value }
  else if name = "max_file_size_mb" then
    match SizeLimit.ofJson? value with
    | some limit => .ok { c with sizeLimit := limit }
    | none => .error .wrongArguments
  else if name = "validator_name_suffix" then return { c with suffix := ← textSetting value }
  else if name = "server_name" then return { c with serverName := ← textSetting value }
  else if name = "log_level" then return { c with logLevel := ← textSetting value }
  else .error .wrongArguments

/-- Change settings one after another. -/
def setAll (c : Config) : List (Text × Json) → Except Fault Config
  | [] => .ok c
  | (name, value) :: rest => do setAll (← c.set name value) rest

/-- The usable configuration with the given settings and defaults for the others. -/
def ofSettings (settings : List (Text × Json)) : Except Fault Config := do
  (validated (← standard.setAll settings)).mapError .configuration

-- =============================================================== output

/-- The settings by their names. -/
def toJson (c : Config) : Json :=
  .obj [("project_root", .str c.root), ("max_file_size_mb", c.sizeLimit.toJson),
    ("validator_name_suffix", .str c.suffix), ("server_name", .str c.serverName),
    ("log_level", .str c.logLevel)]

end Config

end TypeShape
