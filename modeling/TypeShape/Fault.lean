/-
What can go wrong, by cause. The wording of every message is in one place, and a
message never decides anything.
-/
import TypeShape.Config.SizeLimit
import TypeShape.Json.Display
import TypeShape.Json.Reader

namespace TypeShape

-- ========================================================= configuration

/-- A setting that a configuration cannot have. -/
inductive SettingFault
  | sizeLimit
  | root
  | logLevel
deriving DecidableEq

/-- The levels of logging. -/
def logLevels : List Text :=
  ["DEBUG", "INFO", "WARNING", "ERROR", "CRITICAL"]

/-- The wording of a setting's fault. -/
def SettingFault.message : SettingFault → Text
  | .sizeLimit => "max_file_size_mb must be positive"
  | .root => "project_root cannot be empty"
  | .logLevel => "log_level must be one of " ++ Json.display (.arr (logLevels.map .str))

/-- Why there is no configuration. -/
inductive ConfigFault
  | notWhole (written : Text)
  | longNumber (number : LongNumber)
  | invalid (settings : List SettingFault)
deriving DecidableEq

/-- The wording of a configuration's fault; a long text is cut. -/
def ConfigFault.message : ConfigFault → Text
  | .notWhole written =>
    "invalid literal for int() with base 10: " ++ (Json.showText written).take 200
  | .longNumber number => number.message
  | .invalid settings =>
    "Invalid configuration: " ++ Text.join ", " (settings.map SettingFault.message)

-- ============================================================ loose data

/-- What keeps loose data from being the body of a declaration. -/
inductive ShapeFault
  | propertyNotObject (value : Json)
  | nameNotText (value : Json)
  | typeNotText (name : Text) (value : Json)
  | propertiesNotList (value : Json)

/-- The wording of a shape's fault. -/
def ShapeFault.message : ShapeFault → Text
  | .propertyNotObject v => "property must be an object, got " ++ v.kindName
  | .nameNotText v => "property name must be a string, got " ++ v.display
  | .typeNotText name v =>
    "type of property \"" ++ name ++ "\" must be a string, got " ++ v.display
  | .propertiesNotList v => "properties must be a list, got " ++ v.kindName

/-- What keeps loose data from being declarations. -/
inductive Malformed
  | declaration (item : Json)
  | body (name : Text) (fault : ShapeFault)
  | file (item : Json)
  | notJson (fault : Json.ReadFault)
  | notFiles (value : Json)

/-- The wording for malformed data. -/
def Malformed.message : Malformed → Text
  | .declaration item =>
    "Validator for declaration \"" ++ item.display ++ "\" not implemented"
  | .body name fault =>
    "Validator for declaration \"" ++ name ++ "\" not implemented: " ++ fault.message
  | .file item => "Validator for file \"" ++ item.display ++ "\" not implemented"
  | .notJson fault => "Invalid declarations JSON: " ++ fault.message
  | .notFiles value => "Declarations JSON must be a list of files, got " ++ value.kindName

-- ================================================================= files

/-- Why a source file gives no declarations. -/
inductive FileFault
  | missing
  | tooLarge (limit : SizeLimit)
  | directory
  | unparsable (line : Nat)

/-- The wording of a file's fault. -/
def FileFault.message (path : Text) : FileFault → Text
  | .missing => "File not found: " ++ path
  | .tooLarge limit => "File exceeds size limit (" ++ limit.toJson.display ++ "MB): " ++ path
  | .directory => "Cannot read file: [Errno 21] Is a directory: " ++ Json.showText path
  | .unparsable line => "Syntax error at line " ++ Nat.toDigits 10 line

/-- The code of a file's fault. -/
def FileFault.code : FileFault → Text
  | .missing => "NOT_FOUND"
  | .tooLarge _ => "FILE_TOO_LARGE"
  | .directory => "PERMISSION_DENIED"
  | .unparsable _ => "PARSE_ERROR"

/-- The line of a file's fault, if it has one. -/
def FileFault.line? : FileFault → Option Nat
  | .unparsable line => some line
  | _ => none

-- ============================================================ parameters

/-- Why a parameter given as JSON text is not what its declaration asks for. -/
inductive ParameterFault
  | unread (parameter : Text) (why : Json.Stop Json.ReadFault)
  | wrongKind (parameter wanted : Text) (value : Json)

/-- Whether what is meant is left out, so that neither a value nor a fault is told. -/
def ParameterFault.isLeftOut : ParameterFault → Bool
  | .unread _ .unpaired => true
  | _ => false

/-- The wording of a parameter's fault; only a flaw is announced as one of the parameter. -/
def ParameterFault.message : ParameterFault → Text
  | .unread parameter (.flaw fault) =>
    "Invalid JSON in parameter '" ++ parameter ++ "': " ++ fault.message
  | .unread _ why => why.message
  | .wrongKind parameter wanted value =>
    "Parameter '" ++ parameter ++ "' must be a " ++ wanted ++ ", got " ++ value.kindName
      ++ " from JSON"

-- ================================================================= tasks

/-- The tasks that tools are asked for. -/
inductive Task
  | exporting
  | generating
deriving DecidableEq

/-- How a failed task is announced. -/
def Task.announcement : Task → Text
  | .exporting => "Failed to export declarations: "
  | .generating => "Failed to generate validators: "

/-- Everything that can go wrong. -/
inductive Fault
  | unresolvable (rawType : Text)
  | malformed (what : Malformed)
  | noFiles (patterns : List Text)
  | unreadable (path : Text) (why : FileFault)
  | noDeclaration (literal : Text)
  | configuration (what : ConfigFault)
  | parameter (what : ParameterFault)
  | notNumber
  | wrongArguments
  | notPattern
  | nullCharacter
  | longNumber (number : LongNumber)
  /-- A text is left out, since it tells of a surrogate without its partner. -/
  | unpaired
  | failed (task : Task) (cause : Fault)
  | nothingGiven

/-- The message of a fault; some faults have none. -/
def Fault.message : Fault → Text
  | .unresolvable raw => "Validator not implemented for TS type \"" ++ raw ++ "\""
  | .malformed what => what.message
  | .noFiles patterns => "No files found for " ++ Json.display (.arr (patterns.map .str))
  | .unreadable path why =>
    "Error occurred while preprocessing file \"" ++ path ++ "\": " ++ why.message path
  | .noDeclaration literal =>
    "Unexpected error while processing declaration: \"" ++ literal ++ "\""
  | .configuration what => what.message
  | .parameter what => what.message
  | .nullCharacter => "embedded null byte"
  | .longNumber number => number.message
  | .failed task cause => task.announcement ++ cause.message
  | .nothingGiven => "Either glob_patterns or declarations_json is required"
  | .notNumber => []
  | .wrongArguments => []
  | .notPattern => []
  | .unpaired => []

/-- Faults of generation, which tools report as their own; others pass through. -/
def Fault.isGeneration : Fault → Bool
  | .unresolvable _ | .malformed _ | .noFiles _ | .unreadable _ _ | .noDeclaration _ => true
  | _ => false

end TypeShape
