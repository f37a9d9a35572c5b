import SchemaTypes.Catalog.Cell
import SchemaTypes.Config.Issue

set_option autoImplicit false

/-! # Errors of the generator

The reasons for which the generator itself gives up. Each is fatal for its run: a run yields a
complete module or nothing. An error has a code, a message and details for programs that read it.
-/

namespace SchemaTypes

/-- What can be wrong with the configuration of a run. -/
inductive ConfigError where
  /-- No config file in a directory or any directory above it. -/
  | notLocated (directory : String)
  | notFound (path : String)
  /-- A file whose name says that it is no config file. -/
  | notLoadable (path : String)
  | invalid (path : String) (issues : List Issue)
  /-- The file raised an exception with the given name and text. -/
  | failed (path exception text : String)
  | undefined (path : String)
  | unexpectedType (path type : String)
  | noDatabaseUrl
  deriving DecidableEq, Repr

/-- Why a run of the generator failed. -/
inductive GeneratorError where
  | unsupportedDialect (dialect : String)
  /-- A column with a data type for which there is no rule. -/
  | unknownDataType (dataType table column : Cell)
  /-- Two default imports were asked for from one module. -/
  | importConflict (specifier existing requested : String)
  /-- The printer was given a declaration of a kind that it does not know. -/
  | unknownDeclarationKind (kind : String)
  | config (error : ConfigError)
  deriving DecidableEq, Repr

/-- The name of the config file that is searched for. -/
def configFileName : String := "kysqlgen_config.py"

namespace ConfigError

/-- The message of an error. What validation found is not part of it. -/
def message : ConfigError → String
  | .notLocated _ => "Unable to locate config file " ++ configFileName
  | .notFound path => "Config file not found: " ++ path
  | .notLoadable path => "Unable to load config file " ++ path
  | .invalid path _ => "Invalid config in " ++ path
  | .failed path exception text =>
    "Failed to load config file " ++ path ++ ": " ++ exception ++ ": " ++ text
  | .undefined path => "Config file " ++ path ++ " does not define 'config'"
  | .unexpectedType path type => "Unexpected config type " ++ type ++ " in " ++ path
  | .noDatabaseUrl =>
    "No database URL configured. Set database_url in the config file or the " ++
      "KYSQLGEN_DATABASE_URL environment variable."

def details : ConfigError → List (String × String)
  | .notLocated directory => [("cwd", directory)]
  | .notFound path => [("path", path)]
  | .notLoadable path => [("path", path)]
  | .invalid path _ => [("path", path)]
  | .failed path exception _ => [("path", path), ("error", exception)]
  | .undefined path => [("path", path)]
  | .unexpectedType path _ => [("path", path)]
  | .noDatabaseUrl => []

end ConfigError

namespace GeneratorError

/-- The code of errors that belong to no class of their own. -/
def generalCode : String := "KYSQLGEN_ERROR"

/-- The code of the errors of a configuration. -/
def configCode : String := "CONFIG_ERROR"

def code : GeneratorError → String
  | .unsupportedDialect _ => "UNSUPPORTED_ENGINE"
  | .unknownDataType _ _ _ => "UNKNOWN_DATA_TYPE"
  | .importConflict _ _ _ => "IMPORT_CONFLICT"
  | .unknownDeclarationKind _ => "UNKNOWN_DECLARATION_KIND"
  | .config _ => configCode

def message : GeneratorError → String
  | .unsupportedDialect dialect => "Unsupported dialect: " ++ dialect
  | .unknownDataType dataType table column =>
    "Unknown data type " ++ dataType.shown ++ " for column " ++ table.shown ++ "." ++ column.shown
  | .importConflict specifier existing requested =>
    "Conflicting default imports for \"" ++ specifier ++ "\": \"" ++ existing ++ "\", \""
      ++ requested ++ "\""
  | .unknownDeclarationKind kind => "Unknown declaration kind: " ++ kind
  | .config error => error.message

def details : GeneratorError → List (String × Cell)
  | .unsupportedDialect dialect => [("dialect", dialect)]
  | .unknownDataType dataType table column =>
    [("data_type", dataType), ("table", table), ("column", column)]
  | .importConflict specifier existing requested =>
    [("module_specifier", specifier), ("existing", existing), ("requested", requested)]
  | .unknownDeclarationKind kind => [("kind", kind)]
  | .config error => error.details.map fun (name, text) => (name, text)

end GeneratorError

end SchemaTypes
