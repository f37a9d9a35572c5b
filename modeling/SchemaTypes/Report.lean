import SchemaTypes.Config.Value
import SchemaTypes.GeneratorError

set_option autoImplicit false

/-! # Reports of errors

An error as structured output: code, message and details. An error may also be reported that belongs
to no class of its own; what it says is then up to the one who reports it.
-/

namespace SchemaTypes

structure Report where
  code : Value
  message : Value
  details : Value

namespace Report

/-- Details unless there are none to speak of. -/
def detailsOf (details : Value) : Value := if details.isTruthy then details else .object []

/-- The report of an error outside the classes, with a code of its own if one is given. -/
def general (message : Value) (code : Option Value) (details : Value) : Report :=
  { code := code.getD (.text GeneratorError.generalCode), message, details := detailsOf details }

/-- The report of an error of a configuration. -/
def config (message : Value) (details : Value) : Report :=
  { code := .text GeneratorError.configCode, message, details := detailsOf details }

/-- The report of an error of the generator that tells of the given values. -/
def ofError (error : GeneratorError) (details : List (String × Value)) : Report :=
  { code := .text error.code, message := .text error.message, details := .object details }

/-- A name of a dialect that is not supported. -/
def unsupportedDialect (dialect : Value) : Report :=
  ofError (.unsupportedDialect dialect.shown) [("dialect", dialect)]

/-- A data type for which there is no rule. -/
def unknownDataType (dataType table column : Value) : Report :=
  ofError (.unknownDataType dataType.shown table.shown column.shown)
    [("data_type", dataType), ("table", table), ("column", column)]

/-- Two default imports from one module. -/
def importConflict (specifier existing requested : Value) : Report :=
  ofError (.importConflict specifier.shown existing.shown requested.shown)
    [("module_specifier", specifier), ("existing", existing), ("requested", requested)]

/-- A kind that no declaration has. -/
def unknownDeclarationKind (kind : Value) : Report :=
  ofError (.unknownDeclarationKind kind.shown) [("kind", .text kind.shown)]

end Report

end SchemaTypes
