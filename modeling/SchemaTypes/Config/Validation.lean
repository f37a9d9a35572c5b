import SchemaTypes.Config.Basic
import SchemaTypes.Config.Scalar

set_option autoImplicit false

/-! # Validating a configuration

A configuration is an object with known fields. Fields that are not known are passed over, missing
ones get their defaults, and every issue of every field is reported, in the order in which the
records declare their fields.
-/

namespace SchemaTypes

namespace Value

variable {α β : Type}

/-- A field that may be missing. -/
def optionalField (fields : List (String × Value)) (name : String) (default : α)
    (read : Value → Checked α) : Checked α :=
  match fields.lookup name with
  | some v => (read v).within (.key name)
  | none => .ok default

/-- A field that has to be there. -/
def requiredField (fields : List (String × Value)) (name : String) (read : Value → Checked α) :
    Checked α :=
  match fields.lookup name with
  | some v => (read v).within (.key name)
  | none => (Checked.broken .required).within (.key name)

/-- An object whose fields make up the record with the given name. -/
def readRecord (name : String) (read : List (String × Value) → Checked α) : Value → Checked α
  | .object fields => read fields
  | _ => .broken (.record name)

/-- Types by key. -/
def readCasts : Value → Checked Casts
  | .object fields =>
    Checked.sequence (fields.map fun (key, v) =>
      Checked.within (.key key) (v.readType.map (key, ·)))
  | _ => .broken .dictionary

def readIndentStyle : Value → Checked IndentStyle
  | .text s =>
    if s = "tab" then .ok .tab else if s = "space" then .ok .space else .broken .indentStyle
  | _ => .broken .indentStyle

/-- A list of names or a truth value. If it is neither, the issues of both readings are reported. -/
def readDateStrings (v : Value) : Checked DateStrings :=
  match v.readStrings, v.readBool with
  | .ok names, _ => .ok (.only names)
  | _, .ok enabled => .ok (.all enabled)
  | .error listIssues, .error boolIssues =>
    .error (boolIssues.map (Issue.within (.key "bool"))
      ++ listIssues.map (Issue.within (.key "list[str]")))

end Value

namespace PrinterOptions

def ofFields (fields : List (String × Value)) : Checked PrinterOptions :=
  Checked.apply (Checked.apply (Checked.apply (.ok PrinterOptions.mk)
    (Value.optionalField fields "indent_style" .space Value.readIndentStyle))
    (Value.optionalField fields "indent_width" 2 (Value.readAtLeast 0)))
    (Value.optionalField fields "semicolons" true Value.readBool)

def ofValue : Value → Checked PrinterOptions := Value.readRecord "PrinterOptions" ofFields

end PrinterOptions

namespace PoolConfig

def ofFields (fields : List (String × Value)) : Checked PoolConfig :=
  Checked.apply (Checked.apply (Checked.apply (Checked.apply (Checked.apply (.ok PoolConfig.mk)
    (Value.optionalField fields "big_number_strings" false Value.readBool))
    (Value.optionalField fields "decimal_numbers" false Value.readBool))
    (Value.optionalField fields "support_big_numbers" false Value.readBool))
    (Value.optionalField fields "json_strings" false Value.readBool))
    (Value.optionalField fields "date_strings" (.all false) Value.readDateStrings)

def ofValue : Value → Checked PoolConfig := Value.readRecord "PoolConfig" ofFields

end PoolConfig

namespace MysqlConfig

def ofFields (fields : List (String × Value)) : Checked MysqlConfig :=
  Checked.apply (Checked.apply (Checked.apply (Checked.apply (.ok MysqlConfig.mk)
    (Value.optionalField fields "type_casts" [] Value.readCasts))
    (Value.optionalField fields "json_columns" [] Value.readCasts))
    (Value.optionalField fields "pool" {} PoolConfig.ofValue))
    (Value.optionalField fields "pool_size" 10 (Value.readAtLeast 1))

def ofValue : Value → Checked MysqlConfig := Value.readRecord "MysqlConfig" ofFields

end MysqlConfig

namespace SqliteConfig

def ofFields (fields : List (String × Value)) : Checked SqliteConfig :=
  Checked.apply (Checked.apply (Checked.apply (.ok SqliteConfig.mk)
    (Value.optionalField fields "type_casts" [] Value.readCasts))
    (Value.optionalField fields "column_casts" [] Value.readCasts))
    (Value.optionalField fields "default_safe_integers" false Value.readBool)

def ofValue : Value → Checked SqliteConfig := Value.readRecord "SqliteConfig" ofFields

end SqliteConfig

namespace GeneratorConfig

/-- The configuration with the given fields. -/
def ofFields (fields : List (String × Value)) : Checked GeneratorConfig :=
  Checked.apply (Checked.apply (Checked.apply (Checked.apply (Checked.apply (Checked.apply
    (.ok GeneratorConfig.mk)
    (Value.requiredField fields "dialect" Value.readString))
    (Value.optionalField fields "database_url" none Value.readString?))
    (Value.optionalField fields "out_file" none Value.readString?))
    (Value.optionalField fields "printer" {} PrinterOptions.ofValue))
    (Value.optionalField fields "mysql" {} MysqlConfig.ofValue))
    (Value.optionalField fields "sqlite" {} SqliteConfig.ofValue)

end GeneratorConfig

end SchemaTypes
