import SchemaTypes.Printer
import SchemaTypes.TypeExpr.Basic

set_option autoImplicit false

/-! # The configuration of a run

What a run can be told: which database to read, where the module goes and how it is laid out, and
which types take the place of the usual ones.
-/

namespace SchemaTypes

/-- Types by key, in the order in which they were given. -/
abbrev Casts := List (String × TypeExpr)

/-- Which date and time types the driver yields as texts. -/
inductive DateStrings where
  | all (enabled : Bool)
  /-- The types with the given names. -/
  | only (names : List String)
  deriving DecidableEq, Repr

/-- The options of the application's driver that decide which values it yields. -/
structure PoolConfig where
  bigNumberStrings : Bool := false
  decimalNumbers : Bool := false
  supportBigNumbers : Bool := false
  jsonStrings : Bool := false
  dateStrings : DateStrings := .all false
  deriving DecidableEq, Repr

/-- What is special to a MySQL database. -/
structure MysqlConfig where
  /-- Types by full column type or by data type. -/
  typeCasts : Casts := []
  /-- What JSON columns hold, by `table.column`. -/
  jsonColumns : Casts := []
  pool : PoolConfig := {}
  /-- How many connections may be open at a time. -/
  poolSize : Nat := 10

/-- What is special to a SQLite database. -/
structure SqliteConfig where
  /-- Types by declared type or by affinity. -/
  typeCasts : Casts := []
  /-- Types by `table.column`. -/
  columnCasts : Casts := []
  /-- The driver yields integers as `bigint`. -/
  defaultSafeIntegers : Bool := false

/-- The configuration of a run. -/
structure GeneratorConfig where
  dialect : String
  databaseUrl : Option String := none
  outFile : Option String := none
  printer : PrinterOptions := {}
  mysql : MysqlConfig := {}
  sqlite : SqliteConfig := {}

end SchemaTypes
