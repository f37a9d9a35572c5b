import SchemaTypes.Catalog.Cell

set_option autoImplicit false

/-! # Tables left out

Kysely's migrator keeps its books in tables of its own, which are no part of a schema.
-/

namespace SchemaTypes

/-- The tables of the migrator. -/
def excludedTables : List String := ["kysely_migration", "kysely_migration_lock"]

/-- The tables of the migrator as parameters of a query. -/
def excludedCells : List Cell := excludedTables.map Cell.text

end SchemaTypes
