import SchemaTypes.Proofs.Assembly.Imports
import SchemaTypes.Proofs.Catalog.Dialect

set_option autoImplicit false

/-! # From rows to declarations

Between the rows of a catalog and the declarations of a module nothing is lost, duplicated or
reordered: the database has one property for each table name, in the order in which the names first
appear, and the interface of a table has one property for each of its rows, in their order
(`declarations_of_rows`).
-/

namespace SchemaTypes

open Grouping

theorem Assembly.commentText_of_text? (comment : Option String) :
    commentText ((comment.map Cell.text).getD .null) = comment := by
  cases comment <;> rfl

namespace Dialect

/-- The property of the column that an entry describes. -/
def entryProperty (dialect : Dialect) (type : Entry → TypeExpr) (entry : Entry) : Property where
  name := entry.row.text "column_name"
  type := (type entry).text
  comment := dialect.columnComment entry.row

/-- The declarations of a table with the given class name and entries. -/
def entriesDeclarations (dialect : Dialect) (type : Entry → TypeExpr) (className : String)
    (entries : List Entry) : List Declaration :=
  [.interface { name := className ++ "Table"
                properties := entries.map (dialect.entryProperty type)
                comment := dialect.tableComment entries },
   .typeAlias { name := className, type := "Selectable<" ++ (className ++ "Table") ++ ">" },
   .typeAlias { name := "New" ++ className
                type := "Insertable<" ++ (className ++ "Table") ++ ">" },
   .typeAlias { name := className ++ "Update"
                type := "Updateable<" ++ (className ++ "Table") ++ ">" }]

variable {dialect : Dialect} {type : Entry → TypeExpr}

theorem commentText_columnOf {entry : Entry} (siblings : List Entry)
    (h : dialect.WellTyped entry.row) :
    Assembly.commentText (dialect.columnOf siblings entry).comment
      = dialect.columnComment entry.row := by
  cases dialect with
  | mysql =>
    have htyped : Mysql.WellTyped entry.row := h
    show Assembly.commentText (entry.row.cell "column_comment").orNull = _
    rw [htyped.columnComment.orNull_cell, Assembly.commentText_of_text?]
    rfl
  | sqlite => rfl

/-- A table has the comment that its first row gives. -/
theorem commentText_tableOfGroup {group : String × List Entry} (hne : group.2 ≠ [])
    (h : ∀ entry ∈ group.2, dialect.WellTyped entry.row) :
    Assembly.commentText (dialect.tableOfGroup group).comment = dialect.tableComment group.2 := by
  cases dialect with
  | mysql =>
    obtain ⟨name, _ | ⟨first, rest⟩⟩ := group
    · exact absurd rfl hne
    · have htyped : Mysql.WellTyped first.row := h first (by simp)
      show Assembly.commentText (first.row.cell "table_comment").orNull = _
      rw [htyped.tableComment.orNull_cell, Assembly.commentText_of_text?]
      rfl
  | sqlite => rfl

theorem tableDeclarations_typedTableOf (className : String → String) {group : String × List Entry}
    (hne : group.2 ≠ []) (h : ∀ entry ∈ group.2, dialect.WellTyped entry.row) :
    Assembly.tableDeclarations className (dialect.typedTableOf type group)
      = dialect.entriesDeclarations type (className group.1) group.2 := by
  have hproperties : (dialect.typedTableOf type group).columns.map Assembly.columnProperty
      = group.2.map (dialect.entryProperty type) := by
    rw [typedTableOf, List.map_map]
    refine List.map_congr_left ?_
    intro entry hentry
    show Property.mk _ _ _ = _
    rw [commentText_columnOf group.2 (h entry hentry)]
    rfl
  have hinterface : Assembly.tableInterface (className group.1) (dialect.typedTableOf type group)
      = { name := className group.1 ++ "Table"
          properties := group.2.map (dialect.entryProperty type)
          comment := dialect.tableComment group.2 } := by
    rw [Assembly.tableInterface, hproperties]
    show Interface.mk _ _ (Assembly.commentText (dialect.tableOfGroup group).comment) = _
    rw [commentText_tableOfGroup hne h]
    rfl
  show Declaration.interface (Assembly.tableInterface (className group.1) _) :: _ = _
  rw [hinterface]
  rfl

/-- The declarations of the tables of a catalog, table by table. -/
theorem flatMap_tableDeclarations (className : String → String) {entries : List Entry}
    (h : ∀ entry ∈ entries, dialect.WellTyped entry.row) :
    ((groups Entry.tableName (entries.filter (dialect.isCounted ·.row))).map
        (dialect.typedTableOf type)).flatMap (Assembly.tableDeclarations className)
      = (dialect.tableNames entries).flatMap fun name =>
        dialect.entriesDeclarations type (className name) (dialect.entriesOf entries name) := by
  have hgroup : ∀ group ∈ groups Entry.tableName (entries.filter (dialect.isCounted ·.row)),
      Assembly.tableDeclarations className (dialect.typedTableOf type group)
        = dialect.entriesDeclarations type (className group.1) group.2 := by
    intro group hgroup
    refine tableDeclarations_typedTableOf className (ne_nil_of_mem_groups hgroup) ?_
    intro entry hentry
    exact h entry (List.mem_filter.1 (mem_of_mem_groups hgroup hentry).1).1
  rw [List.flatMap_map, List.flatMap_congr hgroup, groups, List.flatMap_map]
  rfl

end Dialect

/-- What is declared for a catalog whose rows are well typed, whose enumerations have members and
whose columns have types. The rows of different tables may come in any order. -/
theorem Generation.declarations_of_rows (className : String → String) (dialect : Dialect)
    (config : GeneratorConfig) (server : Server) {entries : List Entry} {type : Entry → TypeExpr}
    (hrows : server.rows dialect.catalogQuery = .ok (entries.map Entry.row))
    (htyped : ∀ entry ∈ entries, dialect.WellTyped entry.row)
    (hmembers : dialect.AnswersMembers server entries)
    (htypes : ∀ entry ∈ entries, dialect.isCounted entry.row = true →
      (dialect.columnRules config).map entry.tableName
        (dialect.columnOf (dialect.entriesOf entries entry.tableName) entry) = .ok (type entry)) :
    ∃ tables declarations,
      (collect dialect config (dialect.client server)).outcome = .ok tables ∧
      Assembly.assemble className tables = .ok declarations ∧
      (Declaration.split declarations).2 =
        .interface
          { name := "Database"
            properties := (dialect.tableNames entries).map fun name =>
              { name, type := className name ++ "Table" } }
        :: (dialect.tableNames entries).flatMap (fun name =>
          dialect.entriesDeclarations type (className name) (dialect.entriesOf entries name)) ∧
      (dialect.tableNames entries).Nodup ∧
      ∀ name, name ∈ dialect.tableNames entries ↔
        ∃ entry ∈ entries, dialect.isCounted entry.row = true ∧ entry.tableName = name := by
  have hcollect := outcome_collect hrows htyped hmembers htypes
  have hnames : ∀ table ∈ (groups Entry.tableName (entries.filter (dialect.isCounted ·.row))).map
      (dialect.typedTableOf type), ∃ name, table.name = .text name := by
    intro table htable
    obtain ⟨group, _, rfl⟩ := List.mem_map.1 htable
    exact ⟨group.1, rfl⟩
  obtain ⟨declarations, c, hassemble, _, hsplit⟩ := Assembly.exists_assemble className hnames
  refine ⟨_, declarations, hcollect, hassemble, ?_, nodup_keys _ _,
    fun name => Dialect.mem_tableNames_iff⟩
  have hdatabase : Assembly.databaseInterface className
      ((groups Entry.tableName (entries.filter (dialect.isCounted ·.row))).map
        (dialect.typedTableOf type))
      = { name := "Database"
          properties := (dialect.tableNames entries).map fun name =>
            { name, type := className name ++ "Table" } } := by
    rw [Assembly.databaseInterface, groups, List.map_map, List.map_map]
    rfl
  rw [hsplit, Assembly.tablesDeclarations, hdatabase,
    Dialect.flatMap_tableDeclarations className htyped]

/-- A row of a MySQL catalog for a required column. -/
def Mysql.requiredColumn (table column columnType dataType : String) : Row :=
  [("table_schema", "shop"), ("table_name", table), ("table_type", "BASE TABLE"),
   ("table_comment", ""), ("column_name", column), ("column_type", columnType),
   ("data_type", dataType), ("is_nullable", "NO"), ("column_default", .null), ("extra", ""),
   ("column_comment", .null)]

/-- Rows of `users` with a row of `posts` between them, the last one that of an enumeration. -/
def Mysql.interleavedEntries : List Entry :=
  [{ row := requiredColumn "users" "id" "int" "int" },
   { row := requiredColumn "posts" "id" "int" "int" },
   { row := requiredColumn "users" "role" "enum('admin','member')" "ENUM"
     members := ["admin", "member"] }]

/-- A row of a SQLite catalog for a required column. -/
def Sqlite.requiredColumn (table column columnType : String) (hidden : Int) : Row :=
  [("table_name", table), ("table_type", "table"), ("table_sql", .null), ("column_name", column),
   ("column_type", columnType), ("not_null", .integer 1), ("column_default", .null),
   ("pk", .integer 0), ("hidden", .integer hidden)]

/-- Rows of `users` with a row of `posts` and one of a hidden column between them. -/
def Sqlite.interleavedEntries : List Entry :=
  [{ row := requiredColumn "users" "id" "INTEGER" 0 },
   { row := requiredColumn "posts" "id" "INTEGER" 0 },
   { row := requiredColumn "search" "rank" "REAL" 1 },
   { row := requiredColumn "users" "name" "TEXT" 0 }]

/-- A MySQL database with the rows above. -/
def Mysql.interleavedServer : Server :=
  .answering (interleavedEntries.map Entry.row) fun _ => [["admin", "member"]]

/-- A SQLite database with the rows above. -/
def Sqlite.interleavedServer : Server := .answering (interleavedEntries.map Entry.row)

/-- The rows of `users` come together; a table with hidden columns only is not there. -/
theorem Generation.declarations_of_interleaved_rows :
    (∃ tables declarations,
      (collect .mysql { dialect := "mysql" } (Mysql.client Mysql.interleavedServer)).outcome
        = .ok tables ∧
      Assembly.assemble Naming.classify tables = .ok declarations ∧
      (Declaration.split declarations).2.take 2 =
        [.interface { name := "Database"
                      properties := [{ name := "users", type := "UserTable" },
                        { name := "posts", type := "PostTable" }] },
         .interface { name := "UserTable"
                      properties := [{ name := "id", type := "number" },
                        { name := "role", type := "\"admin\" | \"member\"" }] }]) ∧
    ∃ tables declarations,
      (collect .sqlite { dialect := "sqlite" } (Sqlite.client Sqlite.interleavedServer)).outcome
        = .ok tables ∧
      Assembly.assemble Naming.classify tables = .ok declarations ∧
      (Declaration.split declarations).2.take 2 =
        [.interface { name := "Database"
                      properties := [{ name := "users", type := "UserTable" },
                        { name := "posts", type := "PostTable" }] },
         .interface { name := "UserTable"
                      properties := [{ name := "id", type := "number" },
                        { name := "name", type := "string" }] }] := by
  constructor
  · have htyped : ∀ entry ∈ Mysql.interleavedEntries, Mysql.WellTyped entry.row := by
      decide +kernel
    have henumerations : Mysql.enumerationEntries Mysql.interleavedEntries
        = [Mysql.interleavedEntries[2]] := rfl
    have hmembers : Mysql.AnswersMembers Mysql.interleavedServer Mysql.interleavedEntries := by
      rw [Mysql.AnswersMembers, henumerations]
      simp only [List.zipIdx_cons, List.forall_mem_cons]
      exact ⟨rfl, fun _ h => by cases h⟩
    have htypes : ∀ entry ∈ Mysql.interleavedEntries, Dialect.mysql.isCounted entry.row = true →
        (Dialect.mysql.columnRules { dialect := "mysql" }).map entry.tableName
          (Dialect.mysql.columnOf
            (Dialect.mysql.entriesOf Mysql.interleavedEntries entry.tableName) entry)
          = .ok (if entry.row.text "column_name" = "role" then
              .union [.stringLiteral "admin", .stringLiteral "member"] else TypeExpr.number) := by
      simp only [Mysql.interleavedEntries, List.forall_mem_cons]
      exact ⟨fun _ => rfl, fun _ => rfl, fun _ => rfl, fun _ h => by cases h⟩
    obtain ⟨tables, declarations, hcollect, hassemble, hsplit, _, _⟩ :=
      declarations_of_rows Naming.classify .mysql { dialect := "mysql" } Mysql.interleavedServer
        rfl htyped hmembers htypes
    refine ⟨tables, declarations, hcollect, hassemble, ?_⟩
    rw [hsplit]
    decide +kernel
  · have htyped : ∀ entry ∈ Sqlite.interleavedEntries, Sqlite.WellTyped entry.row := by
      decide +kernel
    have htypes : ∀ entry ∈ Sqlite.interleavedEntries, Dialect.sqlite.isCounted entry.row = true →
        (Dialect.sqlite.columnRules { dialect := "sqlite" }).map entry.tableName
          (Dialect.sqlite.columnOf
            (Dialect.sqlite.entriesOf Sqlite.interleavedEntries entry.tableName) entry)
          = .ok (if entry.row.text "column_name" = "name" then TypeExpr.string
              else TypeExpr.number) := by
      simp only [Sqlite.interleavedEntries, List.forall_mem_cons]
      exact ⟨fun _ => rfl, fun _ => rfl, fun _ => rfl, fun _ => rfl, fun _ h => by cases h⟩
    obtain ⟨tables, declarations, hcollect, hassemble, hsplit, _, _⟩ :=
      declarations_of_rows Naming.classify .sqlite { dialect := "sqlite" } Sqlite.interleavedServer
        rfl htyped trivial htypes
    refine ⟨tables, declarations, hcollect, hassemble, ?_⟩
    rw [hsplit]
    decide +kernel

end SchemaTypes
