import SchemaTypes.Proofs.Catalog.Layout
import SchemaTypes.Proofs.Catalog.Sqlite

set_option autoImplicit false

/-! # Row numbers and the layout of definitions

Whether a table has row numbers is read off the text that defines it, by a search for the two words
of the option with one space between them (`columnAt?_withSql`). White space outside quotes may be
laid out otherwise without a change of what is defined. Then the two words are still found in quotes
wherever they were, but outside quotes only where the space between them is a single one.

The main statement is `reports_eq_iff_of_layout`: of two texts of one layout the same is reported
for the key of the table exactly if none of the two alone has the option without showing the words
of it one space apart. Not all texts of one layout are alike in that (`not_forall_reports_eq`).
-/

namespace SchemaTypes

namespace Row

variable {row : Row} {field other : String} {cell : Cell}

/-- The row with another value in a field, if it has the field. -/
def withCell (field : String) (cell : Cell) (row : Row) : Row :=
  row.map fun entry => (entry.1, if entry.1 = field then cell else entry.2)

theorem lookup_withCell :
    (row.withCell field cell).lookup other
      = (row.lookup other).map fun value => if other = field then cell else value := by
  induction row with
  | nil => rfl
  | cons entry row ih =>
    obtain ⟨name, value⟩ := entry
    rw [withCell, List.map_cons, List.lookup_cons, List.lookup_cons, ← withCell, ih]
    cases hname : other == name with
    | true => rw [← beq_iff_eq.1 hname]; rfl
    | false => rfl

/-- Other fields keep their values. -/
theorem lookup_withCell_of_ne (h : other ≠ field) :
    (row.withCell field cell).lookup other = row.lookup other := by
  rw [lookup_withCell]
  simp [h]

theorem text_withCell (h : row.Has field) (value : String) :
    (row.withCell field (.text value)).text field = value := by
  obtain ⟨old, hold⟩ := Option.isSome_iff_exists.1 h
  rw [Row.text, Row.cell, lookup_withCell, hold]
  simp

theorem Has.withCell (h : row.Has other) : (row.withCell field cell).Has other := by
  rw [Has, lookup_withCell, Option.isSome_map]
  exact h

theorem HasText.withCell (h : row.HasText other) (value : String) :
    (row.withCell field (.text value)).HasText other := by
  have hlookup : row.lookup other = some (.text (row.text other)) := h
  rw [HasText, text, cell, lookup_withCell, hlookup]
  by_cases hfield : other = field
  · simp [hfield]
  · simp [hfield]

theorem HasTextOrNull.withCell (h : row.HasTextOrNull other) (value : String) :
    (row.withCell field (.text value)).HasTextOrNull other := by
  rcases h with h | h
  · exact Or.inl (h.withCell value)
  · rw [HasTextOrNull, HasText, text, cell, lookup_withCell, h]
    by_cases hfield : other = field
    · simp [hfield]
    · simp [hfield]

end Row

namespace Sqlite

open Grouping Text

/-- The row at a position of a table, the rows being as they are read, is that of the only column in
the key of the table, declared `INTEGER`. -/
@[mk_iff]
structure IsIntegerKey (rows : List Row) (name : String) (i : Nat) (row : Row) : Prop where
  wellTyped : ∀ row ∈ rows, WellTyped row
  row_eq : (ofKey Row.tableName name (rows.filter isCounted))[i]? = some row
  onlyKey : isOnlyKey (keySize (ofKey Row.tableName name (rows.filter isCounted))) row = true
  integer : isInteger row = true

instance (rows : List Row) (name : String) (i : Nat) (row : Row) :
    Decidable (IsIntegerKey rows name i row) :=
  decidable_of_iff' _ (isIntegerKey_iff rows name i row)

/-! ## Another text for a definition -/

/-- The row with another text for the definition of a table, if it is one of that table. -/
def withSql (name sql : String) (row : Row) : Row :=
  if row.tableName = name then row.withCell "table_sql" (.text sql) else row

section

variable {name sql field : String} {row : Row} {rows : List Row}

/-- The text of the definition is all that changes. -/
theorem lookup_withSql (h : field ≠ "table_sql") :
    (withSql name sql row).lookup field = row.lookup field := by
  rw [withSql]
  split
  · exact Row.lookup_withCell_of_ne h
  · rfl

theorem cell_withSql (h : field ≠ "table_sql") :
    (withSql name sql row).cell field = row.cell field := by
  rw [Row.cell, Row.cell, lookup_withSql h]

theorem text_withSql (h : field ≠ "table_sql") :
    (withSql name sql row).text field = row.text field := by
  rw [Row.text, Row.text, cell_withSql h]

theorem isCounted_withSql : isCounted (withSql name sql row) = isCounted row := by
  rw [isCounted, isCounted, cell_withSql (by decide)]

theorem tableName_withSql : (withSql name sql row).tableName = row.tableName :=
  text_withSql (by decide)

theorem HasFields.withCell (h : HasFields row) (field value : String) :
    HasFields (row.withCell field (.text value)) where
  tableName := h.tableName.withCell value
  tableType := h.tableType.withCell
  tableSql := h.tableSql.withCell value
  columnName := h.columnName.withCell value
  columnType := h.columnType.withCell value
  notNull := h.notNull.withCell
  columnDefault := h.columnDefault.withCell
  key := h.key.withCell
  hidden := h.hidden.withCell

theorem WellTyped.withSql (h : WellTyped row) (name sql : String) :
    WellTyped (withSql name sql row) := by
  refine ⟨?_, fun hcounted => ?_⟩
  · rw [Row.Has, lookup_withSql (by decide)]
    exact h.1
  · rw [isCounted_withSql] at hcounted
    rw [Sqlite.withSql]
    split
    · exact (h.2 hcounted).withCell _ _
    · exact h.2 hcounted

/-- The rows of a table stay the rows of the table. -/
theorem ofKey_map_withSql (name sql : String) (rows : List Row) :
    ofKey Row.tableName name ((rows.map (withSql name sql)).filter isCounted)
      = (ofKey Row.tableName name (rows.filter isCounted)).map (withSql name sql) := by
  have hcounted : isCounted ∘ withSql name sql = isCounted := funext fun _ => isCounted_withSql
  have hname : (fun row => decide (Row.tableName row = name)) ∘ withSql name sql
      = fun row => decide (Row.tableName row = name) := by
    funext row
    rw [Function.comp, tableName_withSql]
  rw [ofKey, ofKey, List.filter_map, hcounted, List.filter_map, hname]

theorem keySize_map_withSql (name sql : String) (rows : List Row) :
    keySize (rows.map (withSql name sql)) = keySize rows := by
  rw [keySize, keySize, List.countP_map]
  refine List.countP_congr fun row _ => ?_
  rw [Function.comp, cell_withSql (by decide)]

/-- Whether a key column declared `INTEGER` is another name of the row number is left to the text of
the definition. -/
theorem rowidAlias_withSql (sql : String) (hname : row.tableName = name)
    (hsql : row.Has "table_sql") {size : Nat}
    (hkey : isOnlyKey size row = true) (hinteger : isInteger row = true) :
    rowidAlias size (withSql name sql row)
      = !contains "without rowid".toList (lower sql.toList) := by
  have hkey' : isOnlyKey size (withSql name sql row) = true := by
    rwa [isOnlyKey, cell_withSql (by decide), cell_withSql (by decide)]
  have hinteger' : isInteger (withSql name sql row) = true := by
    rwa [isInteger, text_withSql (by decide)]
  have htext : (withSql name sql row).text "table_sql" = sql := by
    rw [withSql, if_pos hname, Row.text_withCell hsql]
  rw [rowidAlias, hkey', hinteger', lacksRowid, htext]
  rfl

end

/-! ## What is reported of a column -/

/-- The column at a position of a table in the catalog of a database. -/
def columnAt? (server : Server) (name : String) (i : Nat) : Option Column :=
  match (tables (client server)).outcome with
  | .ok found =>
    (found.find? fun table => table.name == .text name).bind fun table => table.columns[i]?
  | .error _ => none

section

variable {server : Server} {rows : List Row} {name : String} {i : Nat} {row : Row}

/-- The table of a name is found among those of all names. -/
theorem find?_groups (h : name ∈ keys Row.tableName rows) :
    ((groups Row.tableName rows).map tableOfGroup).find? (fun table => table.name == .text name)
      = some (tableOfGroup (name, ofKey Row.tableName name rows)) := by
  have hkey : (keys Row.tableName rows).find? (fun key => Cell.text key == .text name)
      = some name := by
    have hsome :
        ((keys Row.tableName rows).find? fun key => Cell.text key == .text name).isSome = true :=
      List.find?_isSome.2 ⟨name, h, beq_self_eq_true _⟩
    obtain ⟨key, hfind⟩ := Option.isSome_iff_exists.1 hsome
    have hname : key = name := by simpa using List.find?_some hfind
    rw [hfind, hname]
  rw [groups, List.map_map, List.find?_map]
  exact congrArg _ hkey

/-- The column of a table is told by the row at its position among those of the table. -/
theorem columnAt?_eq (hrows : server.rows catalogQuery = .ok rows)
    (htyped : ∀ row ∈ rows, WellTyped row)
    (hrow : (ofKey Row.tableName name (rows.filter isCounted))[i]? = some row) :
    columnAt? server name i
      = some (columnOf (keySize (ofKey Row.tableName name (rows.filter isCounted))) row) := by
  have hfind : ((groups Row.tableName (rows.filter isCounted)).map tableOfGroup).find?
      (fun table => table.name == .text name)
      = some (tableOfGroup (name, ofKey Row.tableName name (rows.filter isCounted))) := by
    obtain ⟨hmem, hname⟩ := List.mem_filter.1 (List.mem_of_getElem? hrow)
    refine find?_groups (mem_keys_iff.2 ⟨row, hmem, of_decide_eq_true hname⟩)
  rw [columnAt?, outcome_tables hrows htyped]
  simp only [hfind, Option.bind_some]
  rw [tableOfGroup, List.getElem?_map, hrow]
  rfl

end

/-! ## Two definitions of one layout -/

/-- The two words of the option stand somewhere in a text with one space between them, be it in
quotes or as parts of longer words. -/
def SpellsOption (s : String) : Prop := isQuoted none s.toList = true ∨ [' '] ∈ gaps none s.toList

/-- The two words stand in a text outside quotes with white space between them, but nowhere in it
with one space. -/
def HidesOption (s : String) : Prop := gaps none s.toList ≠ [] ∧ ¬ SpellsOption s

instance (s : String) : Decidable (SpellsOption s) := inferInstanceAs (Decidable (_ ∨ _))

instance (s : String) : Decidable (HidesOption s) := inferInstanceAs (Decidable (_ ∧ _))

/-- No comment starts outside quotes. -/
def isCommentFree : Option Quote → List Char → Bool
  | _, [] => true
  | place, c :: rest =>
    (place.isSome || !(['-', '-'].isPrefixOf (c :: rest) || ['/', '*'].isPrefixOf (c :: rest)))
      && isCommentFree (quoteAfter place c) rest

section

variable {s t : String}

/-- Texts of one layout have the option outside quotes at the same places. -/
theorem length_gaps_eq (h : squeeze none s.toList = squeeze none t.toList) :
    (gaps none s.toList).length = (gaps none t.toList).length := by
  have hgaps := congrArg List.length (congrArg (gaps none) h)
  rwa [gaps_squeeze, gaps_squeeze, List.length_map, List.length_map] at hgaps

theorem isQuoted_eq (h : squeeze none s.toList = squeeze none t.toList) :
    isQuoted none s.toList = isQuoted none t.toList := by
  rw [← isQuoted_squeeze, h, isQuoted_squeeze]

/-- Of two texts of one layout the same is told by the words with one space between them exactly if
none of them hides the option that the other has. -/
theorem spellsOption_iff (h : squeeze none s.toList = squeeze none t.toList) :
    (SpellsOption s ↔ SpellsOption t) ↔ (HidesOption s ↔ HidesOption t) := by
  have hgaps : gaps none s.toList = [] ↔ gaps none t.toList = [] := by
    rw [← List.length_eq_zero_iff, length_gaps_eq h, List.length_eq_zero_iff]
  have hquoted := isQuoted_eq h
  unfold HidesOption
  by_cases hnone : gaps none s.toList = []
  · -- without the option only what stands in quotes counts
    have hnone' := hgaps.1 hnone
    simp [SpellsOption, hnone, hnone', hquoted]
  · have hsome' : gaps none t.toList ≠ [] := mt hgaps.2 hnone
    simp only [ne_eq, hnone, hsome', not_false_eq_true, true_and]
    exact not_iff_not.symm

variable {server server' : Server} {rows : List Row} {name : String} {i : Nat} {row : Row}

/-- Whatever else a text says, the key is reported as generated exactly if the text does not spell
the option. -/
theorem columnAt?_withSql {sql : String}
    (hrows : server.rows catalogQuery = .ok (rows.map (withSql name sql)))
    (hkey : IsIntegerKey rows name i row) :
    ∃ column, columnAt? server name i = some column ∧
      column.isAutoIncrementing = !decide (SpellsOption sql) ∧
      column.isNullable = (!(row.cell "not_null").isTruthy && decide (SpellsOption sql)) := by
  obtain ⟨hmem, hname⟩ := List.mem_filter.1 (List.mem_of_getElem? hkey.row_eq)
  obtain ⟨hmem, hcounted⟩ := List.mem_filter.1 hmem
  have hsql : row.Has "table_sql" := ((hkey.wellTyped row hmem).2 hcounted).tableSql.has
  have htyped : ∀ row ∈ rows.map (withSql name sql), WellTyped row :=
    List.forall_mem_map.2 fun row hrow => (hkey.wellTyped row hrow).withSql name sql
  have hrow : (ofKey Row.tableName name ((rows.map (withSql name sql)).filter isCounted))[i]?
      = some (withSql name sql row) := by
    rw [ofKey_map_withSql, List.getElem?_map, hkey.row_eq]
    rfl
  have hspells : contains "without rowid".toList (lower sql.toList)
      = decide (SpellsOption sql) := by
    rw [Bool.eq_iff_iff, decide_eq_true_iff]
    exact contains_withoutRowid_iff sql.toList
  have halias := rowidAlias_withSql sql (of_decide_eq_true hname) hsql hkey.onlyKey hkey.integer
  refine ⟨_, columnAt?_eq hrows htyped hrow, ?_, ?_⟩
  · rw [ofKey_map_withSql, keySize_map_withSql, columnOf, halias, hspells]
  · rw [ofKey_map_withSql, keySize_map_withSql, columnOf, halias, hspells, cell_withSql (by decide),
      Bool.not_not]

/-- Two catalogs that differ in the text that defines a table, the texts being of one layout, report
the same of the key of the table exactly if none of the two texts alone hides the option. -/
theorem reports_eq_iff_of_layout
    (hs : server.rows catalogQuery = .ok (rows.map (withSql name s)))
    (ht : server'.rows catalogQuery = .ok (rows.map (withSql name t)))
    (hkey : IsIntegerKey rows name i row)
    (hlayout : squeeze none s.toList = squeeze none t.toList) :
    ∃ column column', columnAt? server name i = some column ∧
      columnAt? server' name i = some column' ∧
      (column.isAutoIncrementing = true ↔ ¬ SpellsOption s) ∧
      (column.isAutoIncrementing = column'.isAutoIncrementing ∧
        column.isNullable = column'.isNullable ↔
        (HidesOption s ↔ HidesOption t)) := by
  obtain ⟨column, hcolumn, hincrements, hnullable⟩ := columnAt?_withSql hs hkey
  obtain ⟨column', hcolumn', hincrements', hnullable'⟩ := columnAt?_withSql ht hkey
  refine ⟨column, column', hcolumn, hcolumn', by simp [hincrements], ?_⟩
  rw [← spellsOption_iff hlayout, hincrements, hincrements', hnullable, hnullable']
  by_cases hspells : SpellsOption s <;> by_cases hspells' : SpellsOption t
    <;> simp [hspells, hspells']

end

/-! ## A table without row numbers -/

/-- The row of a table `tags` with one column, its key. -/
def tagRow : Row :=
  [("table_name", "tags"), ("table_type", "table"), ("table_sql", .null), ("column_name", "id"),
   ("column_type", "INTEGER"), ("not_null", .integer 1), ("column_default", .null),
   ("pk", .integer 1), ("hidden", .integer 0)]

/-- A database with the table above, defined by a text. -/
def tagServer (sql : String) : Server := .answering ([tagRow].map (withSql "tags" sql))

theorem rows_tagServer (sql : String) :
    (tagServer sql).rows catalogQuery = .ok ([tagRow].map (withSql "tags" sql)) := rfl

/-- A text of one line. -/
def tagLine : String := "CREATE TABLE tags (id INTEGER PRIMARY KEY) WITHOUT ROWID"

/-- A text of the same layout on two lines, which are broken in front of the option. -/
def tagLines : String := "CREATE TABLE tags\t(id INTEGER PRIMARY KEY)\r\nWITHOUT ROWID"

/-- A text of the same layout that is broken inside the option. -/
def brokenTagLines : String := "CREATE TABLE tags (id INTEGER PRIMARY KEY) WITHOUT\nROWID"

theorem isIntegerKey_tagRow : IsIntegerKey [tagRow] "tags" 0 tagRow := by decide +kernel

theorem reports_eq_iff_of_layout_tags :
    ((tagServer tagLine).rows catalogQuery = .ok ([tagRow].map (withSql "tags" tagLine)) ∧
      (tagServer tagLines).rows catalogQuery = .ok ([tagRow].map (withSql "tags" tagLines)) ∧
      IsIntegerKey [tagRow] "tags" 0 tagRow ∧
        squeeze none tagLine.toList = squeeze none tagLines.toList) ∧
    ∃ column column', columnAt? (tagServer tagLine) "tags" 0 = some column ∧
      columnAt? (tagServer tagLines) "tags" 0 = some column' ∧ column.isAutoIncrementing = false ∧
      column.isAutoIncrementing = column'.isAutoIncrementing ∧
        column.isNullable = column'.isNullable := by
  have hlayout : squeeze none tagLine.toList = squeeze none tagLines.toList := by decide +kernel
  refine ⟨⟨rows_tagServer _, rows_tagServer _, isIntegerKey_tagRow, hlayout⟩, ?_⟩
  obtain ⟨column, column', hcolumn, hcolumn', hincrements, hreports⟩ :=
    reports_eq_iff_of_layout (rows_tagServer _) (rows_tagServer _) isIntegerKey_tagRow hlayout
  have hspells : SpellsOption tagLine := by decide +kernel
  have hboth : HidesOption tagLine ↔ HidesOption tagLines := by decide +kernel
  exact ⟨column, column', hcolumn, hcolumn', by simpa [hspells] using hincrements, hreports.2 hboth⟩

/-- The report on a key is not the same for all texts of one layout, even if they are free of
comments: a line break inside the option makes the key a generated one. -/
theorem not_forall_reports_eq :
    ¬ ∀ (server server' : Server) (rows : List Row) (name s t : String) (i : Nat) (row : Row),
      server.rows catalogQuery = .ok (rows.map (withSql name s)) →
      server'.rows catalogQuery = .ok (rows.map (withSql name t)) →
      IsIntegerKey rows name i row → isCommentFree none s.toList = true →
        isCommentFree none t.toList = true →
      squeeze none s.toList = squeeze none t.toList →
      ∀ column column', columnAt? server name i = some column →
        columnAt? server' name i = some column' →
        column.isAutoIncrementing = column'.isAutoIncrementing ∧
          column.isNullable = column'.isNullable := by
  intro hall
  obtain ⟨column, hcolumn, hincrements, _⟩ :=
    columnAt?_withSql (rows_tagServer tagLine) isIntegerKey_tagRow
  obtain ⟨column', hcolumn', hincrements', _⟩ :=
    columnAt?_withSql (rows_tagServer brokenTagLines) isIntegerKey_tagRow
  have hlayout : squeeze none tagLine.toList
      = squeeze none brokenTagLines.toList := by decide +kernel
  obtain ⟨hequal, _⟩ := hall _ _ _ _ _ _ _ _ (rows_tagServer tagLine)
    (rows_tagServer brokenTagLines) isIntegerKey_tagRow (by decide +kernel) (by decide +kernel)
    hlayout column column' hcolumn hcolumn'
  rw [hincrements, hincrements'] at hequal
  exact absurd hequal (by decide +kernel)

end Sqlite

end SchemaTypes
