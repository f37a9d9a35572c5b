import SchemaTypes.Proofs.Mapping.Precedence

set_option autoImplicit false

/-! # Overrides for one column

A configuration speaks of a column by the name of its table, a dot and its own name. That is no more
than a text, and names may have dots of their own: the column `2024.level` of `logs` has the same
qualified name as the column `level` of `logs.2024` (`qualified_eq_iff`). An override for the one is
an override for the other. Names of tables without dots are never confused
(`not_confused_of_not_mem`).

The main statement is `Dialect.map_without_overrides_iff`: two columns that are not confused are the
only ones of which an override for one leaves the other as it is in every configuration.
-/

namespace SchemaTypes

/-- The name of the second table goes on behind the first one with a dot and what the name of the
first column begins with. -/
def TakesLaterDot (table name table' name' : String) : Prop :=
  ∃ part, table' = table ++ "." ++ part ∧ name = part ++ "." ++ name'

/-- The dot between table and column is another one in the two names, and the whole is the same. -/
def Confused (table name table' name' : String) : Prop :=
  TakesLaterDot table name table' name' ∨ TakesLaterDot table' name' table name

theorem TakesLaterDot.qualified_eq {table name table' name' : String}
    (h : TakesLaterDot table name table' name') :
    table ++ "." ++ name = table' ++ "." ++ name' := by
  obtain ⟨part, rfl, rfl⟩ := h
  simp only [String.append_assoc]

/-- Where one name of a table starts the other one, what is left over is nothing or has the other
dot in front. -/
theorem takesLaterDot_of_toList {table name table' name' : String} {rest : List Char}
    (htable : table'.toList = table.toList ++ rest)
    (hname : '.' :: name.toList = rest ++ '.' :: name'.toList) :
    (table = table' ∧ name = name') ∨ TakesLaterDot table name table' name' := by
  cases rest with
  | nil =>
    have htables : table'.toList = table.toList := by simpa using htable
    have hnames : name.toList = name'.toList := by simpa using hname
    exact .inl ⟨(String.toList_inj.1 htables).symm, String.toList_inj.1 hnames⟩
  | cons c part =>
    -- what is left over starts with the dot behind the shorter name
    obtain ⟨rfl, hpart⟩ : '.' = c ∧
      name.toList = part ++ '.' :: name'.toList := by simpa using hname
    refine .inr ⟨.ofList part, String.toList_inj.1 ?_, String.toList_inj.1 ?_⟩
    · simpa using htable
    · simpa using hpart

/-- Two qualified names are the same text only for the same names and for confused ones. -/
theorem qualified_eq_iff {table name table' name' : String} :
    table ++ "." ++ name = table' ++ "." ++ name' ↔
      (table = table' ∧ name = name') ∨ Confused table name table' name' := by
  constructor
  · intro h
    have hlist : table.toList ++ '.' :: name.toList = table'.toList ++ '.' :: name'.toList := by
      simpa using congrArg String.toList h
    -- one name of a table starts the other one
    rcases List.append_eq_append_iff.1 hlist with ⟨rest, htable, hname⟩ | ⟨rest, htable, hname⟩
    · rcases takesLaterDot_of_toList htable hname with hsame | hlater
      · exact .inl hsame
      · exact .inr (.inl hlater)
    · rcases takesLaterDot_of_toList htable hname with ⟨htables, hnames⟩ | hlater
      · exact .inl ⟨htables.symm, hnames.symm⟩
      · exact .inr (.inr hlater)
  · rintro (⟨rfl, rfl⟩ | hlater | hlater)
    · rfl
    · exact hlater.qualified_eq
    · exact hlater.qualified_eq.symm

/-- Tables whose names have no dot are not confused, whatever their columns are. -/
theorem not_confused_of_not_mem {table name table' name' : String} (h : '.' ∉ table.toList)
    (h' : '.' ∉ table'.toList) : ¬ Confused table name table' name' := by
  rintro (⟨part, rfl, _⟩ | ⟨part, rfl, _⟩)
  · simp at h'
  · simp at h

theorem qualifiedName_of_name {table name : String} {column : Column}
    (h : column.name = .text name) :
    qualifiedName (.text table) column = table ++ "." ++ name := by
  rw [qualifiedName, h]
  rfl

namespace Dialect

/-- The overrides for single columns: casts of SQLite, payloads of MySQL. -/
def columnOverrides (config : GeneratorConfig) : Dialect → Casts
  | .mysql => config.mysql.jsonColumns
  | .sqlite => config.sqlite.columnCasts

/-- The configuration without overrides for single columns. -/
def withoutColumnOverrides (config : GeneratorConfig) : Dialect → GeneratorConfig
  | .mysql => { config with mysql := { config.mysql with jsonColumns := [] } }
  | .sqlite => { config with sqlite := { config.sqlite with columnCasts := [] } }

variable {dialect : Dialect} {config : GeneratorConfig} {table : Cell} {column : Column}

/-- An override with another key has nothing to say of the column. -/
theorem answer?_withoutColumnOverrides {key : String} {type : TypeExpr}
    (honly : dialect.columnOverrides config = [(key, type)])
    (hkey : qualifiedName table column ≠ key)
    (lookUp : LookUp) :
    dialect.answer? config table column lookUp
      = dialect.answer? (dialect.withoutColumnOverrides config) table column lookUp := by
  have hlookup : (dialect.columnOverrides config).lookup (qualifiedName table column) = none := by
    rw [honly, List.lookup_eq_none_iff]
    simpa using hkey
  cases dialect with
  | mysql =>
    cases lookUp with
    | jsonPayload =>
      show (if Mysql.isJson column then config.mysql.jsonColumns.lookup _ else none)
        = if Mysql.isJson column then none else none
      exact congrArg (if Mysql.isJson column then · else none) hlookup
    | _ => rfl
  | sqlite =>
    cases lookUp with
    | columnCast => exact hlookup
    | _ => rfl

theorem map_withoutColumnOverrides {key : String} {type : TypeExpr}
    (honly : dialect.columnOverrides config = [(key, type)])
    (hkey : qualifiedName table column ≠ key) :
    (dialect.columnRules config).map table column
      = (dialect.columnRules (dialect.withoutColumnOverrides config)).map table column := by
  refine map_congr ?_
  rw [decision?, decision?, funext (answer?_withoutColumnOverrides honly hkey)]

/-- The configuration with one override for a single column and nothing else. -/
def overriding (key : String) (type : TypeExpr) : Dialect → GeneratorConfig
  | .mysql => { dialect := "mysql", mysql := { jsonColumns := [(key, type)] } }
  | .sqlite => { dialect := "sqlite", sqlite := { columnCasts := [(key, type)] } }

theorem columnOverrides_overriding (key : String) (type : TypeExpr) :
    dialect.columnOverrides (dialect.overriding key type) = [(key, type)] := by
  cases dialect <;> rfl

/-- A column of the kind that may have an override of its own. -/
def overridable (name : String) : Dialect → Column
  | .mysql =>
    { name := .text name, columnType := .text "json", dataType := .text "json",
      isNullable := false }
  | .sqlite =>
    { name := .text name, columnType := .text "TEXT", dataType := .text "TEXT",
      isNullable := false }

theorem name_overridable (name : String) : (dialect.overridable name).name = .text name := by
  cases dialect <;> rfl

/-- An override has its effect on a column with the qualified name that is its key. -/
theorem map_overriding_ne (name : String) :
    let column := dialect.overridable name
    let config := dialect.overriding (qualifiedName table column) TypeExpr.boolean
    (dialect.columnRules config).map table column
      ≠ (dialect.columnRules (dialect.withoutColumnOverrides config)).map table column := by
  intro column config
  have hlookup : (dialect.columnOverrides config).lookup (qualifiedName table column)
      = some TypeExpr.boolean := by
    rw [columnOverrides_overriding]
    exact List.lookup_cons_self
  cases dialect with
  | mysql =>
    have hcasts : ∀ earlier ∈ [LookUp.fullTypeCast, .strippedTypeCast, .dataTypeCast],
        Dialect.mysql.answer? config table column earlier = none := by
      simp only [List.forall_mem_cons]
      exact ⟨rfl, rfl, rfl, fun _ h => by cases h⟩
    have hdecision : Dialect.mysql.decision? config table column
        = some (.jsonPayload, TypeExpr.boolean) := LookUp.decide?_append_cons hcasts hlookup
    have hwith : (Dialect.mysql.columnRules config).map table column
        = .ok (.jsonColumnType TypeExpr.boolean none none) := map_eq_of_decision hdecision
    have hwithout : (Dialect.mysql.columnRules (Dialect.mysql.withoutColumnOverrides config)).map
        table column = .ok (.jsonColumnType TypeExpr.unknown none none) := rfl
    rw [hwith, hwithout]
    simp [TypeExpr.boolean, TypeExpr.unknown]
  | sqlite =>
    have hdecision : Dialect.sqlite.decision? config table column
        = some (.columnCast, TypeExpr.boolean) :=
      @LookUp.decide?_append_cons [] _ _ _ _ (fun _ h => by cases h) hlookup
    have hwith : (Dialect.sqlite.columnRules config).map table column = .ok TypeExpr.boolean :=
      map_eq_of_decision hdecision
    have hwithout : (Dialect.sqlite.columnRules (Dialect.sqlite.withoutColumnOverrides config)).map
        table column = .ok TypeExpr.string := rfl
    rw [hwith, hwithout]
    simp [TypeExpr.boolean, TypeExpr.string]

/-- An override for one column leaves another column as it is, whatever else is configured, exactly
if the two are not confused. -/
theorem map_without_overrides_iff {table name table' name' : String}
    (hne : (table, name) ≠ (table', name')) :
    (∀ (config : GeneratorConfig) (type : TypeExpr) (owner column : Column),
      owner.name = .text name →
      column.name = .text name' →
      dialect.columnOverrides config = [(qualifiedName (.text table) owner, type)] →
      (dialect.columnRules config).map (.text table') column
        = (dialect.columnRules (dialect.withoutColumnOverrides config)).map (.text table') column) ↔
      ¬ Confused table name table' name' := by
  constructor
  · intro hframe hconfused
    -- the only override is one for the second column as well
    have hkey : qualifiedName (.text table) (dialect.overridable name)
        = qualifiedName (.text table') (dialect.overridable name') := by
      calc qualifiedName (.text table) (dialect.overridable name)
          = table ++ "." ++ name := qualifiedName_of_name (name_overridable name)
        _ = table' ++ "." ++ name' := qualified_eq_iff.2 (.inr hconfused)
        _ = qualifiedName (.text table') (dialect.overridable name') :=
          (qualifiedName_of_name (name_overridable name')).symm
    refine map_overriding_ne name' (hframe _ TypeExpr.boolean (dialect.overridable name) _
      (name_overridable name) (name_overridable name') ?_)
    rw [columnOverrides_overriding, hkey]
  · intro hclear config type owner column howner hcolumn honly
    refine map_withoutColumnOverrides honly ?_
    rw [qualifiedName_of_name hcolumn, qualifiedName_of_name howner]
    intro heq
    rcases qualified_eq_iff.1 heq.symm with ⟨htable, hname⟩ | hconfused
    · exact hne (Prod.ext htable hname)
    · exact hclear hconfused

theorem map_without_overrides_iff_status :
    ("users", "status") ≠ ("posts", "status") ∧
    ∀ (config : GeneratorConfig) (type : TypeExpr) (owner column : Column),
      owner.name = .text "status" → column.name = .text "status" →
      Dialect.sqlite.columnOverrides config = [(qualifiedName (.text "users") owner, type)] →
      (Dialect.sqlite.columnRules config).map (.text "posts") column
        = (Dialect.sqlite.columnRules (Dialect.sqlite.withoutColumnOverrides config)).map
            (.text "posts") column := by
  have hne : ("users", "status") ≠ ("posts", "status") := by decide
  have hclear : ¬ Confused "users" "status" "posts" "status" :=
    not_confused_of_not_mem (by decide) (by decide)
  exact ⟨hne, (map_without_overrides_iff hne).2 hclear⟩

/-- A cast for the column `2024.level` of `logs` is one for the column `level` of `logs.2024`. -/
theorem not_forall_map_without_overrides_eq :
    ¬ ∀ (dialect : Dialect) (table name table' name' : String) (config : GeneratorConfig)
      (type : TypeExpr) (owner column : Column), (table, name) ≠ (table', name') →
      owner.name = .text name → column.name = .text name' →
      dialect.columnOverrides config = [(qualifiedName (.text table) owner, type)] →
      (dialect.columnRules config).map (.text table') column
        = (dialect.columnRules (dialect.withoutColumnOverrides config)).map
          (.text table') column := by
  intro h
  have hkey : qualifiedName (.text "logs.2024") (Dialect.sqlite.overridable "level")
      = qualifiedName (.text "logs") (Dialect.sqlite.overridable "2024.level") := by decide
  refine map_overriding_ne "level"
    (h .sqlite "logs" "2024.level" "logs.2024" "level" _ TypeExpr.boolean
    (Dialect.sqlite.overridable "2024.level") _ (by decide) rfl rfl ?_)
  rw [columnOverrides_overriding, hkey]

end Dialect

end SchemaTypes
