import SchemaTypes.Catalog.Affinity
import SchemaTypes.Mapping.Sqlite
import SchemaTypes.Proofs.Outcome

set_option autoImplicit false

/-! # Every SQLite column has a type

Whatever is declared for a column, its affinity is one of five, and each of them has a type. So a
column whose data type is an affinity selects a type, with or without casts
(`exists_select_eq_ok_of_affinity`).
-/

namespace SchemaTypes.Sqlite

/-- The affinities that a column can have. -/
def affinities : List String := ["INTEGER", "TEXT", "BLOB", "REAL", "NUMERIC"]

/-- The affinity of any declared type is one of the five. -/
theorem affinity_mem_affinities (declared : String) : affinity declared ∈ affinities := by
  have hrules : ∀ rule ∈ affinityRules, rule.2 ∈ affinities := by decide
  simp only [affinity]
  split
  · rename_i words name hrule
    exact hrules _ (List.mem_of_find?_eq_some hrule)
  · split <;> decide

theorem baseType?_ne_none {config : SqliteConfig} {dataType : String} (h : dataType ∈ affinities) :
    baseType? config (.text dataType) ≠ none := by
  simp only [affinities, List.mem_cons, List.not_mem_nil, or_false] at h
  rcases h with rfl | rfl | rfl | rfl | rfl <;> simp [baseType?]

/-- A column with an affinity for its data type selects a type. -/
theorem exists_select_eq_ok_of_affinity {config : SqliteConfig} {table : Cell} {column : Column}
    {dataType : String} (htype : column.dataType = .text dataType) (h : dataType ∈ affinities) :
    ∃ selection, select config table column = .ok selection := by
  have hne : baseType? config (.text dataType) ≠ none := baseType?_ne_none h
  obtain ⟨type, hbase⟩ := Option.ne_none_iff_exists'.1 hne
  have hsome : Selection.first? (lookups config table column) ≠ none := by
    intro hnone
    have hlast := List.findSome?_eq_none_iff.1 hnone (some (Selection.found type))
    rw [lookups, htype, hbase] at hlast
    simp at hlast
  obtain ⟨selection, hselection⟩ := Option.ne_none_iff_exists'.1 hsome
  exact ⟨selection, by rw [select, hselection]⟩

end SchemaTypes.Sqlite
