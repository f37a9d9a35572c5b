import Mathlib.Data.List.Nodup
import Mathlib.Data.String.Basic
import SchemaTypes.Import.Collection

set_option autoImplicit false

/-! # What a collection of imports binds

A collection is looked at through the entries of its modules: `entry_update` says what a change to
one entry does to all of them. A name of a module is bound if the entry of the module has a binding
for it.

Registering names keeps a collection well formed (`WellFormed.addNamed`). The sorted view of a
well-formed collection binds what the collection binds (`mem_bound_values_iff`), its modules and the
names of each module in strictly increasing order (`pairwise_specifiers_values`,
`pairwise_names_of_mem_values`).
-/

namespace SchemaTypes

/-- The names that are bound by an import of a module. -/
def ModuleImport.names (e : ModuleImport) : List String := e.bindings.map (·.name)

/-- The names that are bound by an import of a module, each with the module. -/
def ModuleImport.bound (e : ModuleImport) : List (String × String) := e.names.map (e.specifier, ·)

namespace ImportCollection

/-- There is one entry per module, and it has one binding per name. -/
structure WellFormed (c : ImportCollection) : Prop where
  nodup_specifiers : (c.entries.map (·.specifier)).Nodup
  nodup_names : ∀ e ∈ c.entries, e.names.Nodup

/-! ## Changing the entry of a module -/

section Update

variable {f : ModuleImport → ModuleImport} (specifier : String)

theorem find?_updateEntry (hf : ∀ e, (f e).specifier = e.specifier) (other : String)
    (entries : List ModuleImport) :
    (updateEntry specifier f entries).find? (·.specifier == other) =
      if other = specifier then
        some (f ((entries.find? (·.specifier == specifier)).getD { specifier }))
      else entries.find? (·.specifier == other) := by
  induction entries with
  | nil =>
    by_cases h : other = specifier
    · simp [updateEntry, hf, h]
    · simp [updateEntry, hf, h, Ne.symm h]
  | cons e rest ih =>
    rw [updateEntry]
    -- the first entry of the module is the one that changes and the one that is found
    by_cases he : e.specifier = specifier
    · by_cases h : other = specifier
      · simp [he, hf, h]
      · simp [he, hf, h, Ne.symm h]
    · rw [if_neg he, List.find?_cons, ih]
      by_cases h : other = specifier
      · subst h
        simp [beq_false_of_ne he]
      · simp [h, List.find?_cons]

/-- A change to the entry of one module, seen from any module. -/
theorem entry_update (hf : ∀ e, (f e).specifier = e.specifier) (c : ImportCollection)
    (other : String) :
    (c.update specifier f).entry other =
      if other = specifier then f (c.entry specifier) else c.entry other := by
  rw [entry, update, find?_updateEntry specifier hf]
  by_cases h : other = specifier
  · rw [if_pos h, if_pos h]
    rfl
  · rw [if_neg h, if_neg h]
    rfl

/-- The modules stay, and the one whose entry is changed is among them. -/
theorem specifiers_updateEntry (hf : ∀ e, (f e).specifier = e.specifier)
    (entries : List ModuleImport) :
    (updateEntry specifier f entries).map (·.specifier) =
      if specifier ∈ entries.map (·.specifier) then entries.map (·.specifier)
      else entries.map (·.specifier) ++ [specifier] := by
  induction entries with
  | nil => simp [updateEntry, hf]
  | cons e rest ih =>
    rw [updateEntry]
    by_cases he : e.specifier = specifier
    · simp [he, hf]
    · rw [if_neg he, List.map_cons, ih, List.map_cons]
      by_cases hmem : specifier ∈ rest.map (·.specifier)
      · rw [if_pos hmem, if_pos (List.mem_cons_of_mem _ hmem)]
      · rw [if_neg hmem, if_neg (by simp [Ne.symm he, hmem]), List.cons_append]

/-- What holds of all entries, and of an entry once it is changed, holds of all entries after the
change. -/
theorem forall_mem_updateEntry {p : ModuleImport → Prop} {entries : List ModuleImport}
    (hentries : ∀ e ∈ entries, p e) (hstep : ∀ e, p e → p (f e)) (hnew : p { specifier }) :
    ∀ e ∈ updateEntry specifier f entries, p e := by
  induction entries with
  | nil => simpa [updateEntry] using hstep _ hnew
  | cons e rest ih =>
    rw [List.forall_mem_cons] at hentries
    rw [updateEntry]
    split
    · exact List.forall_mem_cons.2 ⟨hstep e hentries.1, hentries.2⟩
    · exact List.forall_mem_cons.2 ⟨hentries.1, ih hentries.2⟩

end Update

/-- In a list without two values of one key, a value is the one that is found by its key. -/
theorem find?_eq_some_of_mem {α : Type} {key : α → String} {values : List α}
    (h : (values.map key).Nodup) {a : α} (ha : a ∈ values) :
    values.find? (key · == key a) = some a := by
  induction values with
  | nil => cases ha
  | cons b rest ih =>
    rw [List.map_cons, List.nodup_cons] at h
    rw [List.find?_cons]
    rcases List.mem_cons.1 ha with rfl | ha
    · rw [beq_self_eq_true]
    · have hne : key b ≠ key a := by
        intro heq
        exact h.1 (heq ▸ List.mem_map_of_mem ha)
      rw [beq_false_of_ne hne]
      exact ih h.2 ha

/-- With one entry per module, each entry is the one of its module. -/
theorem entry_eq_of_mem {c : ImportCollection} (h : (c.entries.map (·.specifier)).Nodup)
    {e : ModuleImport} (he : e ∈ c.entries) : c.entry e.specifier = e := by
  rw [entry, find?_eq_some_of_mem h he, Option.getD_some]

/-- The entry of a module that binds a name is in the collection. -/
theorem entry_mem_of_mem_names {c : ImportCollection} {specifier name : String}
    (h : name ∈ (c.entry specifier).names) :
    c.entry specifier ∈ c.entries ∧ (c.entry specifier).specifier = specifier := by
  rw [entry] at h ⊢
  cases hfind : c.entries.find? (·.specifier == specifier) with
  | none => simp [hfind, ModuleImport.names] at h
  | some e => exact ⟨List.mem_of_find?_eq_some hfind, by simpa using List.find?_some hfind⟩

/-! ## Registering names -/

theorem mem_names_insertBinding (bindings : List Binding) (b : Binding) (name : String) :
    name ∈ (insertBinding bindings b).map (·.name) ↔
      name ∈ bindings.map (·.name) ∨ name = b.name := by
  unfold insertBinding
  split
  · rename_i h
    obtain ⟨d, hd, hname⟩ := List.any_eq_true.1 h
    have hmem : b.name ∈ bindings.map (·.name) :=
      List.mem_map.2 ⟨d, hd, by simpa using hname⟩
    constructor
    · exact Or.inl
    · rintro (h | rfl)
      · exact h
      · exact hmem
  · simp

theorem nodup_names_insertBinding {bindings : List Binding} (b : Binding)
    (h : (bindings.map (·.name)).Nodup) : ((insertBinding bindings b).map (·.name)).Nodup := by
  unfold insertBinding
  split
  · exact h
  · rename_i hnew
    have hnot : b.name ∉ bindings.map (·.name) := by
      intro hmem
      obtain ⟨d, hd, hname⟩ := List.mem_map.1 hmem
      exact hnew (List.any_eq_true.2 ⟨d, hd, by simpa using hname⟩)
    rw [List.map_append, List.map_singleton, ← List.concat_eq_append]
    exact List.Nodup.concat hnot h

theorem mem_names_foldl (added bindings : List Binding) (name : String) :
    name ∈ (added.foldl insertBinding bindings).map (·.name) ↔
      name ∈ bindings.map (·.name) ∨ name ∈ added.map (·.name) := by
  induction added generalizing bindings with
  | nil => simp
  | cons b rest ih =>
    rw [List.foldl_cons, ih, mem_names_insertBinding, List.map_cons, List.mem_cons, or_assoc]

theorem nodup_names_foldl (added : List Binding) {bindings : List Binding}
    (h : (bindings.map (·.name)).Nodup) :
    ((added.foldl insertBinding bindings).map (·.name)).Nodup := by
  induction added generalizing bindings with
  | nil => exact h
  | cons b rest ih => exact ih (nodup_names_insertBinding b h)

/-- Registering names binds them, in their module, and unbinds nothing. -/
theorem mem_names_entry_addNamed (c : ImportCollection) (specifier : String)
    (added : List Binding) (other name : String) :
    name ∈ ((c.addNamed specifier added).entry other).names ↔
      name ∈ (c.entry other).names ∨ other = specifier ∧ name ∈ added.map (·.name) := by
  rw [addNamed, entry_update]
  · by_cases h : other = specifier
    · subst h
      simpa [ModuleImport.names] using mem_names_foldl added (c.entry other).bindings name
    · simp [h]
  · intro _
    rfl

/-- A change to the entry of a module that keeps its names distinct. -/
theorem WellFormed.update {c : ImportCollection} (h : c.WellFormed)
    {f : ModuleImport → ModuleImport} (specifier : String) (hf : ∀ e, (f e).specifier = e.specifier)
    (hstep : ∀ e : ModuleImport, e.names.Nodup → (f e).names.Nodup) :
    (c.update specifier f).WellFormed where
  nodup_specifiers := by
    rw [ImportCollection.update, specifiers_updateEntry specifier hf]
    split
    · exact h.nodup_specifiers
    · rename_i hfresh
      rw [← List.concat_eq_append]
      exact List.Nodup.concat hfresh h.nodup_specifiers
  nodup_names := forall_mem_updateEntry specifier h.nodup_names hstep List.nodup_nil

theorem WellFormed.addNamed {c : ImportCollection} (h : c.WellFormed) (specifier : String)
    (added : List Binding) : (c.addNamed specifier added).WellFormed :=
  h.update specifier (fun _ => rfl) (fun _ he => nodup_names_foldl added he)

theorem wellFormed_empty : empty.WellFormed where
  nodup_specifiers := List.nodup_nil
  nodup_names := fun _ h => by cases h

/-! ## The sorted view -/

/-- Sorting by a key that no two values share puts the keys into strictly increasing order. -/
theorem pairwise_sortBy {α : Type} (key : α → String) {l : List α} (h : (l.map key).Nodup) :
    ((sortBy key l).map key).Pairwise (· < ·) := by
  have hle : ((sortBy key l).map key).Pairwise (· ≤ ·) := by
    rw [List.pairwise_map]
    have hsorted := @List.pairwise_mergeSort _ (fun a b => decide (key a ≤ key b))
      (fun a b c => by simpa using le_trans) (fun a b => by simpa using le_total _ _) l
    simpa [sortBy] using hsorted
  have hnodup : ((sortBy key l).map key).Nodup :=
    (((List.mergeSort_perm l _).map key).nodup_iff).2 h
  exact hle.imp₂ (fun _ _ => lt_of_le_of_ne) hnodup

theorem mem_sortBy {α : Type} {key : α → String} {l : List α} {a : α} :
    a ∈ sortBy key l ↔ a ∈ l :=
  List.mem_mergeSort

/-- The clauses of the sorted view are the entries that bind or default anything, sorted by name. -/
theorem mem_values_iff {c : ImportCollection} {clause : ModuleImport} :
    clause ∈ c.values ↔
      ∃ e ∈ c.entries, (isGiven e.default || !e.bindings.isEmpty) = true ∧
        { e with bindings := sortBy (·.name) e.bindings } = clause := by
  simp only [values, mem_sortBy, List.mem_map, List.mem_filter, and_assoc]

theorem pairwise_specifiers_values {c : ImportCollection} (h : c.WellFormed) :
    (c.values.map (·.specifier)).Pairwise (· < ·) := by
  refine pairwise_sortBy ModuleImport.specifier ?_
  rw [List.map_map]
  exact h.nodup_specifiers.sublist ((List.filter_sublist).map _)

theorem pairwise_names_of_mem_values {c : ImportCollection} (h : c.WellFormed)
    {clause : ModuleImport} (hclause : clause ∈ c.values) : clause.names.Pairwise (· < ·) := by
  obtain ⟨e, he, _, rfl⟩ := mem_values_iff.1 hclause
  exact pairwise_sortBy Binding.name (h.nodup_names e he)

theorem mem_bound_iff {clauses : List ModuleImport} {specifier name : String} :
    (specifier, name) ∈ clauses.flatMap ModuleImport.bound ↔
      ∃ clause ∈ clauses, clause.specifier = specifier ∧ name ∈ clause.names := by
  rw [List.mem_flatMap]
  refine exists_congr fun clause => and_congr_right fun _ => ?_
  rw [ModuleImport.bound, List.mem_map]
  constructor
  · rintro ⟨_, hname, heq⟩
    obtain ⟨rfl, rfl⟩ := Prod.mk.inj heq
    exact ⟨rfl, hname⟩
  · rintro ⟨rfl, hname⟩
    exact ⟨name, hname, rfl⟩

/-- The sorted view binds what the collection binds. -/
theorem mem_bound_values_iff {c : ImportCollection} (h : c.WellFormed) {specifier name : String} :
    (specifier, name) ∈ c.values.flatMap ModuleImport.bound ↔
      name ∈ (c.entry specifier).names := by
  rw [mem_bound_iff]
  constructor
  · rintro ⟨clause, hclause, rfl, hname⟩
    obtain ⟨e, he, _, rfl⟩ := mem_values_iff.1 hclause
    rw [entry_eq_of_mem h.nodup_specifiers he]
    simpa [ModuleImport.names, mem_sortBy] using hname
  · intro hname
    obtain ⟨hmem, hspecifier⟩ := entry_mem_of_mem_names hname
    -- only entries that bind nothing are left out of the view
    have hbinds : (c.entry specifier).bindings ≠ [] := by
      intro hnil
      simp [ModuleImport.names, hnil] at hname
    refine ⟨_, mem_values_iff.2 ⟨_, hmem, by simp [hbinds], rfl⟩, hspecifier, ?_⟩
    simpa [ModuleImport.names, mem_sortBy] using hname

/-- No name of a module is bound twice. -/
theorem nodup_bound_values {c : ImportCollection} (h : c.WellFormed) :
    (c.values.flatMap ModuleImport.bound).Nodup := by
  refine List.nodup_flatMap.2 ⟨?_, ?_⟩
  · intro clause hclause
    exact (pairwise_names_of_mem_values h hclause).nodup.map fun _ _ heq => (Prod.mk.inj heq).2
  · -- names of different clauses differ in their modules
    refine (List.pairwise_map.1 (pairwise_specifiers_values h)).imp fun {d e} hlt => ?_
    intro pair hd he
    obtain ⟨_, _, rfl⟩ := List.mem_map.1 hd
    obtain ⟨_, _, heq⟩ := List.mem_map.1 he
    exact hlt.ne (Prod.mk.inj heq).1.symm

end ImportCollection

end SchemaTypes
