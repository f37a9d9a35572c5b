import Mathlib.Data.List.Sort
import SchemaTypes.Proofs.Import.Conflicts

set_option autoImplicit false

/-! # The order of imports

The sorted view of a collection depends on nothing but the default and the set of bindings that each
module has (`values_eq_of_entries`). What a collection has after imports that agree with each other
is what they ask for, all of it (`Agree.default_add_empty_eq_some_iff`,
`Agree.mem_bindings_add_empty_iff`), and that is the same in any order.

The main statement is `values_of_batches`: imports that agree are all added, in whatever order and
in however many portions they come, and the sorted view is always the same.
-/

namespace SchemaTypes.ImportCollection

/-- Imports that do not contradict each other: a module is given one default at most, and all
bindings of one of its names are equal. -/
structure Agree (requests : List ModuleImport) : Prop where
  default_eq : ∀ first ∈ requests, ∀ second ∈ requests, ∀ specifier name name',
    first.Gives specifier name → second.Gives specifier name' → name = name'
  renamed_eq : ∀ first ∈ requests, ∀ second ∈ requests, first.specifier = second.specifier →
    ∀ b ∈ first.bindings, ∀ d ∈ second.bindings, b.name = d.name → b.renamed = d.renamed

/-! ## The sorted view by the contents of the entries -/

/-- Lists in strictly increasing order are equal if they have the same members. -/
theorem eq_of_pairwise_lt {α : Type} (key : α → String) {l l' : List α}
    (h : (l.map key).Pairwise (· < ·))
    (h' : (l'.map key).Pairwise (· < ·)) (hmem : ∀ a, a ∈ l ↔ a ∈ l') : l = l' := by
  have hirrefl : Std.Irrefl fun a b : α => key a < key b := ⟨fun _ => lt_irrefl _⟩
  have hantisymm : Std.Antisymm fun a b : α => key a < key b :=
    ⟨fun _ _ hab hba => absurd hba hab.asymm⟩
  exact (List.pairwise_map.1 h).eq_of_mem_iff (List.pairwise_map.1 h') hmem

/-- Bindings with distinct names have one sorted list. -/
theorem sortBy_name_eq {bindings bindings' : List Binding} (h : (bindings.map (·.name)).Nodup)
    (h' : (bindings'.map (·.name)).Nodup) (hmem : ∀ b, b ∈ bindings ↔ b ∈ bindings') :
    sortBy (·.name) bindings = sortBy (·.name) bindings' := by
  refine eq_of_pairwise_lt Binding.name (pairwise_sortBy _ h) (pairwise_sortBy _ h') ?_
  intro b
  rw [mem_sortBy, mem_sortBy, hmem]

theorem sortBy_ne_nil_iff {α : Type} {key : α → String} {l : List α} :
    sortBy key l ≠ [] ↔ l ≠ [] := by
  rw [Ne, ← List.length_eq_zero_iff, sortBy, List.length_mergeSort, List.length_eq_zero_iff]

/-- What a module has, with the bindings sorted. -/
def clauseFor (c : ImportCollection) (specifier : String) : ModuleImport where
  specifier := specifier
  default := (c.entry specifier).default
  bindings := sortBy (·.name) (c.entry specifier).bindings

/-- A module is shown if it has a default or a binding. -/
theorem clauseFor_mem_values {c : ImportCollection} (h : c.WellFormed) {specifier : String}
    (hshown : isGiven (c.clauseFor specifier).default = true ∨
      (c.clauseFor specifier).bindings ≠ []) :
    c.clauseFor specifier ∈ c.values := by
  have hentry : isGiven (c.entry specifier).default = true ∨ (c.entry specifier).bindings ≠ [] :=
    hshown.imp_right sortBy_ne_nil_iff.1
  obtain ⟨clause, hclause, rfl⟩ := List.mem_map.1 ((mem_specifiers_values_iff h).2 hentry)
  obtain ⟨hdefault, hbindings⟩ := eq_entry_of_mem_values h hclause
  rwa [clauseFor, ← hdefault, ← hbindings]

/-- The clauses that are shown are those with a default or a binding. -/
theorem mem_values_iff_clauseFor {c : ImportCollection} (h : c.WellFormed) {clause : ModuleImport} :
    clause ∈ c.values ↔
      clause = c.clauseFor clause.specifier ∧
        (isGiven clause.default = true ∨ clause.bindings ≠ []) := by
  constructor
  · intro hclause
    obtain ⟨hdefault, hbindings⟩ := eq_entry_of_mem_values h hclause
    have hshown := (mem_specifiers_values_iff h).1 (List.mem_map_of_mem hclause)
    refine ⟨by rw [clauseFor, ← hdefault, ← hbindings], ?_⟩
    rw [hdefault, hbindings]
    exact hshown.imp_right sortBy_ne_nil_iff.2
  · rintro ⟨heq, hshown⟩
    rw [heq] at hshown ⊢
    exact clauseFor_mem_values h hshown

/-- The sorted view is determined by the default and the bindings of each module. -/
theorem values_eq_of_entries {c c' : ImportCollection} (h : c.WellFormed) (h' : c'.WellFormed)
    (hdefault : ∀ specifier, (c.entry specifier).default = (c'.entry specifier).default)
    (hbindings : ∀ specifier b, b ∈ (c.entry specifier).bindings ↔
      b ∈ (c'.entry specifier).bindings) :
    c.values = c'.values := by
  have hclause (specifier : String) : c.clauseFor specifier = c'.clauseFor specifier := by
    have hsorted := sortBy_name_eq (h.nodup_names_entry specifier) (h'.nodup_names_entry specifier)
      (hbindings specifier)
    rw [clauseFor, clauseFor, hdefault, hsorted]
  refine eq_of_pairwise_lt ModuleImport.specifier (pairwise_specifiers_values h)
    (pairwise_specifiers_values h') ?_
  intro clause
  rw [mem_values_iff_clauseFor h, mem_values_iff_clauseFor h', hclause]

/-! ## What is registered -/

theorem Log.register_eq_append {log : Log} {rs : List Registration}
    (h : (log.register rs).2 = none) :
    (log.register rs).1 = log ++ rs := by
  induction rs generalizing log with
  | nil => rw [register, List.append_nil]
  | cons r rs ih =>
    rw [register] at h ⊢
    cases hrefusal : log.refusal? r with
    | some e =>
      rw [hrefusal] at h
      cases h
    | none =>
      rw [hrefusal] at h
      rw [ih h, List.append_assoc, List.singleton_append]

theorem Log.mem_of_binding?_eq {log : Log} {specifier name : String} {b : Binding}
    (h : log.binding? specifier name = some b) : .binding specifier b ∈ log := by
  obtain ⟨r, hr, hsome⟩ := List.exists_of_findSome?_eq_some h
  cases r with
  | binding s d =>
    rw [Registration.binding?] at hsome
    split at hsome
    · rename_i hd
      cases hsome
      exact hd.1 ▸ hr
    · cases hsome
  | default => cases hsome

/-- The bindings that imports ask to register. -/
theorem mem_registrations_iff {requests : List ModuleImport} {specifier : String} {b : Binding} :
    .binding specifier b ∈ requests.flatMap Registration.ofImport ↔
      ∃ request ∈ requests, request.specifier = specifier ∧ b ∈ request.bindings := by
  rw [List.mem_flatMap]
  refine exists_congr fun request => and_congr_right fun _ => ?_
  rw [Registration.ofImport, List.mem_append, List.mem_map, List.mem_map]
  constructor
  · rintro (⟨_, _, heq⟩ | ⟨d, hd, heq⟩)
    · cases heq
    · cases heq
      exact ⟨rfl, hd⟩
  · rintro ⟨rfl, hb⟩
    exact .inr ⟨b, hb, rfl⟩

/-- An empty default is never stored. -/
theorem default_add_ne_empty {c : ImportCollection} {requests : List ModuleImport}
    (hc : ∀ specifier, (c.entry specifier).default ≠ some "") :
    ∀ specifier, ((c.add requests).1.entry specifier).default ≠ some "" := by
  induction requests generalizing c with
  | nil => exact hc
  | cons request rest ih =>
    rw [add]
    cases hadd : c.addOne request with
    | error e => exact hc
    | ok next =>
      refine ih ?_
      intro specifier
      rcases default_addOne hadd with ⟨requested, hgives, hdefault⟩ | ⟨_, hdefault⟩
      · rw [hdefault]
        split
        · exact fun hempty => hgives.2.2 (Option.some.inj hempty)
        · exact hc specifier
      · rw [hdefault]
        exact hc specifier

/-! ## Imports that agree -/

namespace Agree

variable {requests : List ModuleImport} (h : Agree requests)
include h

theorem of_perm {other : List ModuleImport} (hperm : other.Perm requests) : Agree other where
  default_eq := fun first hfirst second hsecond =>
    h.default_eq first (hperm.subset hfirst) second (hperm.subset hsecond)
  renamed_eq := fun first hfirst second hsecond =>
    h.renamed_eq first (hperm.subset hfirst) second (hperm.subset hsecond)

/-- Nothing is refused. -/
theorem add_empty_eq_none : (empty.add requests).2 = none := by
  refine add_eq_none ?_
  rintro k specifier existing requested ⟨request, hrequest, hgives, hhas, hne⟩
  rcases hhas with ⟨hdefault, _⟩ | ⟨earlier, hearlier, hexisting⟩
  · cases hdefault
  · exact hne (h.default_eq earlier (List.mem_of_mem_take hearlier) request
      (List.mem_of_getElem? hrequest) specifier existing requested hexisting hgives)

/-- All that is asked for is registered. -/
theorem records_add_empty :
    (empty.add requests).1.Records (requests.flatMap Registration.ofImport) := by
  obtain ⟨hrecords, herror⟩ := records_empty.add requests
  rw [h.add_empty_eq_none] at herror
  rwa [Log.register_eq_append herror.symm, List.nil_append] at hrecords

/-- Each module has all bindings that are asked for. -/
theorem mem_bindings_add_empty_iff {specifier : String} {b : Binding} :
    b ∈ ((empty.add requests).1.entry specifier).bindings ↔
      ∃ request ∈ requests, request.specifier = specifier ∧ b ∈ request.bindings := by
  have hrecords := h.records_add_empty
  rw [← mem_registrations_iff]
  constructor
  · intro hb
    have hfound := find?_eq_some_of_mem (hrecords.wellFormed.nodup_names_entry specifier) hb
    rw [hrecords.find?_eq] at hfound
    exact Log.mem_of_binding?_eq hfound
  · intro hb
    obtain ⟨first, hfirst⟩ := Log.exists_binding?_eq_iff.2 ⟨b, hb, rfl⟩
    have hname : first.name = b.name := Log.name_of_binding?_eq hfirst
    -- the binding that is registered first is the same one
    obtain ⟨r, hr, hspecifier, hmem⟩ := mem_registrations_iff.1 (Log.mem_of_binding?_eq hfirst)
    obtain ⟨r', hr', hspecifier', hmem'⟩ := mem_registrations_iff.1 hb
    have hrenamed :=
      h.renamed_eq r hr r' hr' (hspecifier.trans hspecifier'.symm) first hmem b hmem' hname
    have hsame : first = b := by
      cases first
      cases b
      simp_all
    rw [← hrecords.find?_eq] at hfirst
    exact hsame ▸ List.mem_of_find?_eq_some hfirst

/-- Each module has the default that is asked for. -/
theorem default_add_empty_eq_some_iff {specifier name : String} :
    ((empty.add requests).1.entry specifier).default = some name ↔
      ∃ request ∈ requests, request.Gives specifier name := by
  have hempty : ¬ empty.HasDefault specifier name := by
    rintro ⟨hdefault, _⟩
    cases hdefault
  have hhas : (empty.add requests).1.HasDefault specifier name ↔
      empty.HasDefaultAfter requests specifier name := hasDefault_add_iff h.add_empty_eq_none
  rw [HasDefaultAfter, or_iff_right hempty] at hhas
  rw [← hhas]
  refine ⟨fun hdefault => ⟨hdefault, ?_⟩, And.left⟩
  rintro rfl
  have hnone : ∀ other, (empty.entry other).default ≠ some "" := by
    intro _ hsome
    cases hsome
  exact default_add_ne_empty hnone specifier hdefault

/-- Imports that agree make the same sorted view in any order. -/
theorem values_add_empty_eq_of_perm {other : List ModuleImport} (hperm : other.Perm requests) :
    (empty.add other).1.values = (empty.add requests).1.values := by
  have hother := h.of_perm hperm
  refine values_eq_of_entries hother.records_add_empty.wellFormed
    h.records_add_empty.wellFormed ?_ ?_
  · intro specifier
    refine Option.ext fun name => ?_
    rw [hother.default_add_empty_eq_some_iff, h.default_add_empty_eq_some_iff]
    simp only [hperm.mem_iff]
  · intro specifier b
    rw [hother.mem_bindings_add_empty_iff, h.mem_bindings_add_empty_iff]
    simp only [hperm.mem_iff]

/-- The clauses of the sorted view have the defaults that are asked for. -/
theorem exists_default_values_iff {specifier name : String} :
    (∃ clause ∈ (empty.add requests).1.values,
      clause.specifier = specifier ∧ clause.default = some name) ↔
      ∃ request ∈ requests, request.Gives specifier name := by
  have hwellFormed := h.records_add_empty.wellFormed
  rw [← h.default_add_empty_eq_some_iff]
  constructor
  · rintro ⟨clause, hclause, rfl, hname⟩
    rw [← (eq_entry_of_mem_values hwellFormed hclause).1, hname]
  · intro hname
    obtain ⟨request, _, hgives⟩ := h.default_add_empty_eq_some_iff.1 hname
    refine ⟨_, clauseFor_mem_values hwellFormed (.inl ?_), rfl, hname⟩
    rw [clauseFor, hname]
    exact bne_iff_ne.2 hgives.2.2

/-- The clauses of the sorted view have the bindings that are asked for. -/
theorem exists_binding_values_iff {specifier : String} {b : Binding} :
    (∃ clause ∈ (empty.add requests).1.values, clause.specifier = specifier ∧ b ∈ clause.bindings) ↔
      ∃ request ∈ requests, request.specifier = specifier ∧ b ∈ request.bindings := by
  have hwellFormed := h.records_add_empty.wellFormed
  rw [← h.mem_bindings_add_empty_iff]
  constructor
  · rintro ⟨clause, hclause, rfl, hb⟩
    rwa [(eq_entry_of_mem_values hwellFormed hclause).2, mem_sortBy] at hb
  · intro hb
    have hsorted : b ∈ ((empty.add requests).1.clauseFor specifier).bindings := mem_sortBy.2 hb
    exact ⟨_, clauseFor_mem_values hwellFormed (.inr (List.ne_nil_of_mem hsorted)), rfl, hsorted⟩

end Agree

/-! ## Portions -/

/-- Adds portions of imports one after the other, up to the first error. -/
def addBatches (c : ImportCollection) :
    List (List ModuleImport) → Except GeneratorError ImportCollection
  | [] => .ok c
  | batch :: rest =>
    match c.add batch with
    | (next, none) => next.addBatches rest
    | (_, some e) => .error e

/-- Imports that can be added in one go can be added in two. -/
theorem add_append_of_eq_none {c : ImportCollection} {first second : List ModuleImport}
    (h : (c.add (first ++ second)).2 = none) :
    (c.add first).2 = none ∧ c.add (first ++ second) = (c.add first).1.add second := by
  -- an error in the first part would be one of the whole, so both parts go on from the same
  -- collection
  induction first generalizing c with
  | nil => exact ⟨rfl, rfl⟩
  | cons request rest ih =>
    rw [List.cons_append, add] at h ⊢
    rw [add]
    cases hadd : c.addOne request with
    | error e =>
      rw [hadd] at h
      cases h
    | ok next =>
      rw [hadd] at h
      exact ih h

theorem addBatches_eq_ok {c : ImportCollection} {batches : List (List ModuleImport)}
    (h : (c.add batches.flatten).2 = none) :
    c.addBatches batches = .ok (c.add batches.flatten).1 := by
  induction batches generalizing c with
  | nil => rfl
  | cons batch rest ih =>
    rw [List.flatten_cons] at h ⊢
    obtain ⟨hbatch, heq⟩ := add_append_of_eq_none h
    rw [heq] at h ⊢
    rw [addBatches, ← ih h]
    cases hadd : c.add batch with
    | mk next error =>
      rw [hadd] at hbatch
      obtain rfl : error = none := hbatch
      rfl

/-- Imports that agree are all added, in any order and in any portions, and lead to the same sorted
view: it has the defaults and the bindings that are asked for, and no others. -/
theorem values_of_batches {requests : List ModuleImport} (h : Agree requests) :
    ∃ clauses : List ModuleImport,
      (∀ batches : List (List ModuleImport), batches.flatten.Perm requests →
        ∃ c, empty.addBatches batches = .ok c ∧ c.values = clauses) ∧
      (∀ specifier name,
        (∃ clause ∈ clauses, clause.specifier = specifier ∧ clause.default = some name) ↔
          ∃ request ∈ requests, request.Gives specifier name) ∧
      ∀ specifier b,
        (∃ clause ∈ clauses, clause.specifier = specifier ∧ b ∈ clause.bindings) ↔
          ∃ request ∈ requests, request.specifier = specifier ∧ b ∈ request.bindings := by
  refine ⟨(empty.add requests).1.values, ?_, fun _ _ => h.exists_default_values_iff,
    fun _ _ => h.exists_binding_values_iff⟩
  intro batches hperm
  exact ⟨_, addBatches_eq_ok (h.of_perm hperm).add_empty_eq_none,
    h.values_add_empty_eq_of_perm hperm⟩

/-- Imports of three modules, with a default that is asked for twice and a binding that is. -/
def agreeingImports : List ModuleImport :=
  [{ specifier := "node:buffer", bindings := [{ name := "Buffer", renamed := some "NodeBuffer" }] },
   { specifier := "decimal.js", default := some "Decimal" },
   { specifier := "kysely", default := some "",
     bindings := [{ name := "Generated" }, { name := "ColumnType" }] },
   { specifier := "decimal.js", default := some "Decimal", bindings := [{ name := "Numeric" }] },
   { specifier := "node:buffer", bindings := [{ name := "Buffer", renamed := some "NodeBuffer" }] }]

/-- The imports in one portion, and backwards in three. -/
theorem values_of_batches_backwards :
    Agree agreeingImports ∧
    ∃ c c', empty.addBatches [agreeingImports] = .ok c ∧
      empty.addBatches
        [agreeingImports.reverse.take 2, [], agreeingImports.reverse.drop 2] = .ok c' ∧
      c.values = c'.values := by
  have h : Agree agreeingImports := by
    constructor
    · rintro first hfirst second hsecond specifier name name' ⟨rfl, hname, hne⟩
        ⟨hspecifier, hname', hne'⟩
      simp only [agreeingImports, List.mem_cons, List.not_mem_nil, or_false] at hfirst hsecond
      rcases hfirst with rfl | rfl | rfl | rfl | rfl <;>
        rcases hsecond with rfl | rfl | rfl | rfl | rfl <;> simp_all
    · decide
  obtain ⟨clauses, hbatches, _⟩ := values_of_batches h
  obtain ⟨c, hc, hvalues⟩ := hbatches [agreeingImports] (by simp)
  obtain ⟨c', hc', hvalues'⟩ := hbatches
    [agreeingImports.reverse.take 2, [], agreeingImports.reverse.drop 2]
      (by simp [List.reverse_perm])
  exact ⟨h, c, c', hc, hc', hvalues.trans hvalues'.symm⟩

end SchemaTypes.ImportCollection
