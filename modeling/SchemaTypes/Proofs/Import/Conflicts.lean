import Mathlib.Data.Nat.Find
import SchemaTypes.Proofs.Import.History

set_option autoImplicit false

/-! # Conflicting defaults

Imports are added one by one, each as a whole or not at all (`addOne_eq_error_iff`), and one that is
added gives its module its default (`hasDefault_addOne_iff`). So the collection and the list of
imports tell beforehand what will go wrong: an import conflicts if it asks for another default than
its module has in the collection or gets from an earlier import of the list (`ConflictsAt`).

The main statement is `add_stops_at_conflict`: adding fails exactly if some import conflicts, and
then the collection is left as the imports before the first such import make it.
-/

namespace SchemaTypes

/-- An import asks for a default of a module. An empty one counts as none. -/
def ModuleImport.Gives (request : ModuleImport) (specifier name : String) : Prop :=
  request.specifier = specifier ∧ request.default = some name ∧ name ≠ ""

namespace ImportCollection

/-- A module has a default that is not empty. -/
def HasDefault (c : ImportCollection) (specifier name : String) : Prop :=
  (c.entry specifier).default = some name ∧ name ≠ ""

/-- A module has a default, or is given one by some of the imports to be added. -/
def HasDefaultAfter (c : ImportCollection) (requests : List ModuleImport)
    (specifier name : String) : Prop :=
  c.HasDefault specifier name ∨ ∃ request ∈ requests, request.Gives specifier name

/-- The import at a position asks for another default than its module has in the collection or gets
from one before it. -/
def ConflictsAt (c : ImportCollection) (requests : List ModuleImport) (k : Nat)
    (specifier existing requested : String) : Prop :=
  ∃ request, requests[k]? = some request ∧ request.Gives specifier requested ∧
    c.HasDefaultAfter (requests.take k) specifier existing ∧ existing ≠ requested

variable {c next : ImportCollection} {request : ModuleImport} {requests rest : List ModuleImport}
  {k : Nat} {specifier existing requested name : String} {e : GeneratorError}

/-! ## One default -/

/-- A default is refused if the module has another one. -/
theorem addDefault_eq_error_iff : c.addDefault specifier requested = .error e ↔
    ∃ existing, c.HasDefault specifier existing ∧ existing ≠ requested ∧
      e = .importConflict specifier existing requested := by
  simp only [HasDefault]
  rw [addDefault]
  cases (c.entry specifier).default with
  | none => simp [isGiven]
  | some existing =>
    by_cases hempty : existing = ""
    · simp [isGiven, hempty]
    · by_cases hsame : existing = requested
      · simp [isGiven, hsame]
      · simp [isGiven, hempty, hsame]
        exact eq_comm

/-- A default that is not refused becomes that of its module. The other modules keep theirs. -/
theorem default_addDefault (h : c.addDefault specifier requested = .ok next) (other : String) :
    (next.entry other).default =
      if other = specifier then some requested else (c.entry other).default := by
  rw [addDefault] at h
  split at h
  · cases h
  · rw [← Except.ok.inj h, entry_update]
    · split <;> rfl
    · intro _
      rfl

/-! ## One import -/

theorem default_addBindings (c : ImportCollection) (request : ModuleImport) (specifier : String) :
    ((c.addBindings request).entry specifier).default = (c.entry specifier).default := by
  unfold addBindings
  split
  · rfl
  · rw [addNamed, entry_update]
    · by_cases hspecifier : specifier = request.specifier
      · rw [if_pos hspecifier, hspecifier]
      · rw [if_neg hspecifier]
    · intro _
      rfl

/-- An import either asks for a default or does not. -/
theorem addOne_cases (c : ImportCollection) (request : ModuleImport) :
    (∃ requested, request.Gives request.specifier requested ∧
      c.addOne request = (c.addDefault request.specifier requested).map (addBindings · request)) ∨
    (∀ specifier requested, ¬ request.Gives specifier requested) ∧
      c.addOne request = .ok (c.addBindings request) := by
  rw [addOne_eq]
  cases hgiven : request.default.filter (· ≠ "") with
  | none =>
    refine .inr ⟨?_, rfl⟩
    rintro specifier requested ⟨_, hdefault, hne⟩
    simp [hdefault, hne] at hgiven
  | some requested =>
    obtain ⟨hdefault, hne⟩ := Option.filter_eq_some_iff.1 hgiven
    exact .inl ⟨requested, ⟨rfl, hdefault, of_decide_eq_true hne⟩, rfl⟩

/-- An import is refused as a whole if its module has another default. -/
theorem addOne_eq_error_iff : c.addOne request = .error e ↔
    ∃ existing requested, request.Gives request.specifier requested ∧
      c.HasDefault request.specifier existing ∧ existing ≠ requested ∧
      e = .importConflict request.specifier existing requested := by
  rcases addOne_cases c request with ⟨requested, hgives, heq⟩ | ⟨hnone, heq⟩
  · have honly : ∀ other, request.Gives request.specifier other → other = requested :=
      fun other hother => Option.some.inj (hother.2.1.symm.trans hgives.2.1)
    have hmap : (c.addDefault request.specifier requested).map (addBindings · request) = .error e ↔
        c.addDefault request.specifier requested = .error e := by
      cases c.addDefault request.specifier requested <;> simp [Except.map]
    rw [heq, hmap, addDefault_eq_error_iff]
    refine exists_congr fun existing => ⟨fun h => ⟨requested, hgives, h⟩, ?_⟩
    rintro ⟨other, hother, h⟩
    rwa [honly other hother] at h
  · rw [heq]
    constructor
    · intro h
      cases h
    · rintro ⟨_, requested, hgives, _⟩
      exact absurd hgives (hnone _ requested)

/-- An import that is added changes at most the default of its module. -/
theorem default_addOne (h : c.addOne request = .ok next) :
    (∃ requested, request.Gives request.specifier requested ∧ ∀ other, (next.entry other).default =
      if other = request.specifier then some requested else (c.entry other).default) ∨
    (∀ specifier requested, ¬ request.Gives specifier requested) ∧
      ∀ other, (next.entry other).default = (c.entry other).default := by
  rcases addOne_cases c request with ⟨requested, hgives, heq⟩ | ⟨hnone, heq⟩
  · refine .inl ⟨requested, hgives, fun other => ?_⟩
    rw [heq] at h
    cases hadd : c.addDefault request.specifier requested with
    | error e =>
      rw [hadd] at h
      cases h
    | ok withDefault =>
      rw [hadd] at h
      cases h
      rw [default_addBindings, default_addDefault hadd]
  · refine .inr ⟨hnone, fun other => ?_⟩
    rw [heq] at h
    cases h
    exact default_addBindings c request other

theorem hasDefault_addOne_iff (h : c.addOne request = .ok next) :
    next.HasDefault specifier name ↔
      c.HasDefault specifier name ∨ request.Gives specifier name := by
  rcases default_addOne h with ⟨requested, hgives, hdefault⟩ | ⟨hnone, hdefault⟩
  · rw [HasDefault, hdefault]
    by_cases hspecifier : specifier = request.specifier
    · subst hspecifier
      rw [if_pos rfl]
      constructor
      · rintro ⟨hname, _⟩
        exact .inr (Option.some.inj hname ▸ hgives)
      · rintro (hhas | hname)
        · -- another default would have been refused
          have hsame : name = requested := by
            by_contra hne
            rw [addOne_eq_error_iff.2 ⟨name, requested, hgives, hhas, hne, rfl⟩] at h
            cases h
          exact ⟨congrArg some hsame.symm, hhas.2⟩
        · exact ⟨hgives.2.1.symm.trans hname.2.1, hname.2.2⟩
    · rw [if_neg hspecifier, ← HasDefault]
      exact (or_iff_left fun hgives => hspecifier hgives.1.symm).symm
  · rw [HasDefault, hdefault, ← HasDefault]
    exact (or_iff_left (hnone specifier name)).symm

/-! ## Lists of imports -/

theorem hasDefaultAfter_cons_iff (h : c.addOne request = .ok next) :
    next.HasDefaultAfter rest specifier name ↔
      c.HasDefaultAfter (request :: rest) specifier name := by
  rw [HasDefaultAfter, HasDefaultAfter, hasDefault_addOne_iff h, List.exists_mem_cons_iff, or_assoc]

theorem conflictsAt_zero_iff : c.ConflictsAt (request :: rest) 0 specifier existing requested ↔
    request.Gives specifier requested ∧ c.HasDefault specifier existing ∧ existing ≠ requested := by
  simp [ConflictsAt, HasDefaultAfter]

/-- Once an import is added, the later ones conflict as they would have conflicted before. -/
theorem conflictsAt_succ_iff (h : c.addOne request = .ok next) :
    c.ConflictsAt (request :: rest) (k + 1) specifier existing requested ↔
      next.ConflictsAt rest k specifier existing requested := by
  simp only [ConflictsAt, List.getElem?_cons_succ, List.take_succ_cons, hasDefaultAfter_cons_iff h]

/-- An import that is refused is the first one, and it conflicts. -/
theorem exists_conflictsAt_zero (h : c.addOne request = .error e) (rest : List ModuleImport) :
    ∃ existing requested,
      c.ConflictsAt (request :: rest) 0 request.specifier existing requested := by
  obtain ⟨existing, requested, hgives, hhas, hne, _⟩ := addOne_eq_error_iff.1 h
  exact ⟨existing, requested, conflictsAt_zero_iff.2 ⟨hgives, hhas, hne⟩⟩

/-- The defaults of the imports that were added are those that modules have. -/
theorem hasDefault_add_iff (h : (c.add requests).2 = none) :
    (c.add requests).1.HasDefault specifier name ↔ c.HasDefaultAfter requests specifier name := by
  induction requests generalizing c with
  | nil => simp [add, HasDefaultAfter]
  | cons request rest ih =>
    rw [add] at h ⊢
    cases hadd : c.addOne request with
    | error e =>
      rw [hadd] at h
      cases h
    | ok next =>
      rw [hadd] at h
      exact (ih h).trans (hasDefaultAfter_cons_iff hadd)

/-- Without a conflict all imports are added. -/
theorem add_eq_none (h : ∀ k specifier existing requested,
    ¬ c.ConflictsAt requests k specifier existing requested) : (c.add requests).2 = none := by
  induction requests generalizing c with
  | nil => rfl
  | cons request rest ih =>
    rw [add]
    cases hadd : c.addOne request with
    | error e =>
      obtain ⟨existing, requested, hconflict⟩ := exists_conflictsAt_zero hadd rest
      exact absurd hconflict (h 0 _ existing requested)
    | ok next =>
      refine ih ?_
      intro k specifier existing requested hconflict
      exact h (k + 1) specifier existing requested ((conflictsAt_succ_iff hadd).2 hconflict)

/-- Adding stops at the first conflict and reports it. The imports before it are added. -/
theorem add_of_conflictsAt (h : c.ConflictsAt requests k specifier existing requested)
    (hfirst : ∀ j < k, ∀ specifier existing requested,
      ¬ c.ConflictsAt requests j specifier existing requested) :
    c.add (requests.take k) = ((c.add requests).1, none) ∧
      (c.add requests).2 = some (.importConflict specifier existing requested) := by
  -- the position moves on with the list, and the collection takes up what stood before it
  induction requests generalizing c k with
  | nil =>
    obtain ⟨request, hrequest, _⟩ := h
    simp at hrequest
  | cons request rest ih =>
    cases k with
    | zero =>
      obtain ⟨⟨rfl, hdefault, hgiven⟩, hhas, hne⟩ := conflictsAt_zero_iff.1 h
      have hrefused : c.addOne request
          = .error (.importConflict request.specifier existing requested) :=
        addOne_eq_error_iff.2 ⟨existing, requested, ⟨rfl, hdefault, hgiven⟩, hhas, hne, rfl⟩
      rw [List.take_zero, add, add, hrefused]
      exact ⟨rfl, rfl⟩
    | succ k =>
      rw [List.take_succ_cons, add, add]
      cases hadd : c.addOne request with
      | error e =>
        -- the first import would be an earlier conflict
        obtain ⟨existing', requested', hconflict⟩ := exists_conflictsAt_zero hadd rest
        exact absurd hconflict (hfirst 0 (Nat.succ_pos k) _ existing' requested')
      | ok next =>
        refine ih ((conflictsAt_succ_iff hadd).1 h) ?_
        intro j hj specifier existing requested hconflict
        exact hfirst (j + 1) (Nat.succ_lt_succ hj) specifier existing requested
          ((conflictsAt_succ_iff hadd).2 hconflict)

/-- Adding fails exactly if some import conflicts, and for the first one that does it reports the
module, the default that is there and the one that is asked for. The collection is then what the
imports before that one make of it, all of which are added. A default that is refused by itself
leaves the collection as it was. -/
theorem add_stops_at_conflict (c : ImportCollection) (requests : List ModuleImport) :
    ((∃ e, (c.add requests).2 = some e) ↔
      ∃ k specifier existing requested, c.ConflictsAt requests k specifier existing requested) ∧
    (∀ k specifier existing requested, c.ConflictsAt requests k specifier existing requested →
      (∀ j < k, ∀ specifier existing requested,
        ¬ c.ConflictsAt requests j specifier existing requested) →
      c.add (requests.take k) = ((c.add requests).1, none) ∧
        (c.add requests).2 = some (.importConflict specifier existing requested)) ∧
    ∀ specifier requested e, (c.perform (.addDefault specifier requested)).2 = some e ↔
      c.perform (.addDefault specifier requested) = (c, some e) ∧
        ∃ existing, c.HasDefault specifier existing ∧ existing ≠ requested ∧
          e = .importConflict specifier existing requested := by
  classical
  refine ⟨⟨?_, ?_⟩, fun k specifier existing requested => add_of_conflictsAt, ?_⟩
  · rintro ⟨e, he⟩
    by_contra hnone
    rw [add_eq_none fun k specifier existing requested h => hnone ⟨k, specifier, existing,
      requested, h⟩] at he
    cases he
  · intro h
    -- of all conflicts, the first one is reported
    obtain ⟨specifier, existing, requested, hconflict⟩ := Nat.find_spec h
    refine ⟨_, (add_of_conflictsAt hconflict ?_).2⟩
    intro j hj specifier existing requested hearlier
    exact Nat.find_min h hj ⟨specifier, existing, requested, hearlier⟩
  · intro specifier requested e
    rw [← addDefault_eq_error_iff, perform]
    cases c.addDefault specifier requested <;> simp

/-- A list of imports of which the third one asks for another default than the first one, with more
to come. -/
def conflictingImports : List ModuleImport :=
  [{ specifier := "decimal.js", default := some "Decimal", bindings := [{ name := "Numeric" }] },
   { specifier := "kysely", default := some "", bindings := [{ name := "Generated" }] },
   { specifier := "decimal.js", default := some "Big", bindings := [{ name := "Big" }] },
   { specifier := "kysely", default := some "Kysely" }]

/-- The first two imports are added, of the other two nothing is. -/
theorem add_stops_at_conflict_big :
    let c := empty.run [.addNamed "decimal.js" [{ name := "Numeric", renamed := some "N" }]]
    (c.ConflictsAt conflictingImports 2 "decimal.js" "Decimal" "Big" ∧
      ∀ j < 2, ∀ specifier existing requested,
        ¬ c.ConflictsAt conflictingImports j specifier existing requested) ∧
    c.add (conflictingImports.take 2) = ((c.add conflictingImports).1, none) ∧
    (c.add conflictingImports).2 = some (.importConflict "decimal.js" "Decimal" "Big") := by
  intro c
  have hconflict : c.ConflictsAt conflictingImports 2 "decimal.js" "Decimal" "Big" := by
    refine ⟨_, rfl, ⟨rfl, rfl, by decide⟩, ?_, by decide⟩
    exact .inr ⟨_, List.mem_cons_self, rfl, rfl, by decide⟩
  have hfirst : ∀ j < 2, ∀ specifier existing requested,
      ¬ c.ConflictsAt conflictingImports j specifier existing requested := by
    rintro j hj specifier existing requested ⟨request, hrequest, ⟨rfl, hdefault, hne⟩, hhas, _⟩
    obtain rfl | rfl : j = 0 ∨ j = 1 := by omega
    · -- the module has no default yet
      cases Option.some.inj hrequest
      rcases hhas with ⟨hnone, _⟩ | ⟨_, hmem, _⟩
      · cases hnone
      · cases hmem
    · -- an empty default is none
      cases Option.some.inj hrequest
      exact hne (Option.some.inj hdefault).symm
  exact ⟨⟨hconflict, hfirst⟩,
    (add_stops_at_conflict c conflictingImports).2.1 2 _ _ _ hconflict hfirst⟩

end ImportCollection

end SchemaTypes
