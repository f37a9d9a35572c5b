import Mathlib.Data.List.Perm.Subperm
import SchemaTypes.Proofs.Outcome

set_option autoImplicit false

/-! # Taking turns

Whatever turns computations take that run side by side, no call is lost, made twice or made up: the
calls that they have made and those that are pending are together the calls that they had to make.
One turn keeps that balance (`exists_step_eq`), hence any number of turns does (`exists_run_eq`).
From that it follows what sessions side by side ask (`perm_gather`) and what is asked around the
closing of a database that some of them still use (`exists_ensuring_eq`).
-/

namespace SchemaTypes

namespace Group

variable {α : Type}

/-- In a turn at most one call is made, and it is pending no longer. -/
theorem exists_step_eq (group : Group) (turn : Nat) :
    ∃ made left, group.step turn = ⟨group.calls ++ made, left⟩ ∧
      (made ++ left.flatten).Perm group.pending.flatten := by
  unfold step
  split
  · next call rest hturn =>
    obtain ⟨hlt, hget⟩ := List.getElem?_eq_some_iff.1 hturn
    obtain ⟨before, after, hpending, _, hset⟩ :=
      @List.exists_of_set _ turn rest group.pending hlt
    refine ⟨[call], _, rfl, ?_⟩
    rw [hset, hpending, hget]
    simp only [List.flatten_append, List.flatten_cons, List.cons_append, List.nil_append]
    exact List.perm_middle.symm
  · exact ⟨[], group.pending, by rw [List.append_nil], .refl _⟩

/-- In any number of turns calls that were pending are made, each at most once. -/
theorem exists_run_eq (group : Group) (turns : List Nat) :
    ∃ made left, group.run turns = ⟨group.calls ++ made, left⟩ ∧
      (made ++ left.flatten).Perm group.pending.flatten := by
  induction turns generalizing group with
  | nil => exact ⟨[], group.pending, by rw [List.append_nil]; rfl, .refl _⟩
  | cons turn turns ih =>
    obtain ⟨made, left, hstep, hmade⟩ := group.exists_step_eq turn
    obtain ⟨more, rest, hrun, hmore⟩ := ih (group.step turn)
    rw [hstep] at hrun hmore
    refine ⟨made ++ more, rest, ?_, ?_⟩
    · rw [run, List.foldl_cons, hstep, ← run, hrun, List.append_assoc]
    · rw [List.append_assoc]
      exact (hmore.append_left made).trans hmade

/-- A race is a run that may be over early. -/
theorem exists_race_eq (outcomes : List (Except Failure α)) (turns : List Nat) (group : Group) :
    ∃ taken, (race outcomes turns group).1 = group.run taken := by
  induction turns generalizing group with
  | nil => exact ⟨[], rfl⟩
  | cons turn turns ih =>
    unfold race
    split
    · exact ⟨[], rfl⟩
    · obtain ⟨taken, htaken⟩ := ih (group.step turn)
      exact ⟨turn :: taken, htaken⟩

/-- The failure that ends a race is that of one of the computations. -/
theorem mem_of_race_eq_some {outcomes : List (Except Failure α)} {turns : List Nat} {group : Group}
    {failure : Failure} (h : (race outcomes turns group).2 = some failure) :
    .error failure ∈ outcomes := by
  induction turns generalizing group with
  | nil => cases h
  | cons turn turns ih =>
    unfold race at h
    split at h
    · next hfails =>
      cases h
      exact List.mem_of_getElem? hfails
    · exact ih h

end Group

namespace Session

variable {α : Type} {sessions : List (Session α)}

/-- What is asked and what is pending when the race of sessions is over is what each of them
asks. -/
theorem perm_race (turns : List Nat) (sessions : List (Session α)) :
    ((Group.race (sessions.map outcome) turns ⟨[], sessions.map calls⟩).1.calls
      ++ (Group.race (sessions.map outcome) turns ⟨[], sessions.map calls⟩).1.pending.flatten).Perm
      (sessions.flatMap calls) := by
  obtain ⟨taken, htaken⟩ := Group.exists_race_eq (sessions.map outcome) turns
    ⟨[], sessions.map calls⟩
  obtain ⟨made, left, hrun, hmade⟩ := Group.exists_run_eq ⟨[], sessions.map calls⟩ taken
  rw [htaken, hrun, List.flatMap_def]
  exact hmade

/-- Sessions that leave nothing running themselves, side by side: either nothing is left running, or
one of them failed and all fail with it. -/
theorem perm_gather (turns : List Nat) (hpending : ∀ session ∈ sessions, session.pending = []) :
    ((gather turns sessions).calls ++ (gather turns sessions).pending.flatten).Perm
        (sessions.flatMap calls) ∧
      ((gather turns sessions).pending = [] ∨
        ∃ session ∈ sessions, ∃ failure, session.outcome = .error failure ∧
          (gather turns sessions).outcome = .error failure) := by
  have hnone : sessions.flatMap pending = [] := List.flatMap_eq_nil_iff.2 hpending
  have hrace := perm_race turns sessions
  unfold gather
  split
  · next group failure hlost =>
    have hfails : some failure = (Group.race (sessions.map outcome) turns
        ⟨[], sessions.map calls⟩).2 := by
      rw [hlost]
    obtain ⟨session, hmem, hfailure⟩ := List.mem_map.1 (Group.mem_of_race_eq_some hfails.symm)
    rw [hlost] at hrace
    rw [hnone, List.append_nil]
    exact ⟨hrace, Or.inr ⟨session, hmem, failure, hfailure, rfl⟩⟩
  · next group hwon =>
    rw [hwon] at hrace
    rw [hnone, List.flatten_nil, List.append_nil]
    exact ⟨hrace, Or.inl rfl⟩

/-- Sessions that take no turns are carried to their ends one after the other. -/
theorem calls_gather_nil (sessions : List (Session α)) :
    (gather [] sessions).calls = sessions.flatMap calls := by
  rw [List.flatMap_def]
  rfl

/-- Sessions side by side that all succeed, whatever turns they take. -/
theorem outcome_gather (turns : List Nat) {results : List α}
    (h : sessions.map outcome = results.map .ok) :
    (gather turns sessions).outcome = .ok results := by
  have hall : sessions.mapM outcome = .ok results := by
    have hid : (sessions.map outcome).mapM id = .ok results := by
      rw [h, List.mapM_map]
      exact (mapM_eq_ok fun _ _ => rfl).trans (congrArg Except.ok (List.map_id results))
    rwa [List.mapM_map] at hid
  unfold gather
  split
  · next group failure hlost =>
    have hfails : some failure = (Group.race (sessions.map outcome) turns
        ⟨[], sessions.map calls⟩).2 := by
      rw [hlost]
    have hmem := Group.mem_of_race_eq_some hfails.symm
    rw [h] at hmem
    obtain ⟨_, _, hok⟩ := List.mem_map.1 hmem
    cases hok
  · exact hall

/-- Closing calls come together. What was left running is asked before them or after them, or it is
not asked any more. -/
theorem exists_ensuring_eq (closing : List Call) (overtime : Overtime) (session : Session α) :
    ∃ early late left,
      session.ensuring closing overtime
        = ⟨session.calls ++ early ++ closing ++ late, session.outcome, left⟩ ∧
      (early ++ late ++ left.flatten).Perm session.pending.flatten := by
  obtain ⟨early, rest, hearly, hrest⟩ :=
    Group.exists_run_eq ⟨session.calls, session.pending⟩ overtime.before
  obtain ⟨late, left, hlate, hleft⟩ :=
    Group.exists_run_eq ⟨session.calls ++ early ++ closing, rest⟩ overtime.after
  refine ⟨early, late, left, ?_, ?_⟩
  · simp only [ensuring, hearly, hlate]
  · rw [List.append_assoc]
    exact (hleft.append_left early).trans hrest

end Session

end SchemaTypes
