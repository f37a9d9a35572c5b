import SchemaTypes.Connection.Session

set_option autoImplicit false

/-! # Outcomes

The outcome of a list of computations that all succeed, and the outcomes of sessions, which are
those of their steps: the calls that a session makes have no part in them. What a database answers
to a statement is what it lets fetch after the statement was executed.
-/

namespace SchemaTypes

/-- A step that succeeds. -/
theorem ok_bind {ε α β : Type} (a : α) (f : α → Except ε β) : (Except.ok a >>= f) = f a := rfl

/-- A step that fails. -/
theorem error_bind {ε α β : Type} (e : ε) (f : α → Except ε β) :
    (Except.error e >>= f) = .error e := rfl

/-- Computations that succeed for all values of a list. -/
theorem mapM_eq_ok {ε α β : Type} {f : α → Except ε β} {g : α → β} {l : List α}
    (h : ∀ a ∈ l, f a = .ok (g a)) : l.mapM f = .ok (l.map g) := by
  induction l with
  | nil => rfl
  | cons a rest ih =>
    rw [List.forall_mem_cons] at h
    rw [List.mapM_cons, h.1, ih h.2]
    rfl

/-- Computations that succeed for all values of a list, whatever their results are. -/
theorem exists_mapM_eq_ok {ε α β : Type} {f : α → Except ε β} {l : List α}
    (h : ∀ a ∈ l, ∃ b, f a = .ok b) :
    ∃ bs, l.mapM f = .ok bs ∧ ∀ b ∈ bs, ∃ a ∈ l, f a = .ok b := by
  induction l with
  | nil => exact ⟨[], rfl, fun _ hb => by cases hb⟩
  | cons a rest ih =>
    rw [List.forall_mem_cons] at h
    obtain ⟨⟨b, hb⟩, hrest⟩ := h
    obtain ⟨bs, hbs, hfrom⟩ := ih hrest
    refine ⟨b :: bs, ?_, List.forall_mem_cons.2 ⟨⟨a, by simp, hb⟩, ?_⟩⟩
    · rw [List.mapM_cons, hb, hbs]
      rfl
    · intro c hc
      obtain ⟨d, hd, hfd⟩ := hfrom c hc
      exact ⟨d, List.mem_cons_of_mem _ hd, hfd⟩

/-- The first value for which a computation fails decides the failure of all. -/
theorem mapM_eq_error {ε α β : Type} {f : α → Except ε β} {p : α → Bool} {e : ε}
    {l : List α} {a : α} (hfind : l.find? p = some a) (herror : f a = .error e)
    (hok : ∀ a ∈ l, ¬ p a = true → ∃ b, f a = .ok b) : l.mapM f = .error e := by
  induction l with
  | nil => cases hfind
  | cons c rest ih =>
    rw [List.forall_mem_cons] at hok
    rw [List.find?_cons] at hfind
    rw [List.mapM_cons]
    cases hc : p c with
    | true =>
      rw [hc] at hfind
      cases hfind
      rw [herror]
      rfl
    | false =>
      rw [hc] at hfind
      obtain ⟨b, hb⟩ := hok.1 (by simp [hc])
      rw [hb, ok_bind, ih hfind hok.2]
      rfl

namespace Session

variable {α β : Type}

@[simp] theorem outcome_pure (a : α) : (Pure.pure a : Session α).outcome = .ok a := rfl

@[simp] theorem outcome_ofExcept (o : Except Failure α) : (ofExcept o).outcome = o := rfl

@[simp] theorem outcome_bind (s : Session α) (next : α → Session β) :
    (s >>= next).outcome = s.outcome >>= fun a => (next a).outcome := by
  obtain ⟨calls, outcome, pending⟩ := s
  cases outcome <;> rfl

end Session

/-! ## Answers of a database -/

namespace Server

/-- The answer to a statement for rows, which is put first. -/
def rows (server : Server) (sql : String) : Except DriverError (List Row) := do
  server.execute 0 sql
  server.fetchRows 0 sql

/-- The answer to a statement for values, which is put under a number. -/
def values (server : Server) (number : Nat) (sql : String) :
    Except DriverError (List (List Cell)) := do
  server.execute number sql
  server.fetchValues number sql

/-- A database that executes every statement. The values that it answers with are those for the
number of the statement. -/
def answering (rows : List Row) (values : Nat → List (List Cell) := fun _ => []) : Server where
  execute := fun _ _ => .ok ()
  fetchRows := fun _ _ => .ok rows
  fetchValues := fun number _ => .ok (values number)

end Server

variable {server : Server} {number : Nat} {sql : String} {parameters : List Cell}

theorem ofDriver_ok {α : Type} (a : α) : ofDriver (.ok a) = .ok a := rfl

theorem ofDriver_bind {α β : Type} (answer : Except DriverError α)
    (next : α → Except DriverError β) :
    ofDriver (answer >>= next) = (ofDriver answer >>= fun a => ofDriver (next a)) := by
  cases answer <;> rfl

theorem Mysql.outcome_fetch :
    ((client server).fetch 0 sql parameters).outcome = ofDriver (server.rows sql) :=
  (Session.outcome_bind _ _).trans (ofDriver_bind _ _).symm

theorem Sqlite.outcome_fetch :
    ((client server).fetch 0 sql parameters).outcome = ofDriver (server.rows sql) :=
  (Session.outcome_bind _ _).trans (ofDriver_bind _ _).symm

end SchemaTypes
