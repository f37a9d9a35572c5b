import SchemaTypes.Dialect
import SchemaTypes.Proofs.Connection.Turns

set_option autoImplicit false

/-! # Statements on an open database

While a database is open it is only asked statements, and the cursor of a SQLite statement that is
executed gets closed right after it. That is the grammar `StatementLog`, which
`Sqlite.statementLog_tables` finds in the calls of a SQLite catalog. A MySQL catalog may leave
queries for members running, and what is asked for it then is told by a balance: the query for its
rows and those for members are asked once each or are still pending (`Mysql.asks_tables`).
-/

namespace SchemaTypes

/-- The database executes the statement that is put under the number. -/
def Server.Executes (server : Server) (number : Nat) (sql : String) : Prop :=
  server.execute number sql = .ok ()

/-- Statements and nothing else. Those of SQLite that are executed are each followed by the closing
of their cursor. -/
inductive StatementLog (executed : String → Prop) : Dialect → List Call → Prop where
  | nil {dialect : Dialect} : StatementLog executed dialect []
  | pooled {sql : String} {parameters : Option (List Cell)} {rest : List Call}
      (tail : StatementLog executed .mysql rest) :
      StatementLog executed .mysql (.execute sql parameters :: rest)
  | opened {sql : String} {parameters : Option (List Cell)} {rest : List Call}
      (head : executed sql) (tail : StatementLog executed .sqlite rest) :
      StatementLog executed .sqlite (.execute sql parameters :: .closeCursor :: rest)
  | refused {sql : String} {parameters : Option (List Cell)} {rest : List Call}
      (head : ¬ executed sql) (tail : StatementLog executed .sqlite rest) :
      StatementLog executed .sqlite (.execute sql parameters :: rest)

/-- A log of MySQL is one of statements in any order. -/
theorem StatementLog.of_forall_mem {executed : String → Prop} {log : List Call}
    (h : ∀ call ∈ log, ∃ sql parameters, call = .execute sql parameters) :
    StatementLog executed .mysql log := by
  induction log with
  | nil => exact .nil
  | cons call rest ih =>
    rw [List.forall_mem_cons] at h
    obtain ⟨⟨sql, parameters, rfl⟩, hrest⟩ := h
    exact .pooled (ih hrest)

namespace Session

variable {α β : Type}

theorem mk_bind (calls : List Call) (a : α) (pending : List (List Call)) (next : α → Session β) :
    (Session.mk calls (.ok a) pending >>= next)
      = ⟨calls ++ (next a).calls, (next a).outcome, pending ++ (next a).pending⟩ := rfl

/-- A computation that makes no calls and succeeds. -/
theorem ofExcept_bind (a : α) (next : α → Session β) : (ofExcept (.ok a) >>= next) = next a := rfl

/-- Going on without asking changes the outcome alone. -/
theorem bind_ofExcept_eq (session : Session α) (f : α → Except Failure β) :
    (session >>= fun a => ofExcept (f a))
      = ⟨session.calls, session.outcome >>= f, session.pending⟩ := by
  obtain ⟨calls, outcome, pending⟩ := session
  cases outcome with
  | ok a => rw [mk_bind, ofExcept, List.append_nil, List.append_nil, ok_bind]
  | error failure => rfl

end Session

/-! ## MySQL -/

namespace Mysql

variable {server : Server}

theorem query_eq {α : Type} (fetch : Nat → String → Except DriverError α) (number : Nat)
    (sql : String) (parameters : List Cell) :
    query server fetch number sql parameters
      = ⟨[.execute sql (if parameters.isEmpty then none else some parameters)],
          ofDriver (server.execute number sql >>= fun _ => fetch number sql), []⟩ := by
  rw [query]
  cases server.execute number sql <;> rfl

/-- The call that reads the rows of the catalog. -/
def catalogCall : Call := .execute catalogQuery (some excludedCells)

theorem fetch_catalog (server : Server) :
    (client server).fetch 0 catalogQuery excludedCells
      = ⟨[catalogCall], ofDriver (server.rows catalogQuery), []⟩ :=
  query_eq server.fetchRows 0 catalogQuery excludedCells

/-- A query for members asks at most one statement, and it leaves nothing running. -/
theorem members_cases (server : Server) (number : Nat) (columnType : Cell) :
    ((members (client server) number columnType).calls = [] ∨
      ∃ sql, (members (client server) number columnType).calls = [.execute sql none]) ∧
    (members (client server) number columnType).pending = [] := by
  rw [members]
  cases memberStatement columnType with
  | error failure => exact ⟨Or.inl rfl, rfl⟩
  | ok sql =>
    have hfetch : (client server).fetchValues number sql []
        = ⟨[.execute sql none], ofDriver (server.values number sql), []⟩ :=
      query_eq server.fetchValues number sql []
    show (_ ∨ ∃ sql', (((client server).fetchValues number sql [] >>= _).calls = _)) ∧
      ((client server).fetchValues number sql [] >>= _).pending = _
    rw [hfetch]
    cases server.values number sql with
    | error e => exact ⟨Or.inr ⟨sql, rfl⟩, rfl⟩
    | ok answer => cases answer <;> exact ⟨Or.inr ⟨sql, rfl⟩, rfl⟩

/-- A catalog that can be read, by the queries for members. -/
theorem tables_eq_of_read {rows : List Row} {opened : List Table}
    (hrows : server.rows catalogQuery = .ok rows) (hread : readTables rows = .ok opened) :
    tables (client server)
      = ⟨catalogCall :: (Session.gather server.turns (memberQueries (client server) opened)).calls,
          (Session.gather server.turns (memberQueries (client server) opened)).outcome >>=
            fun answers => .ok (assignMembers opened answers),
          (Session.gather server.turns (memberQueries (client server) opened)).pending⟩ := by
  have hresolve : resolveMembers (client server) opened = _ :=
    Session.bind_ofExcept_eq (Session.gather server.turns (memberQueries (client server) opened))
      fun answers => .ok (assignMembers opened answers)
  rw [tables, fetch_catalog, hrows, ofDriver_ok, Session.mk_bind, hread, Session.ofExcept_bind,
    hresolve]
  rfl

/-- The queries for members to which the catalog gives rise; none if it cannot be read. -/
def queriesOf (server : Server) : List (Session (List String)) :=
  match ofDriver (server.rows catalogQuery) >>= readTables with
  | .ok opened => memberQueries (client server) opened
  | .error _ => []

theorem queriesOf_eq_of_read {rows : List Row} {opened : List Table}
    (hrows : server.rows catalogQuery = .ok rows) (hread : readTables rows = .ok opened) :
    queriesOf server = memberQueries (client server) opened := by
  rw [queriesOf, hrows, ofDriver_ok, ok_bind, hread]

theorem cases_of_mem_queriesOf {query : Session (List String)} (h : query ∈ queriesOf server) :
    ∃ number columnType, query = members (client server) number columnType := by
  unfold queriesOf at h
  split at h
  · obtain ⟨numbered, _, rfl⟩ := List.mem_map.1 h
    exact ⟨_, _, rfl⟩
  · cases h

/-- All that is ever asked for a catalog: its rows, then the members. -/
def statements (server : Server) : List Call :=
  catalogCall :: (queriesOf server).flatMap Session.calls

theorem exists_eq_execute_of_mem_statements {call : Call} (h : call ∈ statements server) :
    ∃ sql parameters, call = .execute sql parameters := by
  rcases List.mem_cons.1 h with rfl | h
  · exact ⟨_, _, rfl⟩
  · obtain ⟨query, hquery, hcall⟩ := List.mem_flatMap.1 h
    obtain ⟨number, columnType, rfl⟩ := cases_of_mem_queriesOf hquery
    rcases (members_cases server number columnType).1 with hnone | ⟨sql, hone⟩
    · rw [hnone] at hcall
      cases hcall
    · rw [hone] at hcall
      exact ⟨sql, none, List.mem_singleton.1 hcall⟩

/-- The session asks what there is to ask for a catalog, each statement once, unless it leaves some
of them pending. That it does only if a query for members fails, and then it fails itself with that
failure. -/
structure Asks {α : Type} (server : Server) (session : Session α) : Prop where
  balance : (session.calls ++ session.pending.flatten).Perm (statements server)
  settled : session.pending = [] ∨ ∃ query ∈ queriesOf server, ∃ failure,
    query.outcome = .error failure ∧ session.outcome = .error failure

/-- Going on without asking. -/
theorem Asks.bind_ofExcept {α β : Type} {session : Session α} (h : Asks server session)
    (f : α → Except Failure β) : Asks server (session >>= fun a => Session.ofExcept (f a)) where
  balance := by
    rw [Session.bind_ofExcept_eq]
    exact h.balance
  settled := by
    rw [Session.bind_ofExcept_eq]
    rcases h.settled with hnone | ⟨query, hquery, failure, hfailure, houtcome⟩
    · exact Or.inl hnone
    · refine Or.inr ⟨query, hquery, failure, hfailure, ?_⟩
      show session.outcome >>= f = _
      rw [houtcome, error_bind]

/-- Queries for members side by side, whatever turns they take. -/
theorem asks_gather (server : Server) (turns : List Nat) :
    Asks server ⟨catalogCall :: (Session.gather turns (queriesOf server)).calls,
      (Session.gather turns (queriesOf server)).outcome,
      (Session.gather turns (queriesOf server)).pending⟩ := by
  have hpending : ∀ query ∈ queriesOf server, query.pending = [] := by
    intro query hquery
    obtain ⟨number, columnType, rfl⟩ := cases_of_mem_queriesOf hquery
    exact (members_cases server number columnType).2
  obtain ⟨hbalance, hsettled⟩ := Session.perm_gather turns hpending
  exact ⟨hbalance.cons _, hsettled⟩

/-- A catalog that cannot be read gives rise to no queries. -/
theorem asks_of_unread {failure : Failure}
    (h : ofDriver (server.rows catalogQuery) >>= readTables = .error failure) :
    Asks server (⟨[catalogCall], .error failure, []⟩ : Session (List Table)) := by
  have hnone : queriesOf server = [] := by rw [queriesOf, h]
  refine ⟨?_, Or.inl rfl⟩
  rw [statements, hnone]
  exact .refl _

/-- What is asked for a catalog, wherever reading it ends. -/
theorem asks_tables (server : Server) : Asks server (tables (client server)) := by
  cases hrows : server.rows catalogQuery with
  | error e =>
    rw [tables, fetch_catalog, hrows]
    exact asks_of_unread (by rw [hrows]; rfl)
  | ok rows =>
    cases hread : readTables rows with
    | error failure =>
      rw [tables, fetch_catalog, hrows, ofDriver_ok, Session.mk_bind, hread]
      exact asks_of_unread (by rw [hrows, ofDriver_ok, ok_bind, hread])
    | ok opened =>
      have hasks := (asks_gather server server.turns).bind_ofExcept fun answers =>
        .ok (assignMembers opened answers)
      rwa [Session.bind_ofExcept_eq, queriesOf_eq_of_read hrows hread,
        ← tables_eq_of_read hrows hread] at hasks

end Mysql

/-! ## SQLite -/

namespace Sqlite

variable {server : Server}

/-- The statement comes with the closing of its cursor or is not executed. -/
theorem statementLog_query {α : Type} (fetch : Nat → String → Except DriverError α) (number : Nat)
    (sql : String) (parameters : List Cell) :
    StatementLog (server.Executes number) .sqlite
      (query server fetch number sql parameters).calls := by
  rw [query]
  cases hexecute : server.execute number sql with
  | ok u => exact .opened hexecute .nil
  | error e =>
    refine .refused (fun h => ?_) .nil
    rw [Server.Executes, hexecute] at h
    cases h

/-- A catalog is read by one statement. -/
theorem statementLog_tables (server : Server) :
    StatementLog (server.Executes 0) .sqlite (tables (client server)).calls := by
  rw [tables, Session.bind_ofExcept_eq]
  exact statementLog_query server.fetchRows 0 catalogQuery excludedCells

theorem pending_query {α : Type} (fetch : Nat → String → Except DriverError α) (number : Nat)
    (sql : String) (parameters : List Cell) :
    (query server fetch number sql parameters).pending = [] := by
  rw [query]
  cases server.execute number sql <;> rfl

theorem pending_tables (server : Server) : (tables (client server)).pending = [] := by
  rw [tables, Session.bind_ofExcept_eq]
  exact pending_query server.fetchRows 0 catalogQuery excludedCells

end Sqlite

end SchemaTypes
