import SchemaTypes.Catalog.Cell
import SchemaTypes.Failure

set_option autoImplicit false

/-! # Sessions

A session is a computation that talks to the driver of a database. It yields a result or fails, and
what it asked of the driver until then is recorded in order. Sessions can run side by side: then
they take turns, and one that fails leaves the others running.
-/

namespace SchemaTypes

/-- Where a MySQL server is and how to log in there. -/
structure MysqlAddress where
  host : String
  port : Nat
  user : Option String
  password : String
  database : Option String
  deriving DecidableEq, Repr

/-- A request to the driver of a database. -/
inductive Call where
  /-- Opens a pool of at least one and at most `maximum` connections that commit every statement. -/
  | createPool (maximum : Nat) (address : MysqlAddress)
  /-- Opens a file or, for a URI, what the URI denotes. -/
  | connect (target : String) (isUri : Bool)
  | execute (sql : String) (parameters : Option (List Cell))
  | closeCursor
  | close
  | waitClosed
  deriving DecidableEq, Repr

/-- The answer of a driver as the outcome of a session. -/
def ofDriver {α : Type} (answer : Except DriverError α) : Except Failure α :=
  answer.mapError Failure.driver

/-- The calls made and the outcome. Computations that were left running have calls pending. -/
structure Session (α : Type) where
  calls : List Call
  outcome : Except Failure α
  pending : List (List Call) := []

/-! ## Taking turns -/

/-- Computations side by side: the calls made so far, and the calls that each of them has still to
make. -/
structure Group where
  calls : List Call
  pending : List (List Call)

namespace Group

/-- One of the computations makes its next call, if it has any. -/
def step (group : Group) (turn : Nat) : Group :=
  match group.pending[turn]? with
  | some (call :: rest) => ⟨group.calls ++ [call], group.pending.set turn rest⟩
  | _ => group

/-- The computations go on, turn by turn. -/
def run (group : Group) (turns : List Nat) : Group := turns.foldl step group

/-- The computations go on, turn by turn, until it is the turn of one that has made all of its calls
and fails. -/
def race {α : Type} (outcomes : List (Except Failure α)) : List Nat → Group → Group × Option Failure
  | [], group => (group, none)
  | turn :: turns, group =>
    match group.pending[turn]?, outcomes[turn]? with
    | some [], some (.error failure) => (group, some failure)
    | _, _ => race outcomes turns (group.step turn)

end Group

/-- The turns of computations that were left running, before a database is closed and from then on.
What they do not get to is cancelled. -/
structure Overtime where
  before : List Nat := []
  after : List Nat := []

namespace Session

variable {α β : Type}

def pure (value : α) : Session α := ⟨[], .ok value, []⟩

def fail (failure : Failure) : Session α := ⟨[], .error failure, []⟩

/-- A computation that makes no calls. -/
def ofExcept (outcome : Except Failure α) : Session α := ⟨[], outcome, []⟩

/-- Makes a call and gets the answer. -/
def ask (call : Call) (answer : Except DriverError α) : Session α := ⟨[call], ofDriver answer, []⟩

/-- Goes on with the result; a failure ends the session. -/
def bind (session : Session α) (next : α → Session β) : Session β :=
  match session.outcome with
  | .ok value =>
    ⟨session.calls ++ (next value).calls, (next value).outcome,
      session.pending ++ (next value).pending⟩
  | .error failure => ⟨session.calls, .error failure, session.pending⟩

instance : Monad Session where
  pure := Session.pure
  bind := Session.bind

/-- Runs sessions side by side. The first one to fail ends this with its failure, and the others are
left running. When the turns are over, all of them are carried to their ends in order. -/
def gather (turns : List Nat) (sessions : List (Session α)) : Session (List α) :=
  match Group.race (sessions.map outcome) turns ⟨[], sessions.map calls⟩ with
  | (group, some failure) =>
    ⟨group.calls, .error failure, group.pending ++ sessions.flatMap pending⟩
  | (group, none) =>
    ⟨group.calls ++ group.pending.flatten, sessions.mapM outcome, sessions.flatMap pending⟩

/-- Makes closing calls after a session, whatever its outcome is. They are made in one go, and what
was left running may have turns before and after. -/
def ensuring (closing : List Call) (overtime : Overtime) (session : Session α) : Session α :=
  let early := Group.run ⟨session.calls, session.pending⟩ overtime.before
  let late := Group.run ⟨early.calls ++ closing, early.pending⟩ overtime.after
  ⟨late.calls, session.outcome, late.pending⟩

end Session

/-! ## Databases -/

/-- A database as its driver shows it: whether a statement is executed, and what is fetched then, as
rows or as lists of values. Statements are put under numbers, so that equal ones may be answered
differently. The database takes its time, which decides whose turn it is when statements are put
side by side. -/
structure Server where
  execute : Nat → String → Except DriverError Unit
  fetchRows : Nat → String → Except DriverError (List Row)
  fetchValues : Nat → String → Except DriverError (List (List Cell))
  turns : List Nat := []
  overtime : Overtime := {}

/-- What catalogs are read through. -/
structure Client where
  fetch : Nat → String → List Cell → Session (List Row)
  fetchValues : Nat → String → List Cell → Session (List (List Cell))
  turns : List Nat

namespace Mysql

/-- A statement without parameters is not searched for placeholders. -/
def query {α : Type} (server : Server) (fetch : Nat → String → Except DriverError α) (number : Nat)
    (sql : String) (parameters : List Cell) : Session α := do
  Session.ask (.execute sql (if parameters.isEmpty then none else some parameters))
    (server.execute number sql)
  Session.ofExcept (ofDriver (fetch number sql))

def client (server : Server) : Client where
  fetch := query server server.fetchRows
  fetchValues := query server server.fetchValues
  turns := server.turns

end Mysql

namespace Sqlite

/-- The cursor of a statement that is executed gets closed, whether or not its rows can be
fetched. -/
def query {α : Type} (server : Server) (fetch : Nat → String → Except DriverError α) (number : Nat)
    (sql : String) (parameters : List Cell) : Session α := do
  Session.ask (.execute sql (some parameters)) (server.execute number sql)
  (Session.ofExcept (ofDriver (fetch number sql))).ensuring [.closeCursor] {}

def client (server : Server) : Client where
  fetch := query server server.fetchRows
  fetchValues := query server server.fetchValues
  turns := server.turns

end Sqlite

end SchemaTypes
