import SchemaTypes.Proofs.Catalog.Declarations
import SchemaTypes.Proofs.Connection.Statements

set_option autoImplicit false

/-! # The calls of a run

A run is refused before it talks to a driver, for one of the reasons that `Refused` lists, or it
opens its database, asks statements and closes the database again, whatever becomes of the
statements and of what is made of their answers (`Bracketed`). Only queries for members that were
left running, because another one failed, can come when the database is closed already. The main
statement is `calls_generate`.
-/

namespace SchemaTypes

/-- The dialect is meant by the name, in any case. -/
def Dialect.IsNamed (dialect : Dialect) (name : String) : Prop :=
  String.ofList (Text.lower name.toList) = dialect.name

theorem Dialect.ofName_of_isNamed {dialect : Dialect} {name : String} (h : dialect.IsNamed name) :
    ofName name = .ok dialect := by
  unfold IsNamed at h
  cases dialect with
  | mysql => rw [ofName, if_pos h]
  | sqlite =>
    have hne : ¬ Dialect.sqlite.name = Dialect.mysql.name := by decide
    rw [ofName, if_neg (by rwa [h]), if_pos h]

theorem Dialect.ofName_of_not_isNamed {name : String}
    (h : ∀ dialect : Dialect, ¬ dialect.IsNamed name) :
    ofName name = .error (.unsupportedDialect name) := by
  unfold IsNamed at h
  rw [ofName, if_neg (h .mysql), if_neg (h .sqlite)]

namespace GeneratorConfig

/-- The URL that is configured: that of the configuration or else that of the settings, empty ones
being none. -/
def configuredUrl? (config : GeneratorConfig) (settings : Settings) : Option String :=
  (config.databaseUrl.filter (· ≠ "")).or (settings.databaseUrl.filter (· ≠ ""))

theorem resolveDatabaseUrl_eq (config : GeneratorConfig) (settings : Settings) :
    config.resolveDatabaseUrl settings =
      match config.configuredUrl? settings with
      | some url => .ok url
      | none => .error (.config .noDatabaseUrl) := by
  unfold resolveDatabaseUrl configuredUrl? orElse
  cases config.databaseUrl with
  | none => cases settings.databaseUrl <;> grind [isGiven]
  | some url => cases settings.databaseUrl <;> grind [isGiven]

end GeneratorConfig

namespace Generation

/-- A run is refused before its database is opened: the dialect is none, there is no URL, the URL of
a MySQL database cannot be read, or there is no SQLite file. -/
inductive Refused (config : GeneratorConfig) (world : World) : Failure → Prop where
  | unsupported (hname : ∀ dialect : Dialect, ¬ dialect.IsNamed config.dialect) :
      Refused config world (.generator (.unsupportedDialect config.dialect))
  | noUrl {dialect : Dialect} (hname : dialect.IsNamed config.dialect)
      (hurl : config.configuredUrl? world.settings = none) :
      Refused config world (.generator (.config .noDatabaseUrl))
  | badUrl {url : String} {e : UrlError} (hname : Dialect.mysql.IsNamed config.dialect)
      (hurl : config.configuredUrl? world.settings = some url)
      (hparse : MysqlUrl.parse url = .error e) :
      Refused config world (.url e)
  | noFile {url : String} (hname : Dialect.sqlite.IsNamed config.dialect)
      (hurl : config.configuredUrl? world.settings = some url)
      (hfile : SqliteUrl.path url ≠ SqliteUrl.inMemory)
      (hexists : world.files.exists? world.directory (.ofString (SqliteUrl.path url)) = .ok false) :
      Refused config world (.databaseNotFound (SqliteUrl.path url))
  /-- There is no file either if its path is too long for one. -/
  | noPath {url : String} {e : PathError} (hname : Dialect.sqlite.IsNamed config.dialect)
      (hurl : config.configuredUrl? world.settings = some url)
      (hfile : SqliteUrl.path url ≠ SqliteUrl.inMemory)
      (hexists : world.files.exists? world.directory (.ofString (SqliteUrl.path url)) = .error e) :
      Refused config world (.path e)

/-- A database is opened once, then asked statements, then closed once. Statements come after that
only if a query for members failed and the run with it. They are among those that had not been
asked. -/
inductive Bracketed (server : Server) (outcome : Except Failure String) :
    Dialect → List Call → Prop where
  | pool {maximum : Nat} {address : MysqlAddress} {log late : List Call}
      (hlog : StatementLog (server.Executes 0) .mysql (log ++ late))
      (honce : (log ++ late).Subperm (Mysql.statements server))
      (hlate : late = [] ∨ ∃ query ∈ Mysql.queriesOf server, ∃ failure,
        query.outcome = .error failure ∧ outcome = .error failure) :
      Bracketed server outcome .mysql
        (.createPool maximum address :: log ++ [.close, .waitClosed] ++ late)
  | file {target : String} {isUri : Bool} {log : List Call}
      (hlog : StatementLog (server.Executes 0) .sqlite log) :
      Bracketed server outcome .sqlite (.connect target isUri :: log ++ [.close])

variable {config : GeneratorConfig} {world : World}

/-! ## Before the database is opened -/

theorem prepare_of_no_url {dialect : Dialect} (hname : dialect.IsNamed config.dialect)
    (hurl : config.configuredUrl? world.settings = none) :
    prepare config world = .error (.generator (.config .noDatabaseUrl)) := by
  rw [prepare, Dialect.ofName_of_isNamed hname, GeneratorConfig.resolveDatabaseUrl_eq, hurl]
  rfl

theorem prepare_of_url {dialect : Dialect} {url : String} (hname : dialect.IsNamed config.dialect)
    (hurl : config.configuredUrl? world.settings = some url) :
    prepare config world
      = (dialect.opening config world.files world.directory url).map (dialect, ·) := by
  rw [prepare, Dialect.ofName_of_isNamed hname, GeneratorConfig.resolveDatabaseUrl_eq, hurl]
  rfl

theorem opening_mysql (url : String) :
    Dialect.mysql.opening config world.files world.directory url =
      match MysqlUrl.parse url with
      | .ok address => .ok (.createPool config.mysql.poolSize address)
      | .error e => .error (.url e) := by
  rw [Dialect.opening]
  cases MysqlUrl.parse url <;> rfl

theorem opening_sqlite {url : String} (hfile : SqliteUrl.path url ≠ SqliteUrl.inMemory) :
    Dialect.sqlite.opening config world.files world.directory url =
      match world.files.exists? world.directory (.ofString (SqliteUrl.path url)) with
      | .ok true =>
          .ok (.connect ((Path.resolve world.directory (.ofString (SqliteUrl.path url))).toUri
          ++ "?mode=ro") true)
      | .ok false => .error (.databaseNotFound (SqliteUrl.path url))
      | .error e => .error (.path e) := by
  rw [Dialect.opening, SqliteUrl.opening, if_neg hfile]
  cases world.files.exists? world.directory (.ofString (SqliteUrl.path url)) with
  | ok found => cases found <;> rfl
  | error e => rfl

/-- A run that is refused has its failure before there is anything to open. -/
theorem Refused.prepare_eq {failure : Failure} (h : Refused config world failure) :
    prepare config world = .error failure := by
  cases h with
  | unsupported hname =>
    rw [prepare, Dialect.ofName_of_not_isNamed hname]
    rfl
  | noUrl hname hurl => exact prepare_of_no_url hname hurl
  | badUrl hname hurl hparse =>
    rw [prepare_of_url hname hurl, opening_mysql, hparse]
    rfl
  | noFile hname hurl hfile hexists =>
    rw [prepare_of_url hname hurl, opening_sqlite hfile, hexists]
    rfl
  | noPath hname hurl hfile hexists =>
    rw [prepare_of_url hname hurl, opening_sqlite hfile, hexists]
    rfl

/-- The call opens a database of the dialect. -/
def Opens : Dialect → Call → Prop
  | .mysql, call => ∃ maximum address, call = .createPool maximum address
  | .sqlite, call => ∃ target isUri, call = .connect target isUri

/-- Without a call that opens the database the run is refused. -/
theorem refused_or_opens {dialect : Dialect} {url : String} (hname : dialect.IsNamed config.dialect)
    (hurl : config.configuredUrl? world.settings = some url) :
    (∃ failure, Refused config world failure) ∨
      ∃ call, dialect.opening config world.files world.directory url = .ok call ∧
        Opens dialect call := by
  cases dialect with
  | mysql =>
    rw [opening_mysql]
    cases hparse : MysqlUrl.parse url with
    | error e => exact Or.inl ⟨_, .badUrl hname hurl hparse⟩
    | ok address => exact Or.inr ⟨_, rfl, _, _, rfl⟩
  | sqlite =>
    by_cases hfile : SqliteUrl.path url = SqliteUrl.inMemory
    · rw [Dialect.opening, SqliteUrl.opening, if_pos hfile]
      exact Or.inr ⟨_, rfl, _, _, rfl⟩
    · rw [opening_sqlite hfile]
      cases hexists : world.files.exists? world.directory (.ofString (SqliteUrl.path url)) with
      | error e => exact Or.inl ⟨_, .noPath hname hurl hfile hexists⟩
      | ok found =>
        cases found with
        | false => exact Or.inl ⟨_, .noFile hname hurl hfile hexists⟩
        | true => exact Or.inr ⟨_, rfl, _, _, rfl⟩

/-- What is not refused gets a call that opens its database. -/
theorem refused_or_prepare_eq (config : GeneratorConfig) (world : World) :
    (∃ failure, Refused config world failure) ∨
      ∃ dialect call, dialect.IsNamed config.dialect ∧ Opens dialect call ∧
        prepare config world = .ok (dialect, call) := by
  by_cases hname : ∃ dialect : Dialect, dialect.IsNamed config.dialect
  · obtain ⟨dialect, hname⟩ := hname
    cases hurl : config.configuredUrl? world.settings with
    | none => exact Or.inl ⟨_, .noUrl hname hurl⟩
    | some url =>
      rcases refused_or_opens hname hurl with hrefused | ⟨call, hcall, hopens⟩
      · exact Or.inl hrefused
      · refine Or.inr ⟨dialect, call, hname, hopens, ?_⟩
        rw [prepare_of_url hname hurl, hcall]
        rfl
  · exact Or.inl ⟨_, .unsupported fun dialect h => hname ⟨dialect, h⟩⟩

/-! ## While the database is open -/

/-- What is asked of an open MySQL database does not depend on what is made of the answers. -/
theorem asks_generateFrom (config : GeneratorConfig) (server : Server) :
    Mysql.Asks server (generateFrom .mysql config (Mysql.client server)) :=
  ((Mysql.asks_tables server).bind_ofExcept _).bind_ofExcept _

theorem calls_generateFrom_sqlite (config : GeneratorConfig) (server : Server) :
    (generateFrom .sqlite config (Sqlite.client server)).calls
        = (Sqlite.tables (Sqlite.client server)).calls ∧
      (generateFrom .sqlite config (Sqlite.client server)).pending = [] := by
  rw [generateFrom, Session.bind_ofExcept_eq, collect, Session.bind_ofExcept_eq]
  exact ⟨rfl, Sqlite.pending_tables server⟩

/-- Whatever turns are taken when a MySQL database is closed, it is closed once. -/
theorem bracketed_mysql (maximum : Nat) (address : MysqlAddress) (config : GeneratorConfig)
    (server : Server) (overtime : Overtime) :
    Bracketed server (generateFrom .mysql config (Mysql.client server)).outcome .mysql
      (.createPool maximum address
        :: ((generateFrom .mysql config (Mysql.client server)).ensuring
          [.close, .waitClosed] overtime).calls) := by
  have hasks := asks_generateFrom config server
  generalize generateFrom .mysql config (Mysql.client server) = session at hasks ⊢
  obtain ⟨early, late, left, hclosed, hbalance⟩ :=
    session.exists_ensuring_eq [.close, .waitClosed] overtime
  have hall : (session.calls ++ early ++ late ++ left.flatten).Perm (Mysql.statements server) := by
    refine List.Perm.trans ?_ hasks.balance
    simpa only [List.append_assoc] using hbalance.append_left session.calls
  have honce : (session.calls ++ early ++ late).Subperm (Mysql.statements server) :=
    (List.sublist_append_left _ _).subperm.trans hall.subperm
  rw [hclosed]
  refine .pool ?_ honce ?_
  · exact .of_forall_mem fun call hcall =>
      Mysql.exists_eq_execute_of_mem_statements (honce.subset hcall)
  · rcases hasks.settled with hnone | hfailed
    · rw [hnone, List.flatten_nil] at hbalance
      have hempty := List.append_eq_nil_iff.1 hbalance.eq_nil
      exact Or.inl (List.append_eq_nil_iff.1 hempty.1).2
    · exact Or.inr hfailed

/-- A SQLite database has nothing left running when it is closed. -/
theorem bracketed_sqlite (target : String) (isUri : Bool) (config : GeneratorConfig)
    (server : Server)
    (overtime : Overtime) :
    Bracketed server (generateFrom .sqlite config (Sqlite.client server)).outcome .sqlite
      (.connect target isUri
        :: ((generateFrom .sqlite config (Sqlite.client server)).ensuring [.close]
          overtime).calls) := by
  obtain ⟨hcalls, hpending⟩ := calls_generateFrom_sqlite config server
  obtain ⟨early, late, left, hclosed, hbalance⟩ :=
    (generateFrom .sqlite config (Sqlite.client server)).exists_ensuring_eq [.close] overtime
  rw [hpending, List.flatten_nil] at hbalance
  obtain ⟨hmade, _⟩ := List.append_eq_nil_iff.1 hbalance.eq_nil
  obtain ⟨rfl, rfl⟩ := List.append_eq_nil_iff.1 hmade
  rw [hclosed, hcalls, List.append_nil, List.append_nil]
  exact .file (Sqlite.statementLog_tables server)

/-- A run makes no calls and is refused, or it is not refused and opens its database once before
anything else, asks it statements and closes it once. -/
theorem calls_generate (config : GeneratorConfig) (world : World) :
    (∃ failure, Refused config world failure ∧
      (generate config world).calls = [] ∧ (generate config world).outcome = .error failure) ∨
    ((∀ failure, ¬ Refused config world failure) ∧
      ∃ dialect : Dialect, dialect.IsNamed config.dialect ∧
        Bracketed world.server (generate config world).outcome dialect
          (generate config world).calls) := by
  rcases refused_or_prepare_eq config world with
    ⟨failure, hrefused⟩ | ⟨dialect, opening, hname, hopens, h⟩
  · refine Or.inl ⟨failure, hrefused, ?_⟩
    rw [generate, hrefused.prepare_eq]
    exact ⟨rfl, rfl⟩
  · refine Or.inr ⟨?_, dialect, hname, ?_⟩
    · intro failure hrefused
      rw [hrefused.prepare_eq] at h
      cases h
    · rw [generate, h]
      cases dialect with
      | mysql =>
        obtain ⟨maximum, address, rfl⟩ := hopens
        exact bracketed_mysql maximum address config world.server world.server.overtime
      | sqlite =>
        obtain ⟨target, isUri, rfl⟩ := hopens
        exact bracketed_sqlite target isUri config world.server world.server.overtime

/-- A MySQL database with two enumerations. The query for the members of the first one is refused,
and the other one is executed when the database is being closed. -/
def lateServer : Server :=
  { Server.answering [Mysql.requiredColumn "users" "role" "enum('a')" "enum",
      Mysql.requiredColumn "users" "state" "enum('b')" "enum"] with
    execute := fun number _ => if number = 1 then .error (.operational "refused") else .ok ()
    turns := [0, 0]
    overtime := { after := [1] } }

/-- A world with that database and a directory. -/
def lateWorld : World where
  files := .ofList [(["app", "data"], .directory)]
  directory := { root := .slash, names := ["app"] }
  settings := {}
  server := lateServer

/-- A configuration for that database. -/
def lateConfig : GeneratorConfig where
  dialect := "mysql"
  databaseUrl := some "mysql://localhost/shop"

/-- A configuration for a SQLite database where the directory is. -/
def folderConfig : GeneratorConfig where
  dialect := "sqlite"
  databaseUrl := some "sqlite:///data"

theorem calls_lateWorld :
    (generate lateConfig lateWorld).calls
      = [.createPool 10 { host := "localhost", port := 3306, user := none, password := ""
                          database := some "shop" },
         .execute Mysql.catalogQuery (some excludedCells), .execute "SELECT 'a'" none, .close,
         .waitClosed, .execute "SELECT 'b'" none] := rfl

/-- Not every run that is not refused ends with the closing of its database, and a database is
opened where there is no file but a directory. -/
theorem not_forall_bracketed :
    (¬ ∀ config world, (∀ failure, ¬ Refused config world failure) →
      ∃ dialect opening log, Opens dialect opening ∧
        StatementLog (world.server.Executes 0) dialect log ∧
        (generate config world).calls = opening :: log ++ dialect.closing) ∧
    ¬ ∀ (config : GeneratorConfig) (world : World) (url : String),
      Dialect.sqlite.IsNamed config.dialect → config.configuredUrl? world.settings = some url →
      SqliteUrl.path url ≠ SqliteUrl.inMemory →
      (∀ content, world.files.at?
        (world.directory.resolve (.ofString (SqliteUrl.path url))).names ≠ some (.file content)) →
      (generate config world).calls = [] := by
  constructor
  · intro h
    have hprepare : ∃ call, prepare lateConfig lateWorld = .ok (.mysql, call) := ⟨_, rfl⟩
    obtain ⟨call, hprepare⟩ := hprepare
    obtain ⟨dialect, opening, log, -, -, hcalls⟩ :=
      h lateConfig lateWorld fun failure hrefused => by
      rw [hrefused.prepare_eq] at hprepare
      cases hprepare
    -- the last call is a statement
    have hlast := congrArg List.getLast? hcalls
    rw [calls_lateWorld, List.getLast?_append] at hlast
    cases dialect <;> simp [Dialect.closing] at hlast
  · intro h
    have hname : Dialect.sqlite.IsNamed folderConfig.dialect := by
      unfold Dialect.IsNamed
      decide +kernel
    have hnone := h folderConfig lateWorld "sqlite:///data" hname rfl (by decide +kernel)
      fun content hfile => by cases hfile
    exact absurd hnone (by decide +kernel)

end Generation

end SchemaTypes
