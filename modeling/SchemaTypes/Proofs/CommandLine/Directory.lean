import SchemaTypes.Proofs.CommandLine.Output
import SchemaTypes.Proofs.Generation.Calls

set_option autoImplicit false

/-! # Running from another directory

A run that is given a directory sees it as its own: the config file, the search for it and the out
file are all found from there. So it ends as a run without that option does which is started in the
directory, unless its database is a SQLite file with a relative path, which is looked for where the
run was started. The main statement is `generate_enter`.
-/

namespace SchemaTypes

/-- The world as it is for a run that is started at a place. -/
def World.enter (world : World) (place : Place) : World :=
  { world with directory := { root := .slash, names := place } }

/-- The database is a SQLite file, and its path is relative. -/
def GeneratorConfig.NamesRelativeFile (config : GeneratorConfig) (settings : Settings) : Prop :=
  Dialect.sqlite.IsNamed config.dialect ∧ ∃ url, config.configuredUrl? settings = some url ∧
    SqliteUrl.path url ≠ SqliteUrl.inMemory ∧
      (Path.ofString (SqliteUrl.path url)).isAbsolute = false

/-! ## Absolute paths -/

section

variable {tree : FileTree} {path : Path}

/-- An absolute path leads to the same place from everywhere. -/
theorem FileTree.find?_of_isAbsolute (h : path.isAbsolute = true) (directory other : Path) :
    tree.find? directory path = tree.find? other path := by
  rw [find?, find?, Path.under_of_isAbsolute h, Path.under_of_isAbsolute h]

theorem FileTree.write_of_isAbsolute (h : path.isAbsolute = true) (directory other : Path)
    (content : String) : tree.write directory path content = tree.write other path content := by
  rw [write, write, Path.under_of_isAbsolute h, Path.under_of_isAbsolute h]

theorem Path.resolve_of_isAbsolute (h : path.isAbsolute = true) (directory other : Path) :
    directory.resolve path = other.resolve path := by
  rw [resolve, resolve, under_of_isAbsolute h, under_of_isAbsolute h]

end

/-! ## The config file -/

theorem mem_of_findM?_eq_ok {ε α : Type} {p : α → Except ε Bool} {l : List α} {a : α}
    (h : l.findM? p = .ok (some a)) : a ∈ l := by
  induction l with
  | nil => cases h
  | cons b rest ih =>
    rw [List.findM?] at h
    cases hb : p b with
    | error e =>
      rw [hb] at h
      cases h
    | ok found =>
      rw [hb] at h
      cases found with
      | true =>
        cases h
        exact List.mem_cons_self
      | false => exact List.mem_cons_of_mem _ (ih h)

theorem GeneratorConfig.isAbsolute_of_locate? {files : FileTree} {working directory path : Path}
    (h : locate? files working directory = .ok (some path)) : path.isAbsolute = true := by
  rw [locate?] at h
  split at h
  · cases h
  · obtain ⟨above, habove, rfl⟩ := List.mem_map.1 (mem_of_findM?_eq_ok h)
    obtain ⟨n, _, rfl⟩ := List.mem_map.1 habove
    rfl

theorem GeneratorConfig.load_of_isAbsolute {files : FileTree} {path : Path}
    (h : path.isAbsolute = true) (directory other : Path) :
    load files directory path = load files other path := by
  rw [load, load, FileTree.content?, FileTree.content?,
    FileTree.find?_of_isAbsolute h directory other]

/-! ## The database -/

namespace Generation

variable {config : GeneratorConfig} {world : World}

/-- Where a database is opened does not matter unless it is a file with a relative path. -/
theorem opening_enter {dialect : Dialect} {url : String} (place : Place)
    (h : dialect = .sqlite → SqliteUrl.path url ≠ SqliteUrl.inMemory →
      (Path.ofString (SqliteUrl.path url)).isAbsolute = true) :
    dialect.opening config world.files world.directory url
      = dialect.opening config (world.enter place).files (world.enter place).directory url := by
  cases dialect with
  | mysql => rfl
  | sqlite =>
    by_cases hfile : SqliteUrl.path url = SqliteUrl.inMemory
    · rw [Dialect.opening, Dialect.opening, SqliteUrl.opening, SqliteUrl.opening, if_pos hfile,
        if_pos hfile]
    · have habsolute := h rfl hfile
      have hfiles : (world.enter place).files = world.files := rfl
      rw [opening_sqlite hfile, opening_sqlite hfile, FileTree.exists?, FileTree.exists?, hfiles,
        FileTree.find?_of_isAbsolute habsolute world.directory (world.enter place).directory,
        Path.resolve_of_isAbsolute habsolute world.directory (world.enter place).directory]

theorem generate_enter_of_not_relative (place : Place)
    (h : ¬ config.NamesRelativeFile world.settings) :
    generate config world = generate config (world.enter place) := by
  have hprepare : prepare config world = prepare config (world.enter place) := by
    by_cases hname : ∃ dialect : Dialect, dialect.IsNamed config.dialect
    · obtain ⟨dialect, hname⟩ := hname
      cases hurl : config.configuredUrl? world.settings with
      | none =>
        have hthere : config.configuredUrl? (world.enter place).settings = none := hurl
        rw [prepare_of_no_url hname hurl, prepare_of_no_url hname hthere]
      | some url =>
        have hthere : config.configuredUrl? (world.enter place).settings = some url := hurl
        rw [prepare_of_url hname hurl, prepare_of_url hname hthere, opening_enter place]
        rintro rfl hfile
        by_contra habsolute
        exact h ⟨hname, url, hurl, hfile, by simpa using habsolute⟩
    · have hnone : ∀ dialect : Dialect, ¬ dialect.IsNamed config.dialect :=
        fun dialect h => hname ⟨dialect, h⟩
      rw [(Refused.unsupported hnone).prepare_eq, (Refused.unsupported hnone).prepare_eq]
  rw [generate, generate, hprepare]
  cases prepare config (world.enter place) <;> rfl

end Generation

/-! ## The whole run -/

namespace CommandLine

variable {options : GenerateOptions} {world : World} {d : String} {place : Place}

theorem isAbsolute_of_configPath {files : FileTree} {settings : Settings} {directory path : Path}
    {asked : Option Path} (hdirectory : directory.isAbsolute = true)
    (h : configPath files settings directory asked = .ok path) : path.isAbsolute = true := by
  unfold configPath at h
  simp only at h
  split at h
  · cases h
    exact Path.isAbsolute_under hdirectory
  · cases hlocate : GeneratorConfig.locate? files directory directory with
    | error e =>
      rw [hlocate] at h
      cases h
    | ok found =>
      rw [hlocate] at h
      cases found with
      | none => cases h
      | some located =>
        cases h
        exact GeneratorConfig.isAbsolute_of_locate? hlocate

/-- The directory that a run is given is where it leads. -/
theorem directoryIn_some (h : world.files.find? world.directory (.ofString d) = .ok (some place)) :
    GenerateOptions.directoryIn { options with directory := some d } world
      = { root := .slash, names := place } := by
  refine congrArg (Path.mk .slash) ?_
  show (world.directory.resolve (.ofString d)).names = place
  rw [Path.names_resolve]
  exact (FileTree.destination_of_find? h).1

theorem directoryIn_enter (h : ".." ∉ place) :
    GenerateOptions.directoryIn { options with directory := none } (world.enter place)
      = { root := .slash, names := place } :=
  Path.resolve_empty h

theorem fail_enter (failure : Failure) : fail failure world = fail failure (world.enter place) := by
  rw [fail, fail]
  cases reportLine? failure <;> rfl

theorem writeModule_enter {path : Path} (h : path.isAbsolute = true) (text : String) :
    writeModule path text world = writeModule path text (world.enter place) := by
  rw [writeModule, writeModule,
    FileTree.write_of_isAbsolute h world.directory (world.enter place).directory]
  rfl

section

variable (hplace : world.files.find? world.directory (.ofString d) = .ok (some place))

include hplace

theorem directoryIn_eq :
    GenerateOptions.directoryIn { options with directory := some d } world
      = GenerateOptions.directoryIn { options with directory := none } (world.enter place) := by
  -- a working directory is never left through a double dot again
  have hdots : ".." ∉ place := by
    rw [← (FileTree.destination_of_find? hplace).1]
    exact FileTree.not_mem_destination List.not_mem_nil
  rw [directoryIn_some hplace, directoryIn_enter hdots]

theorem loadConfig_eq :
    GenerateOptions.loadConfig { options with directory := some d } world
      = GenerateOptions.loadConfig { options with directory := none } (world.enter place) := by
  rw [GenerateOptions.loadConfig, GenerateOptions.loadConfig, directoryIn_eq hplace]
  show (configPath world.files world.settings _ _ >>= _)
    = (configPath world.files world.settings _ _ >>= _)
  cases hpath : configPath world.files world.settings
      (GenerateOptions.directoryIn { options with directory := none } (world.enter place))
      (options.config.map Path.ofString) with
  | error failure => rw [error_bind, error_bind]
  | ok path => exact GeneratorConfig.load_of_isAbsolute (isAbsolute_of_configPath rfl hpath) _ _

theorem outPath_enter (config : GeneratorConfig) :
    GenerateOptions.outPath { options with directory := some d } config world
      = GenerateOptions.outPath { options with directory := none } config (world.enter place) := by
  rw [GenerateOptions.outPath, GenerateOptions.outPath, directoryIn_eq hplace]
  rfl

theorem earlyCrash?_enter :
    earlyCrash? { options with directory := some d } world
      = earlyCrash? { options with directory := none } (world.enter place) := by
  have hnull := (FileTree.destination_of_find? hplace).2
  rw [earlyCrash?, earlyCrash?]
  simp only [Option.any_some, Option.any_none, hnull]
  rfl

end

/-- A run that is given a directory finds the config file and the out file where a run that is
started in the directory finds them, and it ends as that run does unless its database is a file with
a relative path. -/
theorem generate_enter (options : GenerateOptions) (world : World) {d : String} {place : Place}
    (hplace : world.files.find? world.directory (.ofString d) = .ok (some place)) :
    GenerateOptions.loadConfig { options with directory := some d } world
      = GenerateOptions.loadConfig { options with directory := none } (world.enter place) ∧
    (∀ config, GenerateOptions.outPath { options with directory := some d } config world
      = GenerateOptions.outPath { options with directory := none } config (world.enter place)) ∧
    ((∀ config, GenerateOptions.loadConfig { options with directory := some d } world = .ok config →
        ¬ config.NamesRelativeFile world.settings) →
      generate { options with directory := some d } world
        = generate { options with directory := none } (world.enter place)) := by
  refine ⟨loadConfig_eq hplace, outPath_enter hplace, ?_⟩
  intro hrelative
  -- the configuration is the same, hence the text, hence what is done with it
  have hmodule : GenerateOptions.moduleText { options with directory := some d } world
      = GenerateOptions.moduleText { options with directory := none } (world.enter place) := by
    rw [GenerateOptions.moduleText, GenerateOptions.moduleText, ← loadConfig_eq hplace]
    cases hload : GenerateOptions.loadConfig { options with directory := some d } world with
    | error failure => rw [error_bind, error_bind]
    | ok config =>
      rw [ok_bind, ok_bind, Generation.generate_enter_of_not_relative place
        (hrelative config hload)]
  have hnow : generateNow { options with directory := some d } world
      = generateNow { options with directory := none } (world.enter place) := by
    cases hhere : GenerateOptions.moduleText { options with directory := some d } world with
    | error failure =>
      rw [generateNow_of_error hhere, generateNow_of_error (hmodule.symm.trans hhere)]
      exact fail_enter failure
    | ok entry =>
      obtain ⟨config, text⟩ := entry
      have habsolute := isAbsolute_outPath { options with directory := some d } config world
      rw [generateNow_of_ok hhere, generateNow_of_ok (hmodule.symm.trans hhere),
        ← outPath_enter hplace, writeModule_enter habsolute]
      rfl
  rw [generate, generate, earlyCrash?_enter hplace, hnow]
  cases earlyCrash? { options with directory := none } (world.enter place) <;> rfl

/-! ## A project in a directory of its own -/

/-- A world with a project below its directory: a config file with the given URL, and a database. -/
def projectWorld (url : String) : World where
  files := .ofList
    [(["app", "project", configFileName], .file (.script (.value (.object
      [("dialect", .text "sqlite"), ("database_url", .text url)])))),
     (["app", "project", "app.db"], .file (.text ""))]
  directory := { root := .slash, names := ["app"] }
  settings := {}
  server := .answering []

/-- What the config file of the project defines. -/
def projectConfig (url : String) : GeneratorConfig where
  dialect := "sqlite"
  databaseUrl := some url

/-- The URL of the database of the project, with an absolute path. -/
def projectUrl : String := "sqlite:////app/project/app.db"

/-- A run that is started in the project prints the module if the database is found. -/
theorem output_enter_project {url : String}
    (htext : (Generation.generate (projectConfig url)
      ((projectWorld url).enter ["app", "project"])).outcome
      = .ok "export interface Database \x7b\n\x7d\n\n") :
    (generate {} ((projectWorld url).enter ["app", "project"])).output
      = "export interface Database \x7b\n\x7d\n\n" := by
  have hcrash : earlyCrash? {} ((projectWorld url).enter ["app", "project"]) = none :=
    earlyCrash?_eq_none logLevelError?_default rfl
  have hcompletes : Completes {} ((projectWorld url).enter ["app", "project"])
      (projectConfig url) _ :=
    .of_loadConfig hcrash rfl htext
  exact (hcompletes.output_eq_iff rfl).2 (by decide +kernel)

/-- With an absolute path for its database the module of the project is printed from above it,
too. -/
theorem generate_enter_project :
    (generate { directory := some "project" } (projectWorld projectUrl)).output
      = "export interface Database \x7b\n\x7d\n\n" := by
  have hplace : (projectWorld projectUrl).files.find? (projectWorld projectUrl).directory
      (.ofString "project") = .ok (some ["app", "project"]) := by
    decide +kernel
  obtain ⟨_, _, hsame⟩ := generate_enter {} (projectWorld projectUrl) hplace
  have hload : GenerateOptions.loadConfig { directory := some "project" } (projectWorld projectUrl)
      = .ok (projectConfig projectUrl) := rfl
  rw [hsame ?_]
  · exact output_enter_project (by decide +kernel)
  · intro config hconfig
    rw [hload] at hconfig
    cases hconfig
    rintro ⟨_, url, hurl, _, hrelative⟩
    cases hurl
    exact absurd hrelative (by decide +kernel)

/-- With a relative path the database is not found from above the project. -/
theorem not_forall_generate_enter :
    ¬ ∀ (options : GenerateOptions) (world : World) (d : String) (place : Place),
      world.files.find? world.directory (.ofString d) = .ok (some place) →
      world.files.isDirectory place = true →
      generate { options with directory := some d } world
        = generate { options with directory := none } (world.enter place) := by
  intro h
  have hplace : (projectWorld "sqlite:///app.db").files.find?
      (projectWorld "sqlite:///app.db").directory (.ofString "project")
        = .ok (some ["app", "project"]) := by
    decide +kernel
  have hsame := h {} (projectWorld "sqlite:///app.db") "project" ["app", "project"] hplace rfl
  have hnone : ∀ config text,
      ¬ Completes { directory := some "project" } (projectWorld "sqlite:///app.db")
        config text := by
    rintro config text ⟨_, hmodule⟩
    have hload : GenerateOptions.loadConfig { directory := some "project" }
        (projectWorld "sqlite:///app.db") = .ok (projectConfig "sqlite:///app.db") := rfl
    have hmissing : (Generation.generate (projectConfig "sqlite:///app.db")
        (projectWorld "sqlite:///app.db")).outcome = .error (.databaseNotFound "app.db") := by
      decide +kernel
    rw [GenerateOptions.moduleText, hload, ok_bind, hmissing] at hmodule
    cases hmodule
  have hempty := (generate_of_not_completes hnone).1
  rw [hsame, output_enter_project (by decide +kernel)] at hempty
  exact absurd hempty (by decide)

end CommandLine

end SchemaTypes
