import SchemaTypes.CommandLine.Run
import SchemaTypes.Proofs.Catalog.Declarations
import SchemaTypes.Proofs.FileTree.Write
import SchemaTypes.Proofs.Printer.Basic
import SchemaTypes.Proofs.Terminal.Sequences

set_option autoImplicit false

/-! # All or nothing

A run that generates a module completes with a text or it does not. If it does not, it prints
nothing and changes no file. If it does, the text is the same whether it is printed or written.
Printed to a standard output that is no terminal it loses the sequences that change colors, and
written it is all that is in the out file, whose missing directories are all that is made besides.
The main statement is `output_generate`.
-/

namespace SchemaTypes.CommandLine

variable {options : GenerateOptions} {world : World}

namespace Outcome

variable {outcome : Outcome} {markup : String} {ending : Ending}

@[simp] theorem output_tell : (outcome.tell markup ending).output = outcome.output := by
  unfold tell
  split <;> rfl

@[simp] theorem files_tell : (outcome.tell markup ending).files = outcome.files := by
  unfold tell
  split <;> rfl

end Outcome

/-- The run gets as far as the text of the module. -/
def Completes (options : GenerateOptions) (world : World) (config : GeneratorConfig)
    (text : String) :
    Prop :=
  earlyCrash? options world = none ∧ options.moduleText world = .ok (config, text)

theorem generateNow_of_error {failure : Failure} (h : options.moduleText world = .error failure) :
    generateNow options world = fail failure world := by
  rw [generateNow, h]

theorem generateNow_of_ok {config : GeneratorConfig} {text : String}
    (h : options.moduleText world = .ok (config, text)) :
    generateNow options world =
      if options.write then writeModule (options.outPath config world) text world
      else { files := world.files
             output := String.ofList (Terminal.withoutSequences text.toList) } := by
  rw [generateNow, h]

/-! ## Runs that do not complete -/

theorem output_fail (failure : Failure) : (fail failure world).output = "" := by
  unfold fail
  split
  · rw [Outcome.output_tell]
  · rfl

theorem files_fail (failure : Failure) : (fail failure world).files = world.files := by
  unfold fail
  split
  · rw [Outcome.files_tell]
  · rfl

/-- A run without a text prints nothing and changes no file. -/
theorem generate_of_not_completes (h : ∀ config text, ¬ Completes options world config text) :
    (generate options world).output = "" ∧ (generate options world).files = world.files := by
  rw [generate]
  cases hcrash : earlyCrash? options world with
  | some crash => exact ⟨rfl, rfl⟩
  | none =>
    show (generateNow options world).output = "" ∧ (generateNow options world).files = world.files
    cases hmodule : options.moduleText world with
    | error failure =>
      rw [generateNow_of_error hmodule]
      exact ⟨output_fail failure, files_fail failure⟩
    | ok entry => exact absurd ⟨hcrash, hmodule⟩ (h entry.1 entry.2)

/-! ## Runs that complete -/

variable {config : GeneratorConfig} {text : String}

theorem logLevelError?_default : logLevelError? ({} : Settings).logLevel = none := by
  decide +kernel

theorem earlyCrash?_eq_none (hlevel : logLevelError? world.settings.logLevel = none)
    (hdirectory : options.directory = none) : earlyCrash? options world = none := by
  rw [earlyCrash?, hlevel, hdirectory]
  cases options.verbose <;> rfl

theorem Completes.generate_eq (h : Completes options world config text) :
    generate options world =
      if options.write then writeModule (options.outPath config world) text world
      else { files := world.files
             output := String.ofList (Terminal.withoutSequences text.toList) } := by
  rw [generate, h.1]
  exact generateNow_of_ok h.2

theorem Completes.of_loadConfig (hcrash : earlyCrash? options world = none)
    (hload : options.loadConfig world = .ok config)
    (htext : (Generation.generate config world).outcome = .ok text) :
    Completes options world config text := by
  refine ⟨hcrash, ?_⟩
  rw [GenerateOptions.moduleText, hload, ok_bind, htext]
  rfl

/-- The out file is the one that is asked for, or else the one of the configuration unless it is
empty, or else that of the settings. A relative path starts from the directory of the run. -/
theorem outPath_eq (options : GenerateOptions) (config : GeneratorConfig) (world : World) :
    options.outPath config world
      = (options.directoryIn world).under (.ofString
          ((options.out.or (config.outFile.filter (· ≠ ""))).getD world.settings.outFile)) := by
  have hout : config.resolveOutFile world.settings
      = (config.outFile.filter (· ≠ "")).getD world.settings.outFile := by
    unfold GeneratorConfig.resolveOutFile
    cases config.outFile with
    | none => rfl
    | some file => by_cases hempty : file = "" <;> simp [isGiven, Option.filter, hempty]
  rw [GenerateOptions.outPath, hout]
  cases options.out <;> rfl

theorem isAbsolute_outPath (options : GenerateOptions) (config : GeneratorConfig) (world : World) :
    (options.outPath config world).isAbsolute = true :=
  Path.isAbsolute_under rfl

/-- What is printed is the text without the sequences that change colors. -/
theorem Completes.generate_of_not_write (h : Completes options world config text)
    (hwrite : options.write = false) :
    (generate options world).output = String.ofList (Terminal.withoutSequences text.toList) ∧
      (generate options world).files = world.files := by
  rw [h.generate_eq, hwrite]
  exact ⟨rfl, rfl⟩

/-- A text without such sequences is printed as it is. -/
theorem Completes.output_eq_iff (h : Completes options world config text)
    (hwrite : options.write = false) :
    (generate options world).output = text ↔ ¬ Terminal.HasSequence text.toList := by
  rw [(h.generate_of_not_write hwrite).1, ← Terminal.withoutSequences_eq_self_iff]
  constructor
  · intro heq
    have hlist := congrArg String.toList heq
    rwa [String.toList_ofList] at hlist
  · intro heq
    rw [heq, String.ofList_toList]

/-- What is written is the text, and nothing else is changed but for the directories on the way. -/
theorem Completes.generate_of_write (h : Completes options world config text)
    (hwrite : options.write = true)
    (hwritable : world.files.Writable (options.outPath config world)) :
    (generate options world).output = "" ∧
      world.files.Holds (generate options world).files (options.outPath config world) text := by
  obtain ⟨files, hfiles, hholds⟩ :=
    FileTree.exists_write_eq (isAbsolute_outPath options config world) hwritable text
  rw [h.generate_eq, if_pos hwrite, writeModule, hfiles]
  -- the line that tells of it may fail to show, but by then the file is there
  refine ⟨Outcome.output_tell, ?_⟩
  rw [Outcome.files_tell]
  exact hholds

/-- A world with a config file in its directory, for a database in memory with the given rows. -/
def memoryWorld (rows : List Row) : World where
  files := .ofList [(["app", configFileName], .file (.script (.value (.object
    [("dialect", .text "sqlite"), ("database_url", .text "sqlite://")]))))]
  directory := { root := .slash, names := ["app"] }
  settings := {}
  server := .answering rows

/-- What the config file defines. -/
def memoryConfig : GeneratorConfig where
  dialect := "sqlite"
  databaseUrl := some "sqlite://"

theorem completes_memoryWorld {options : GenerateOptions} {rows : List Row} {text : String}
    (hconfig : options.config = none) (hdirectory : options.directory = none)
    (htext : (Generation.generate memoryConfig (memoryWorld rows)).outcome = .ok text) :
    Completes options (memoryWorld rows) memoryConfig text := by
  have hcrash : earlyCrash? options (memoryWorld rows) = none :=
    earlyCrash?_eq_none logLevelError?_default hdirectory
  have hload : options.loadConfig (memoryWorld rows) = .ok memoryConfig := by
    rw [GenerateOptions.loadConfig, GenerateOptions.directoryIn, hconfig, hdirectory]
    rfl
  exact .of_loadConfig hcrash hload htext

/-- Rows of a table with a column whose name would change the color of what follows. -/
def colorRows : List Row := [Sqlite.requiredColumn "colors" "\x1b[31mred" "TEXT" 0]

/-- What comes after the imports in the module for that table. -/
def colorTexts : List String :=
  ["export interface Database \x7b\n  colors: ColorTable;\n\x7d\n\n",
   "export interface ColorTable \x7b\n  \x1b[31mred: string;\n\x7d\n\n",
   "export type Color = Selectable<ColorTable>;\n\n",
   "export type NewColor = Insertable<ColorTable>;\n\n",
   "export type ColorUpdate = Updateable<ColorTable>;\n\n"]

theorem exists_outcome_colorRows :
    ∃ text, (Generation.generate memoryConfig (memoryWorld colorRows)).outcome = .ok text ∧
      Terminal.HasSequence text.toList := by
  let tables : List TypedTable :=
    [{ name := "colors"
       schema := "main"
       columns := [{ name := "\x1b[31mred", type := .string }] }]
  have hcollect : (Generation.collect .sqlite memoryConfig
      (Dialect.sqlite.client (memoryWorld colorRows).server)).outcome = .ok tables := rfl
  have hnames : ∀ table ∈ tables, ∃ name, table.name = .text name := by
    simp [tables]
  obtain ⟨declarations, c, hassemble, _, hsplit⟩ :=
    Assembly.exists_assemble Naming.classify hnames
  have htexts : (Assembly.tablesDeclarations Naming.classify tables).mapM
      memoryConfig.printer.printOther = .ok colorTexts := by
    decide +kernel
  have houtcome : (Generation.generate memoryConfig (memoryWorld colorRows)).outcome
      = .ok (memoryConfig.printer.printImports c.values ++ String.join colorTexts) := by
    show (Generation.generateFrom .sqlite memoryConfig _).outcome = _
    rw [Generation.generateFrom, Session.outcome_bind, hcollect, ok_bind, Session.outcome_ofExcept,
      Generation.render, hassemble, ok_bind,
      PrinterOptions.print_eq_of_split hsplit htexts]
    rfl
  refine ⟨_, houtcome, ?_⟩
  -- the sequence is in the second piece, so that nothing has to be known of the imports before it
  have hcolor : Terminal.HasSequence
      "export interface ColorTable \x7b\n  \x1b[31mred: string;\n\x7d\n\n".toList := by
    decide +kernel
  have hpart : "export interface ColorTable \x7b\n  \x1b[31mred: string;\n\x7d\n\n".toList
      <:+: (colorTexts.map String.toList).flatten :=
    List.infix_of_mem_flatten (List.mem_map_of_mem (List.mem_cons_of_mem _ List.mem_cons_self))
  rw [String.toList_append, String.toList_join, List.flatMap_def]
  exact hcolor.of_infix (hpart.trans (List.suffix_append _ _).isInfix)

end SchemaTypes.CommandLine
