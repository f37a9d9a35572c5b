import SchemaTypes.Config.Loading
import SchemaTypes.Proofs.Outcome

set_option autoImplicit false

/-! # What loading a config file comes to

A configuration is validated while its file runs or after that, and what is told of it is the same:
the two ways to write a config file cannot be told apart by loading it (`load_withScript_eq`).
Whatever a file does, loading it gives a configuration or an error of the configuration that tells
the path, with three exceptions: a path that the system refuses, a file that is a library, and a
script that ends the whole program (`reports_load_iff`). The main statement is
`load_withScript_and_reports`.
-/

namespace SchemaTypes

/-! ## Trees that differ in the content of a file -/

namespace FileTree

/-- A tree with a script at a place. -/
def withScript (tree : FileTree) (place : Place) (script : ConfigScript) : FileTree :=
  tree.set place (.file (.script script))

/-- The node is a directory. -/
def isDirectoryNode : Node → Bool
  | .directory => true
  | .file _ => false

/-- Two trees have directories at the same places, and files at the same places. -/
def SameShape (tree other : FileTree) : Prop :=
  ∀ place, (tree.at? place).map isDirectoryNode = (other.at? place).map isDirectoryNode

variable {tree other : FileTree}

theorem isDirectory_eq (tree : FileTree) (place : Place) :
    tree.isDirectory place = ((tree.at? place).map isDirectoryNode == some true) := by
  unfold isDirectory
  cases tree.at? place with
  | none => rfl
  | some node => cases node <;> rfl

theorem SameShape.walk_eq (h : tree.SameShape other) (tooLong : PathError) (names : List String)
    (here : Place) : tree.walk tooLong here names = other.walk tooLong here names := by
  induction names generalizing here with
  | nil =>
    have hsome : (tree.at? here).isSome = (other.at? here).isSome := by
      rw [← Option.isSome_map, h here, Option.isSome_map]
    rw [walk, walk, hsome]
  | cons name rest ih => rw [walk, walk, isDirectory_eq, isDirectory_eq, h here, ih]

/-- Paths lead to the same places in trees of the same shape. -/
theorem SameShape.find?_eq (h : tree.SameShape other) (directory path : Path) :
    tree.find? directory path = other.find? directory path := by
  rw [find?, find?, h.walk_eq]

theorem at?_withScript (tree : FileTree) (place p : Place) (script : ConfigScript) :
    (tree.withScript place script).at? p
      = if p ≠ [] ∧ p = place then some (.file (.script script)) else tree.at? p := by
  cases p with
  | nil => rfl
  | cons name rest =>
    show (if name :: rest = place then _ else tree.below (name :: rest)) = _
    by_cases hplace : name :: rest = place
    · rw [if_pos hplace, if_pos ⟨List.cons_ne_nil _ _, hplace⟩]
    · rw [if_neg hplace, if_neg fun h => hplace h.2]
      rfl

theorem sameShape_withScript (tree : FileTree) (place : Place) (script script' : ConfigScript) :
    (tree.withScript place script).SameShape (tree.withScript place script') := by
  intro p
  rw [at?_withScript, at?_withScript]
  split <;> rfl

end FileTree

namespace GeneratorConfig

/-! ## Two ways to define a configuration -/

/-- Fields come to the same whether they are validated after the script or while it runs. -/
theorem run_value_eq_run_define (path : String) (fields : List (String × Value)) :
    run path (.value (.object fields)) = run path (.define fields) := by
  show ofDefined path (.value (.object fields)) = _
  rw [run, execute, ofDefined]
  cases ofFields fields <;> rfl

theorem run_define (path : String) (fields : List (String × Value)) :
    run path (.define fields)
      = (ofFields fields).mapError fun issues => .generator (.config (.invalid path issues)) := by
  rw [run, execute]
  cases ofFields fields <;> rfl

theorem loadContent_value_eq_loadContent_define (path : Path) (fields : List (String × Value)) :
    loadContent path (.script (.value (.object fields)))
      = loadContent path (.script (.define fields)) := by
  rw [loadContent, loadContent]
  cases loader? path with
  | none => rfl
  | some loader =>
    cases loader with
    | script => exact run_value_eq_run_define path.text fields
    | compiled => rfl
    | library => rfl

variable {files : FileTree} {directory path : Path}

/-- The configuration of what has been found at a path. -/
def loadFound (path : Path) : Option FileContent → Except Failure GeneratorConfig
  | none => refuse (.notFound path.text)
  | some content => loadContent path content

theorem load_of_content?_eq {found : Option FileContent}
    (h : files.content? directory path = .ok found) :
    load files directory path = loadFound path found := by
  rw [load, h]
  cases found <;> rfl

theorem load_of_content?_eq_error {e : PathError} (h : files.content? directory path = .error e) :
    load files directory path = .error (.path e) := by
  rw [load, h]
  rfl

theorem contentAt?_withScript (files : FileTree) (place there : Place) (script : ConfigScript) :
    (files.withScript place script).contentAt? there
      = if there ≠ [] ∧ there = place then some (.script script) else files.contentAt? there := by
  rw [FileTree.contentAt?, FileTree.contentAt?, FileTree.at?_withScript]
  by_cases h : there ≠ [] ∧ there = place
  · rw [if_pos h, if_pos h]
  · rw [if_neg h, if_neg h]

/-- A file gives the same configuration, or the same error, in whichever way it defines the
fields. -/
theorem load_withScript_eq (files : FileTree) (directory path : Path) (place : Place)
    (fields : List (String × Value)) :
    load (files.withScript place (.value (.object fields))) directory path
      = load (files.withScript place (.define fields)) directory path := by
  have hfind :=
    (files.sameShape_withScript place (.value (.object fields)) (.define fields)).find?_eq
      directory path
  cases hfound : (files.withScript place (.define fields)).find? directory path with
  | error e =>
    rw [hfound] at hfind
    rw [load_of_content?_eq_error (by rw [FileTree.content?, hfind]; rfl),
      load_of_content?_eq_error (by rw [FileTree.content?, hfound]; rfl)]
  | ok found =>
    rw [hfound] at hfind
    rw [load_of_content?_eq (by rw [FileTree.content?, hfind]; rfl),
      load_of_content?_eq (by rw [FileTree.content?, hfound]; rfl)]
    cases found with
    | none => rfl
    | some there =>
      show loadFound path (FileTree.contentAt? _ there)
          = loadFound path (FileTree.contentAt? _ there)
      rw [contentAt?_withScript, contentAt?_withScript]
      -- the two trees differ at the place of the script alone
      split
      · exact loadContent_value_eq_loadContent_define path fields
      · rfl

/-- A script that is found and run gives its configuration, or the issues of its fields. -/
theorem load_define {fields : List (String × Value)} (hloader : loader? path = some .script)
    (hcontent : files.content? directory path = .ok (some (.script (.define fields)))) :
    load files directory path
      = (ofFields fields).mapError fun issues =>
        .generator (.config (.invalid path.text issues)) := by
  rw [load_of_content?_eq hcontent, loadFound, loadContent, hloader]
  exact run_define path.text fields

/-! ## What is reported -/

/-- The outcome is a configuration, or an error of the configuration that tells the path. -/
def Reports (path : Path) (outcome : Except Failure GeneratorConfig) : Prop :=
  (∃ config, outcome = .ok config) ∨
    ∃ error : ConfigError, outcome = .error (.generator (.config error)) ∧
      ("path", path.text) ∈ error.details

/-- The file ends the whole program. -/
def Interrupts (path : Path) (content : FileContent) : Prop :=
  loader? path = some .script ∧ ∃ name text, content.asScript = .raises name text ∧
    (ScriptException.ofName name text).isInterrupt = true

theorem reports_refuse {error : ConfigError} (h : ("path", path.text) ∈ error.details) :
    Reports path (refuse error) := Or.inr ⟨error, rfl, h⟩

theorem not_reports_error {failure : Failure} (h : ∀ error, failure ≠ .generator (.config error)) :
    ¬ Reports path (.error failure) := by
  rintro (⟨config, hok⟩ | ⟨error, herror, _⟩)
  · cases hok
  · exact h error (Except.error.inj herror)

/-- Running a script is reported unless it raises what ends the program. -/
theorem reports_run_iff {script : ConfigScript} :
    Reports path (run path.text script) ↔
      ∀ name text, script = .raises name text →
        (ScriptException.ofName name text).isInterrupt = false := by
  have hothers : ∀ {outcome : Except Failure GeneratorConfig}, Reports path outcome →
      (∀ name text, script ≠ .raises name text) →
      (Reports path outcome ↔ ∀ name text, script = .raises name text →
        (ScriptException.ofName name text).isInterrupt = false) :=
    fun hreports hraises => ⟨fun _ name text h => absurd h (hraises name text), fun _ => hreports⟩
  have hfields : ∀ fields, Reports path (run path.text (.define fields)) := by
    intro fields
    rw [run_define]
    cases ofFields fields with
    | ok config => exact Or.inl ⟨config, rfl⟩
    | error issues => exact reports_refuse List.mem_cons_self
  cases script with
  | absent => exact hothers (reports_refuse List.mem_cons_self) (by simp)
  | define fields => exact hothers (hfields fields) (by simp)
  | value value =>
    refine hothers ?_ (by simp)
    cases value with
    | null => exact reports_refuse List.mem_cons_self
    | object fields =>
      rw [run_value_eq_run_define]
      exact hfields fields
    | _ => exact reports_refuse List.mem_cons_self
  | raises name text =>
    have hrun : run path.text (.raises name text) = .error (raised path.text (.ofName name text)) :=
      rfl
    rw [hrun, raised]
    cases hinterrupt : (ScriptException.ofName name text).isInterrupt with
    | true =>
      rw [if_pos rfl]
      refine iff_of_false (not_reports_error fun error h => by cases h) fun h => ?_
      exact absurd (h name text rfl) (by simp [hinterrupt])
    | false =>
      rw [if_neg (by decide)]
      refine iff_of_true (reports_refuse List.mem_cons_self) ?_
      rintro _ _ ⟨⟩
      exact hinterrupt

theorem reports_loadContent_iff {content : FileContent} :
    Reports path (loadContent path content) ↔
      loader? path ≠ some .library ∧ ¬ Interrupts path content := by
  rw [loadContent, Interrupts]
  cases hloader : loader? path with
  | none => exact iff_of_true (reports_refuse List.mem_cons_self) (by simp)
  | some loader =>
    cases loader with
    | library => exact iff_of_false (not_reports_error fun error h => by cases h) (by simp)
    | compiled => exact iff_of_true (reports_refuse List.mem_cons_self) (by simp)
    | script =>
      refine reports_run_iff.trans ?_
      simp

/-- Loading is reported unless the system refuses the path, or the file is a library or ends the
program. -/
theorem reports_load_iff (files : FileTree) (directory path : Path) :
    Reports path (load files directory path) ↔
      ∃ found, files.content? directory path = .ok found ∧
        ∀ content ∈ found, loader? path ≠ some .library ∧ ¬ Interrupts path content := by
  cases hcontent : files.content? directory path with
  | error e =>
    rw [load_of_content?_eq_error hcontent]
    exact iff_of_false (not_reports_error fun error h => by cases h) (by simp)
  | ok found =>
    rw [load_of_content?_eq hcontent]
    cases found with
    | none => exact iff_of_true (reports_refuse List.mem_cons_self) (by simp)
    | some content =>
      show Reports path (loadContent path content) ↔ _
      simpa using reports_loadContent_iff

/-- Whether a file validates its fields itself makes no difference to what is loaded, which for a
script is a configuration or what is wrong with the fields. Only a path that the system refuses, a
library and the end of the whole program are not reported with the path. -/
theorem load_withScript_and_reports (files : FileTree) (directory path : Path) :
    (∀ place fields,
      load (files.withScript place (.value (.object fields))) directory path
        = load (files.withScript place (.define fields)) directory path) ∧
    (∀ fields, loader? path = some .script →
      files.content? directory path = .ok (some (.script (.define fields))) →
      load files directory path
        = (ofFields fields).mapError fun issues =>
          .generator (.config (.invalid path.text issues))) ∧
    (Reports path (load files directory path) ↔
      ∃ found, files.content? directory path = .ok found ∧
        ∀ content ∈ found, loader? path ≠ some .library ∧ ¬ Interrupts path content) :=
  ⟨load_withScript_eq files directory path, fun _ => load_define,
    reports_load_iff files directory path⟩

/-- A tree with one file, in the working directory `app`. -/
def appTree (name : String) (script : ConfigScript) : FileTree :=
  .ofList [(["app", name], .file (.script script))]

def appDirectory : Path where
  root := .slash
  names := ["app"]

/-- Fields without a dialect are refused with the path, before and after the file has run. -/
theorem load_without_dialect :
    load ((appTree configFileName .absent).withScript ["app", configFileName] (.define []))
        appDirectory (.ofString configFileName)
      = .error (.generator (.config (.invalid configFileName
        [{ rule := .required, place := [.key "dialect"] }]))) ∧
    load ((appTree configFileName .absent).withScript ["app", configFileName] (.value (.object [])))
        appDirectory (.ofString configFileName)
      = .error (.generator (.config (.invalid configFileName
        [{ rule := .required, place := [.key "dialect"] }]))) := by
  obtain ⟨hsame, _, _⟩ := load_withScript_and_reports (appTree configFileName .absent) appDirectory
    (.ofString configFileName)
  obtain ⟨_, hdefine, _⟩ := load_withScript_and_reports
    ((appTree configFileName .absent).withScript ["app", configFileName] (.define [])) appDirectory
    (.ofString configFileName)
  have hissue := hdefine [] (by decide +kernel) rfl
  exact ⟨hissue, (hsame _ []).trans hissue⟩

/-- A library is not reported. -/
theorem not_forall_reports_load :
    ¬ ∀ (files : FileTree) (directory path : Path),
      (∀ content, files.content? directory path = .ok (some content) → ¬ Interrupts path content) →
      Reports path (load files directory path) := by
  intro h
  have hreports := h (appTree "config.so" (.value (.object [("dialect", .text "sqlite")])))
    appDirectory (.ofString "config.so") ?_
  · have hload : load (appTree "config.so" (.value (.object [("dialect", .text "sqlite")])))
        appDirectory (.ofString "config.so") = .error .notLoadable := rfl
    rw [hload] at hreports
    exact not_reports_error (fun error herror => by cases herror) hreports
  · rintro content hcontent ⟨_, name, text, hraises, _⟩
    cases hcontent
    cases hraises

end GeneratorConfig

end SchemaTypes
