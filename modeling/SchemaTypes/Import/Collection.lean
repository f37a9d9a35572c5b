import SchemaTypes.GeneratorError
import SchemaTypes.Import.Basic

set_option autoImplicit false

/-! # Collecting imports

A collection gathers the imports of a module. It has one entry per module specifier, and entries
only grow: a name that is there already keeps its first binding, and a default that is there already
admits no other. `values` is the sorted view that gets printed.
-/

namespace SchemaTypes

/-- The imports of one module each, in the order in which the modules were first mentioned. -/
structure ImportCollection where
  entries : List ModuleImport := []
  deriving DecidableEq, Repr

namespace ImportCollection

/-- The collection with nothing in it. -/
def empty : ImportCollection := {}

/-- The entry of a module, empty if there is none yet. -/
def entry (collection : ImportCollection) (specifier : String) : ModuleImport :=
  (collection.entries.find? (·.specifier == specifier)).getD { specifier }

/-- The entries with that of one module changed, a new one at the end if there was none. -/
def updateEntry (specifier : String) (f : ModuleImport → ModuleImport) :
    List ModuleImport → List ModuleImport
  | [] => [f { specifier }]
  | e :: rest =>
    if e.specifier = specifier then f e :: rest else e :: updateEntry specifier f rest

/-- A collection with the entry of one module changed. -/
def update (collection : ImportCollection) (specifier : String)
    (f : ModuleImport → ModuleImport) : ImportCollection :=
  ⟨updateEntry specifier f collection.entries⟩

/-- Adds a binding unless its name is bound already. -/
def insertBinding (bindings : List Binding) (binding : Binding) : List Binding :=
  if bindings.any (·.name == binding.name) then bindings else bindings ++ [binding]

/-- Adds bindings to the entry of a module; names that are bound already keep their binding. -/
def addNamed (collection : ImportCollection) (specifier : String) (bindings : List Binding) :
    ImportCollection :=
  collection.update specifier fun e =>
    { e with bindings := bindings.foldl insertBinding e.bindings }

/-- Sets the default import of a module. Fails if the module has another default already. -/
def addDefault (collection : ImportCollection) (specifier name : String) :
    Except GeneratorError ImportCollection :=
  let existing := (collection.entry specifier).default
  if isGiven existing && existing != some name then
    .error (.importConflict specifier (existing.getD "") name)
  else .ok (collection.update specifier fun e => { e with default := some name })

/-- Adds what is imported from one module, the default first. -/
def addOne (collection : ImportCollection) (request : ModuleImport) :
    Except GeneratorError ImportCollection := do
  let withDefault ← match request.default with
    | some name =>
      if name = "" then pure collection else collection.addDefault request.specifier name
    | none => pure collection
  if request.bindings.isEmpty then return withDefault
  else return withDefault.addNamed request.specifier request.bindings

/-- Adds imports one after the other, up to the first that fails. The result is the collection as it
then is, and the error if there was one. -/
def add (collection : ImportCollection) :
    List ModuleImport → ImportCollection × Option GeneratorError
  | [] => (collection, none)
  | request :: rest =>
    match collection.addOne request with
    | .ok next => add next rest
    | .error e => (collection, some e)

/-- Texts in the order of their code points. -/
def sortBy {α : Type} (key : α → String) (values : List α) : List α :=
  values.mergeSort fun a b => decide (key a ≤ key b)

/-- The entries that import anything, sorted by specifier, their bindings sorted by name. -/
def values (collection : ImportCollection) : List ModuleImport :=
  sortBy (·.specifier)
    ((collection.entries.filter fun e => isGiven e.default || !e.bindings.isEmpty).map fun e =>
      { e with bindings := sortBy (·.name) e.bindings })

/-- The number of modules that anything is imported from. -/
def size (collection : ImportCollection) : Nat := collection.values.length

end ImportCollection

end SchemaTypes
