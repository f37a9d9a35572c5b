import SchemaTypes.Proofs.Import.Bindings

set_option autoImplicit false

/-! # The history of a collection of imports

Whatever is done with a collection, it registers bindings and defaults one by one, up to the first
default that is refused. The log of a collection is what has been registered, in order. It tells by
itself which default will be refused next (`Log.refusal?`), so what a collection is can be said of
its log alone: the first binding of a name is kept and the first default of a module is (`Records`).
Each operation keeps that (`Records.perform`), also when it fails half way, hence all runs do
(`records_run`).

The main statement is `values_run`: after any operations the sorted view shows the first bindings
and the first default of every module that has any.
-/

namespace SchemaTypes.ImportCollection

/-- What can be done with a collection. -/
inductive Operation where
  | addNamed (specifier : String) (bindings : List Binding)
  | addDefault (specifier name : String)
  | add (requests : List ModuleImport)

/-- The collection after an operation, and the error that the operation ended with. -/
def perform (c : ImportCollection) : Operation → ImportCollection × Option GeneratorError
  | .addNamed specifier bindings => (c.addNamed specifier bindings, none)
  | .addDefault specifier name =>
    match c.addDefault specifier name with
    | .ok next => (next, none)
    | .error e => (c, some e)
  | .add requests => c.add requests

/-- The collection after operations, some of which may have failed. -/
def run (c : ImportCollection) (operations : List Operation) : ImportCollection :=
  operations.foldl (fun c operation => (c.perform operation).1) c

/-! ## Logs -/

/-- A single thing that is registered for a module. -/
inductive Registration where
  | binding (specifier : String) (binding : Binding)
  | default (specifier name : String)
  deriving DecidableEq

namespace Registration

/-- The binding that is registered, if it is one of the name in the module. -/
def binding? (specifier name : String) : Registration → Option Binding
  | .binding s b => if s = specifier ∧ b.name = name then some b else none
  | .default _ _ => none

/-- The default that is registered, if it is one of the module and not empty. -/
def default? (specifier : String) : Registration → Option String
  | .binding _ _ => none
  | .default s name => if s = specifier ∧ name ≠ "" then some name else none

/-- What an import asks to register, the default first. -/
def ofImport (request : ModuleImport) : List Registration :=
  (request.default.filter (· ≠ "")).toList.map (.default request.specifier)
    ++ request.bindings.map (.binding request.specifier)

end Registration

/-- What an operation asks to register. -/
def Operation.registrations : Operation → List Registration
  | .addNamed specifier bindings => bindings.map (.binding specifier)
  | .addDefault specifier name => [.default specifier name]
  | .add requests => requests.flatMap Registration.ofImport

/-- What has been registered, in order. -/
abbrev Log := List Registration

namespace Log

/-- The first binding of a name in a module. -/
def binding? (log : Log) (specifier name : String) : Option Binding :=
  log.findSome? (Registration.binding? specifier name)

/-- The first default of a module that is not empty. -/
def default? (log : Log) (specifier : String) : Option String :=
  log.findSome? (Registration.default? specifier)

/-- Why something is not registered: the module has another default. -/
def refusal? (log : Log) : Registration → Option GeneratorError
  | .binding _ _ => none
  | .default specifier name =>
    match log.default? specifier with
    | some existing =>
      if existing = name then none else some (.importConflict specifier existing name)
    | none => none

/-- The log after registering up to the first refusal, and the refusal. -/
def register (log : Log) : List Registration → Log × Option GeneratorError
  | [] => (log, none)
  | r :: rest =>
    match log.refusal? r with
    | some e => (log, some e)
    | none => register (log ++ [r]) rest

/-- The log after operations. -/
def run (log : Log) (operations : List Operation) : Log :=
  operations.foldl (fun log operation => (log.register operation.registrations).1) log

variable (log : Log) (specifier : String)

theorem binding?_append (log more : Log) (specifier name : String) :
    (log ++ more).binding? specifier name
      = (log.binding? specifier name).or (more.binding? specifier name) :=
  List.findSome?_append

theorem default?_append (log more : Log) (specifier : String) :
    (log ++ more).default? specifier = (log.default? specifier).or (more.default? specifier) :=
  List.findSome?_append

theorem binding?_map_binding (added : List Binding) (other name : String) :
    Log.binding? (added.map (.binding specifier)) other name
      = if other = specifier then added.find? (·.name == name) else none := by
  rw [binding?]
  induction added with
  | nil => simp
  | cons b rest ih =>
    rw [List.map_cons, List.findSome?_cons, ih, Registration.binding?]
    by_cases hs : specifier = other
    · by_cases hname : b.name = name <;> simp [hs, hname]
    · simp [hs, Ne.symm hs]

theorem default?_map_binding (added : List Binding) (other : String) :
    Log.default? (added.map (.binding specifier)) other = none := by
  rw [default?, List.findSome?_eq_none_iff]
  intro r hr
  obtain ⟨b, _, rfl⟩ := List.mem_map.1 hr
  rfl

/-- Bindings are never refused. -/
theorem register_map_binding (added : List Binding) :
    log.register (added.map (.binding specifier))
      = (log ++ added.map (.binding specifier), none) := by
  induction added generalizing log with
  | nil => rw [List.map_nil, register, List.append_nil]
  | cons b rest ih =>
    rw [List.map_cons, register]
    show register (log ++ [.binding specifier b]) (rest.map (.binding specifier)) = _
    rw [ih, List.append_assoc, List.singleton_append]

theorem register_append (rs rest : List Registration) :
    log.register (rs ++ rest) =
      match log.register rs with
      | (log, none) => log.register rest
      | (log, some e) => (log, some e) := by
  induction rs generalizing log with
  | nil => rfl
  | cons r rs ih =>
    rw [List.cons_append, register, register]
    cases log.refusal? r with
    | some e => rfl
    | none => exact ih (log ++ [r])

/-- A log only grows. -/
theorem prefix_register (rs : List Registration) : log <+: (log.register rs).1 := by
  induction rs generalizing log with
  | nil => exact List.prefix_refl log
  | cons r rs ih =>
    rw [register]
    cases log.refusal? r with
    | some e => exact List.prefix_refl log
    | none => exact (List.prefix_append log [r]).trans (ih (log ++ [r]))

theorem prefix_run (operations : List Operation) : log <+: log.run operations := by
  induction operations generalizing log with
  | nil => exact List.prefix_refl log
  | cons operation rest ih => exact (prefix_register log _).trans (ih _)

/-- The default of a module stays. -/
theorem default?_of_prefix {log more : Log} {specifier name : String} (h : log <+: more)
    (hname : log.default? specifier = some name) : more.default? specifier = some name := by
  obtain ⟨rest, rfl⟩ := h
  rw [default?_append, hname, Option.some_or]

theorem default?_ne_empty {log : Log} {specifier name : String}
    (h : log.default? specifier = some name) : name ≠ "" := by
  obtain ⟨r, _, hr⟩ := List.exists_of_findSome?_eq_some h
  cases r with
  | binding => cases hr
  | default s n =>
    rw [Registration.default?] at hr
    split at hr
    · cases hr
      rename_i hgiven
      exact hgiven.2
    · cases hr

theorem name_of_binding?_eq {log : Log} {specifier name : String} {b : Binding}
    (h : log.binding? specifier name = some b) : b.name = name := by
  obtain ⟨r, _, hr⟩ := List.exists_of_findSome?_eq_some h
  cases r with
  | binding s d =>
    rw [Registration.binding?] at hr
    split at hr
    · cases hr
      rename_i hd
      exact hd.2
    · cases hr
  | default => cases hr

theorem exists_binding?_eq_iff {log : Log} {specifier name : String} :
    (∃ b, log.binding? specifier name = some b) ↔
      ∃ b, .binding specifier b ∈ log ∧ b.name = name := by
  rw [← Option.isSome_iff_exists, binding?, List.findSome?_isSome_iff]
  constructor
  · rintro ⟨r, hr, hsome⟩
    cases r with
    | binding s b =>
      rw [Registration.binding?] at hsome
      split at hsome
      · rename_i hb
        exact ⟨b, hb.1 ▸ hr, hb.2⟩
      · cases hsome
    | default => cases hsome
  · rintro ⟨b, hb, rfl⟩
    exact ⟨_, hb, by simp [Registration.binding?]⟩

theorem exists_default?_eq_iff {log : Log} {specifier : String} :
    (∃ name, log.default? specifier = some name) ↔ ∃ name ≠ "", .default specifier name ∈ log := by
  rw [← Option.isSome_iff_exists, default?, List.findSome?_isSome_iff]
  constructor
  · rintro ⟨r, hr, hsome⟩
    cases r with
    | binding => cases hsome
    | default s name =>
      rw [Registration.default?] at hsome
      split at hsome
      · rename_i hgiven
        exact ⟨name, hgiven.2, hgiven.1 ▸ hr⟩
      · cases hsome
  · rintro ⟨name, hname, hr⟩
    exact ⟨_, hr, by simp [Registration.default?, hname]⟩

end Log

/-! ## Collections and their logs -/

/-- A collection with the bindings of an import. -/
def addBindings (c : ImportCollection) (request : ModuleImport) : ImportCollection :=
  if request.bindings.isEmpty then c else c.addNamed request.specifier request.bindings

theorem addOne_eq (c : ImportCollection) (request : ModuleImport) :
    c.addOne request =
      match request.default.filter (· ≠ "") with
      | some name => (c.addDefault request.specifier name).map (addBindings · request)
      | none => .ok (c.addBindings request) := by
  unfold addOne addBindings
  cases request.default with
  | none => cases request.bindings <;> rfl
  | some name =>
    by_cases hname : name = ""
    · cases request.bindings <;> simp [hname] <;> rfl
    · rw [Option.filter_some, if_pos (by simpa using hname)]
      cases hadd : c.addDefault request.specifier name <;> cases request.bindings <;>
        simp [hname, hadd] <;> rfl

/-- A collection is what its log says: of each name it keeps the first binding, of each module the
first default. -/
structure Records (c : ImportCollection) (log : Log) : Prop where
  wellFormed : c.WellFormed
  find?_eq : ∀ specifier name,
    (c.entry specifier).bindings.find? (·.name == name) = log.binding? specifier name
  default_eq : ∀ specifier, (c.entry specifier).default.filter (· ≠ "") = log.default? specifier

theorem records_empty : empty.Records [] where
  wellFormed := wellFormed_empty
  find?_eq := fun _ _ => rfl
  default_eq := fun _ => rfl

theorem find?_insertBinding (bindings : List Binding) (b : Binding) (name : String) :
    (insertBinding bindings b).find? (·.name == name)
      = (bindings.find? (·.name == name)).or (if b.name == name then some b else none) := by
  unfold insertBinding
  split
  · rename_i hany
    by_cases hname : b.name = name
    · subst hname
      obtain ⟨d, hd⟩ := Option.isSome_iff_exists.1 (List.find?_isSome.2 (List.any_eq_true.1 hany))
      rw [hd, Option.some_or]
    · rw [beq_false_of_ne hname, if_neg (by decide), Option.or_none]
  · rw [List.find?_append, List.find?_singleton]

/-- Of each name the binding that was there stays, or else the first of the added ones is taken. -/
theorem find?_foldl_insertBinding (added bindings : List Binding) (name : String) :
    (added.foldl insertBinding bindings).find? (·.name == name)
      = (bindings.find? (·.name == name)).or (added.find? (·.name == name)) := by
  induction added generalizing bindings with
  | nil => rw [List.foldl_nil, List.find?_nil, Option.or_none]
  | cons b rest ih =>
    rw [List.foldl_cons, ih, find?_insertBinding, Option.or_assoc, List.find?_cons]
    cases b.name == name <;> rfl

namespace Records

variable {c : ImportCollection} {log : Log}

theorem addNamed (h : c.Records log) (specifier : String) (added : List Binding) :
    (c.addNamed specifier added).Records (log ++ added.map (.binding specifier)) := by
  have hentry : ∀ other, (c.addNamed specifier added).entry other = _ :=
    entry_update specifier
      (f := fun e => { e with bindings := added.foldl insertBinding e.bindings }) (fun _ => rfl) c
  refine ⟨h.wellFormed.addNamed specifier added, ?_, ?_⟩
  · intro other name
    rw [Log.binding?_append, Log.binding?_map_binding, ← h.find?_eq, hentry]
    by_cases hother : other = specifier
    · subst hother
      rw [if_pos rfl, if_pos rfl]
      exact find?_foldl_insertBinding added _ name
    · rw [if_neg hother, if_neg hother, Option.or_none]
  · intro other
    rw [Log.default?_append, Log.default?_map_binding, Option.or_none, ← h.default_eq, hentry]
    by_cases hother : other = specifier
    · subst hother
      rw [if_pos rfl]
    · rw [if_neg hother]

/-- A default is refused if the log says so. -/
theorem addDefault_eq (h : c.Records log) (specifier name : String) :
    c.addDefault specifier name =
      match log.refusal? (.default specifier name) with
      | some e => .error e
      | none => .ok (c.update specifier fun e => { e with default := some name }) := by
  have hdefault := h.default_eq specifier
  rw [ImportCollection.addDefault, Log.refusal?]
  cases hexisting : (c.entry specifier).default with
  | none =>
    rw [hexisting, Option.filter_none] at hdefault
    rw [← hdefault]
    rfl
  | some existing =>
    by_cases hempty : existing = ""
    · rw [hexisting, Option.filter_some, if_neg (by simp [hempty])] at hdefault
      rw [← hdefault]
      simp [isGiven, hempty]
    · rw [hexisting, Option.filter_some, if_pos (by simp [hempty])] at hdefault
      rw [← hdefault]
      by_cases hname : existing = name <;> simp [isGiven, hempty, hname]

theorem setDefault (h : c.Records log) {specifier name : String}
    (hrefusal : log.refusal? (.default specifier name) = none) :
    (c.update specifier fun e => { e with default := some name }).Records
      (log ++ [.default specifier name]) := by
  have hentry := entry_update specifier (f := fun e => { e with default := some name })
    (fun _ => rfl) c
  refine ⟨h.wellFormed.update specifier (fun _ => rfl) (fun _ he => he), ?_, ?_⟩
  · intro other n
    rw [Log.binding?_append, ← h.find?_eq, hentry]
    by_cases hother : other = specifier
    · subst hother
      rw [if_pos rfl]
      exact (Option.or_none).symm
    · rw [if_neg hother]
      exact (Option.or_none).symm
  · intro other
    rw [Log.default?_append, hentry]
    by_cases hother : other = specifier
    · subst hother
      rw [if_pos rfl, Log.refusal?] at *
      cases hlog : log.default? other with
      | none => by_cases hname : name = "" <;>
          simp [Log.default?, Registration.default?, Option.filter, hname]
      | some existing =>
        rw [hlog] at hrefusal
        have hsame : existing = name := by
          by_contra hne
          simp [hne] at hrefusal
        rw [Option.some_or, hsame, Option.filter_some,
          if_pos (by simpa [hsame] using Log.default?_ne_empty hlog)]
    · have hnone : Log.default? [.default specifier name] other = none := by
        simp [Log.default?, Registration.default?, Ne.symm hother]
      rw [if_neg hother, hnone, Option.or_none, h.default_eq]

/-- The bindings of an import, registered once its default is. -/
theorem addBindings (h : c.Records log) (request : ModuleImport) :
    (c.addBindings request).Records (log ++ request.bindings.map (.binding request.specifier)) := by
  unfold ImportCollection.addBindings
  split
  · rename_i hempty
    rwa [List.isEmpty_iff.1 hempty, List.map_nil, List.append_nil]
  · exact h.addNamed request.specifier request.bindings

/-- One import is registered as a whole, or nothing of it is. -/
theorem addOne (h : c.Records log) (request : ModuleImport) :
    (∃ next more, c.addOne request = .ok next ∧ next.Records more ∧
      log.register (Registration.ofImport request) = (more, none)) ∨
    ∃ e, c.addOne request = .error e ∧
      log.register (Registration.ofImport request) = (log, some e) := by
  rw [addOne_eq, Registration.ofImport]
  cases request.default.filter (· ≠ "") with
  | none => exact Or.inl ⟨_, _, rfl, h.addBindings request, Log.register_map_binding log _ _⟩
  | some name =>
    rw [Option.toList_some, List.map_singleton, List.singleton_append, Log.register]
    show (∃ next more, (c.addDefault _ _).map _ = _ ∧ _) ∨ ∃ e, (c.addDefault _ _).map _ = _ ∧ _
    rw [h.addDefault_eq]
    cases hrefusal : log.refusal? (.default request.specifier name) with
    | some e => exact Or.inr ⟨e, rfl, rfl⟩
    | none =>
      exact Or.inl ⟨_, _, rfl, (h.setDefault hrefusal).addBindings request,
        Log.register_map_binding _ _ _⟩

/-- Imports are registered up to the first that is refused. -/
theorem add (h : c.Records log) (requests : List ModuleImport) :
    (c.add requests).1.Records (log.register (requests.flatMap Registration.ofImport)).1 ∧
      (c.add requests).2 = (log.register (requests.flatMap Registration.ofImport)).2 := by
  induction requests generalizing c log with
  | nil => exact ⟨h, rfl⟩
  | cons request rest ih =>
    rw [ImportCollection.add, List.flatMap_cons, Log.register_append]
    rcases h.addOne request with ⟨next, more, hnext, hmore, hregister⟩ | ⟨e, herror, hregister⟩
    · rw [hnext, hregister]
      exact ih hmore
    · rw [herror, hregister]
      exact ⟨h, rfl⟩

/-- An operation registers what its log says and fails as its log says. -/
theorem perform (h : c.Records log) (operation : Operation) :
    (c.perform operation).1.Records (log.register operation.registrations).1 ∧
      (c.perform operation).2 = (log.register operation.registrations).2 := by
  cases operation with
  | addNamed specifier bindings =>
    rw [ImportCollection.perform, Operation.registrations, Log.register_map_binding]
    exact ⟨h.addNamed specifier bindings, rfl⟩
  | addDefault specifier name =>
    rw [ImportCollection.perform, Operation.registrations, Log.register, h.addDefault_eq]
    cases hrefusal : log.refusal? (.default specifier name) with
    | some e => exact ⟨h, rfl⟩
    | none => exact ⟨h.setDefault hrefusal, rfl⟩
  | add requests => exact h.add requests

theorem run (h : c.Records log) (operations : List Operation) :
    (c.run operations).Records (log.run operations) := by
  induction operations generalizing c log with
  | nil => exact h
  | cons operation rest ih => exact ih (h.perform operation).1

end Records

/-- Each collection that operations lead to is what the log of the operations says. -/
theorem records_run (operations : List Operation) :
    (empty.run operations).Records (Log.run [] operations) :=
  records_empty.run operations

/-! ## The sorted view -/

section

variable {c : ImportCollection}

theorem WellFormed.nodup_names_entry (h : c.WellFormed) (specifier : String) :
    (c.entry specifier).names.Nodup := by
  rw [entry]
  cases hfind : c.entries.find? (·.specifier == specifier) with
  | none => exact List.nodup_nil
  | some e => exact h.nodup_names e (List.mem_of_find?_eq_some hfind)

/-- The clause of a module is its entry, with the bindings sorted. -/
theorem eq_entry_of_mem_values (h : c.WellFormed) {clause : ModuleImport}
    (hclause : clause ∈ c.values) :
    clause.default = (c.entry clause.specifier).default ∧
      clause.bindings = sortBy (·.name) (c.entry clause.specifier).bindings := by
  obtain ⟨e, he, _, rfl⟩ := mem_values_iff.1 hclause
  rw [entry_eq_of_mem h.nodup_specifiers he]
  exact ⟨rfl, rfl⟩

/-- A module is in the view if its entry has a default or a binding. -/
theorem mem_specifiers_values_iff (h : c.WellFormed) {specifier : String} :
    specifier ∈ c.values.map (·.specifier) ↔
      isGiven (c.entry specifier).default = true ∨ (c.entry specifier).bindings ≠ [] := by
  constructor
  · intro hmem
    obtain ⟨clause, hclause, rfl⟩ := List.mem_map.1 hmem
    obtain ⟨e, he, hshown, rfl⟩ := mem_values_iff.1 hclause
    rw [entry_eq_of_mem h.nodup_specifiers he]
    simpa using hshown
  · intro hshown
    cases hfind : c.entries.find? (·.specifier == specifier) with
    | none => simp [entry, hfind, isGiven] at hshown
    | some e =>
      have hentry : c.entry specifier = e := by
        rw [entry, hfind, Option.getD_some]
      have hspecifier : e.specifier = specifier := by
        simpa using List.find?_some hfind
      rw [hentry] at hshown
      refine List.mem_map.2 ⟨_, mem_values_iff.2 ⟨e, List.mem_of_find?_eq_some hfind, ?_, rfl⟩,
        hspecifier⟩
      simpa using hshown

end

theorem isGiven_iff {o : Option String} :
    isGiven o = true ↔ ∃ name, o.filter (· ≠ "") = some name := by
  cases o with
  | none => simp [isGiven]
  | some name => by_cases hname : name = "" <;> simp [isGiven, hname]

theorem eq_some_of_filter {o : Option String} {name : String} (h : o.filter (· ≠ "") = some name) :
    o = some name :=
  (Option.filter_eq_some_iff.1 h).1

namespace Records

variable {c : ImportCollection} {log : Log}

/-- A module is shown if anything is registered for it. -/
theorem mem_specifiers_values_iff (h : c.Records log) {specifier : String} :
    specifier ∈ c.values.map (·.specifier) ↔
      (∃ b, .binding specifier b ∈ log) ∨ ∃ name ≠ "", .default specifier name ∈ log := by
  rw [ImportCollection.mem_specifiers_values_iff h.wellFormed, isGiven_iff, h.default_eq,
    Log.exists_default?_eq_iff, or_comm]
  refine or_congr_left ?_
  constructor
  · intro hne
    obtain ⟨b, hb⟩ := List.exists_mem_of_ne_nil _ hne
    have hsome : ((c.entry specifier).bindings.find? (·.name == b.name)).isSome := by
      rw [List.find?_isSome]
      exact ⟨b, hb, beq_self_eq_true _⟩
    rw [h.find?_eq, Option.isSome_iff_exists, Log.exists_binding?_eq_iff] at hsome
    obtain ⟨first, hfirst, _⟩ := hsome
    exact ⟨first, hfirst⟩
  · rintro ⟨b, hb⟩ hnil
    obtain ⟨first, hfirst⟩ := Log.exists_binding?_eq_iff.2 ⟨b, hb, rfl⟩
    rw [← h.find?_eq, hnil] at hfirst
    cases hfirst

/-- The bindings that are shown are the first ones of their names. -/
theorem mem_bindings_iff (h : c.Records log) {clause : ModuleImport} (hclause : clause ∈ c.values)
    {b : Binding} : b ∈ clause.bindings ↔ log.binding? clause.specifier b.name = some b := by
  rw [(eq_entry_of_mem_values h.wellFormed hclause).2, mem_sortBy, ← h.find?_eq]
  exact ⟨find?_eq_some_of_mem (h.wellFormed.nodup_names_entry clause.specifier),
    List.mem_of_find?_eq_some⟩

theorem mem_names_iff (h : c.Records log) {clause : ModuleImport} (hclause : clause ∈ c.values)
    {name : String} :
    name ∈ clause.names ↔ ∃ b, .binding clause.specifier b ∈ log ∧ b.name = name := by
  rw [← Log.exists_binding?_eq_iff, ModuleImport.names, List.mem_map]
  constructor
  · rintro ⟨b, hb, rfl⟩
    exact ⟨b, (h.mem_bindings_iff hclause).1 hb⟩
  · rintro ⟨b, hb⟩
    have hname : b.name = name := Log.name_of_binding?_eq hb
    subst hname
    exact ⟨b, (h.mem_bindings_iff hclause).2 hb, rfl⟩

theorem default_of_mem_values (h : c.Records log) {clause : ModuleImport}
    (hclause : clause ∈ c.values) :
    clause.default.filter (· ≠ "") = log.default? clause.specifier := by
  rw [(eq_entry_of_mem_values h.wellFormed hclause).1, h.default_eq]

end Records

/-- After any operations, failed ones among them, the sorted view lists the modules for which
anything has been registered, and for each of them the names that have been registered with their
first bindings and the first default that is not empty. Operations fail as the log tells, and a
default that is there stays. -/
theorem values_run (operations : List Operation) :
    ((empty.run operations).values.map (·.specifier)).Pairwise (· < ·) ∧
    (∀ specifier, specifier ∈ (empty.run operations).values.map (·.specifier) ↔
      (∃ b, .binding specifier b ∈ Log.run [] operations) ∨
        ∃ name ≠ "", .default specifier name ∈ Log.run [] operations) ∧
    (∀ clause ∈ (empty.run operations).values,
      clause.names.Pairwise (· < ·) ∧
      (∀ name, name ∈ clause.names ↔
        ∃ b, .binding clause.specifier b ∈ Log.run [] operations ∧ b.name = name) ∧
      (∀ b ∈ clause.bindings,
        (Log.run [] operations).binding? clause.specifier b.name = some b) ∧
      clause.default.filter (· ≠ "") = (Log.run [] operations).default? clause.specifier) ∧
    (∀ operation, ((empty.run operations).perform operation).2
      = ((Log.run [] operations).register operation.registrations).2) ∧
    ∀ more, ∀ clause ∈ (empty.run operations).values, isGiven clause.default = true →
      ∃ later ∈ (empty.run (operations ++ more)).values,
        later.specifier = clause.specifier ∧ later.default = clause.default := by
  have h := records_run operations
  refine ⟨pairwise_specifiers_values h.wellFormed, fun _ => h.mem_specifiers_values_iff, ?_,
    fun operation => (h.perform operation).2, ?_⟩
  · intro clause hclause
    exact ⟨pairwise_names_of_mem_values h.wellFormed hclause, fun _ => h.mem_names_iff hclause,
      fun _ => (h.mem_bindings_iff hclause).1, h.default_of_mem_values hclause⟩
  · intro more clause hclause hgiven
    have hlater := records_run (operations ++ more)
    obtain ⟨name, hname⟩ := isGiven_iff.1 hgiven
    have hfirst := h.default_of_mem_values hclause
    rw [hname] at hfirst
    -- the later log starts with this one
    have hprefix : Log.run [] operations <+: Log.run [] (operations ++ more) := by
      rw [Log.run, Log.run, List.foldl_append]
      exact Log.prefix_run _ more
    have hstays := Log.default?_of_prefix hprefix hfirst.symm
    have hshown : clause.specifier ∈ (empty.run (operations ++ more)).values.map (·.specifier) := by
      rw [hlater.mem_specifiers_values_iff]
      exact Or.inr (Log.exists_default?_eq_iff.1 ⟨name, hstays⟩)
    obtain ⟨later, hmem, hspecifier⟩ := List.mem_map.1 hshown
    have hdefault := hlater.default_of_mem_values hmem
    rw [hspecifier, hstays] at hdefault
    exact ⟨later, hmem, hspecifier, by rw [eq_some_of_filter hname, eq_some_of_filter hdefault]⟩

/-- A run whose first operation stops at its second import, which asks for another default. -/
def refusedOperations : List Operation :=
  [.add
    [{ specifier := "decimal.js", default := some "Decimal" },
     { specifier := "decimal.js", default := some "Big", bindings := [{ name := "Big" }] },
     { specifier := "kysely", bindings := [{ name := "Generated" }] }],
   .addNamed "decimal.js" [{ name := "Numeric", renamed := some "N" }],
   .addNamed "decimal.js" [{ name := "Numeric" }]]

/-- What comes after the refused default is not registered, what the next operations ask for is. -/
theorem values_run_refused :
    "kysely" ∉ (empty.run refusedOperations).values.map (·.specifier) ∧
    "decimal.js" ∈ (empty.run refusedOperations).values.map (·.specifier) ∧
    ∀ clause ∈ (empty.run refusedOperations).values, clause.specifier = "decimal.js" →
      clause.default.filter (· ≠ "") = some "Decimal" ∧
      ∀ b ∈ clause.bindings, b = { name := "Numeric", renamed := some "N" } := by
  obtain ⟨_, hlisted, hclauses, _, _⟩ := values_run refusedOperations
  have hlog : Log.run [] refusedOperations
      = [.default "decimal.js" "Decimal",
         .binding "decimal.js" { name := "Numeric", renamed := some "N" },
         .binding "decimal.js" { name := "Numeric" }] := by
    decide
  rw [hlog] at hlisted hclauses
  refine ⟨by simp [hlisted], by simp [hlisted], ?_⟩
  intro clause hclause hspecifier
  obtain ⟨_, hnames, hbindings, hdefault⟩ := hclauses clause hclause
  rw [hspecifier] at hnames hbindings hdefault
  refine ⟨hdefault, fun b hb => ?_⟩
  obtain ⟨d, hd, hname⟩ := (hnames b.name).1 (List.mem_map_of_mem hb)
  have hnumeric : b.name = "Numeric" := by
    rw [← hname]
    simp at hd
    rcases hd with rfl | rfl <;> rfl
  have hfirst := hbindings b hb
  rw [hnumeric] at hfirst
  exact (Option.some.inj hfirst).symm

end SchemaTypes.ImportCollection
