import SchemaTypes.Proofs.FileTree.Walk

set_option autoImplicit false

/-! # What writing a file changes

The names of a path lead from the root through places on the way (`waypoints`) to one last place
(`destination`). A path is `Writable` if no file is on the way and no directory at its end, and if
its names and the whole of it are short enough. Writing to such a path succeeds, and what that comes
to is `Holds`: the file is at the end, there are directories on the way where there was nothing, and
every other place is as it was (`exists_write_eq`).
-/

namespace SchemaTypes

/-- The text of the directory that an absolute path lies in is no longer than that of the path. -/
theorem Path.utf8ByteSize_text_parent_le {path : Path} (h : path.isAbsolute = true) :
    path.parent.text.utf8ByteSize ≤ path.text.utf8ByteSize := by
  obtain ⟨root, names⟩ := path
  have hbody : (String.intercalate "/" names.dropLast).utf8ByteSize
      ≤ (String.intercalate "/" names).utf8ByteSize := by
    rcases List.eq_nil_or_concat names with rfl | ⟨init, last, rfl⟩
    · exact Nat.le_refl _
    · rw [List.concat_eq_append, List.dropLast_concat]
      by_cases hinit : init = []
      · rw [hinit]
        exact Nat.zero_le _
      · rw [String.intercalate_append_of_ne_nil hinit (by simp), String.utf8ByteSize_append,
          String.utf8ByteSize_append]
        omega
  have habove : ∀ start : String,
      (start ++ String.intercalate "/" names.dropLast).utf8ByteSize
        ≤ (start ++ String.intercalate "/" names).utf8ByteSize := by
    intro start
    rw [String.utf8ByteSize_append, String.utf8ByteSize_append]
    exact Nat.add_le_add_left hbody _
  cases root with
  | none => cases h
  | slash => exact habove "/"
  | twoSlashes => exact habove "//"

theorem Path.hasNull_parent {path : Path} (h : path.hasNull = false) :
    path.parent.hasNull = false := by
  rw [hasNull, List.any_eq_false] at h ⊢
  exact fun name hname => h name (List.dropLast_subset _ hname)

namespace FileTree

/-- The places that names lead through, from a place on. -/
def waypoints (here : Place) : List String → List Place
  | [] => []
  | name :: rest => placeIn here name :: waypoints (placeIn here name) rest

/-- A tree with directories at those of some places where there is nothing. -/
def withDirectories (tree : FileTree) (places : List Place) : FileTree where
  below := fun p => if p ∈ places ∧ tree.at? p = none then some .directory else tree.below p

variable {tree : FileTree} {place p : Place} {places : List Place} {names : List String}

@[simp] theorem at?_nil : tree.at? [] = some .directory := rfl

theorem isDirectory_iff : tree.isDirectory place = true ↔ tree.at? place = some .directory := by
  unfold isDirectory
  split <;> simp_all

theorem at?_set {node : Node} (h : place ≠ []) :
    (tree.set place node).at? p = if p = place then some node else tree.at? p := by
  cases p with
  | nil => rw [if_neg (Ne.symm h), at?_nil, at?_nil]
  | cons name rest => rfl

theorem at?_withDirectories :
    (tree.withDirectories places).at? p
      = if p ∈ places ∧ tree.at? p = none then some .directory else tree.at? p := by
  cases p with
  | nil => rw [at?_nil, at?_nil, if_neg (by simp)]
  | cons name rest => rfl

@[simp] theorem withDirectories_nil : tree.withDirectories [] = tree := by
  simp [withDirectories]

/-- Where there is something already, no directory is made. -/
theorem withDirectories_cons_of_some (h : tree.at? place ≠ none) :
    tree.withDirectories (place :: places) = tree.withDirectories places := by
  have hp : ∀ p, (p ∈ place :: places ∧ tree.at? p = none) ↔ (p ∈ places ∧ tree.at? p = none) := by
    intro p
    rw [List.mem_cons]
    constructor
    · rintro ⟨rfl | hmem, hnone⟩
      · exact absurd hnone h
      · exact ⟨hmem, hnone⟩
    · exact fun ⟨hmem, hnone⟩ => ⟨Or.inr hmem, hnone⟩
  simp only [withDirectories, hp]

/-- Making one directory and then the other ones. -/
theorem withDirectories_cons_of_none (h : tree.at? place = none) :
    tree.withDirectories (place :: places)
      = (tree.set place .directory).withDirectories places := by
  have hne : place ≠ [] := by
    rintro rfl
    cases h
  refine congrArg FileTree.mk (funext fun p => ?_)
  show _ = if p ∈ places ∧ (tree.set place .directory).at? p = none then _ else
    if p = place then _ else _
  rw [at?_set hne]
  by_cases hp : p = place
  · subst hp
    simp [h]
  · simp [hp]

/-! ## Making directories -/

/-- Directories are made of all places on the way where there is nothing, if there is no file on it
and everything up to where it starts is a directory. -/
theorem makeDirectories_eq {root : Path.Root} {walked : List String} {here : Place} {made : Bool}
    (hhere : ∀ p, p <+: here → tree.at? p = some .directory)
    (hsize : ∀ name ∈ names, name.utf8ByteSize ≤ nameLimit)
    (hway : ∀ place ∈ waypoints here names, ∀ content, tree.at? place ≠ some (.file content)) :
    tree.makeDirectories root walked here made names
      = (tree.withDirectories (waypoints here names), .ok (destination here names)) := by
  induction names generalizing tree walked here made with
  | nil => rw [makeDirectories, waypoints, withDirectories_nil, destination, List.foldl_nil]
  | cons name rest ih =>
    rw [List.forall_mem_cons] at hsize
    rw [waypoints, List.forall_mem_cons] at hway
    obtain ⟨hplace, hrest⟩ := hway
    rw [makeDirectories, waypoints, destination, List.foldl_cons, ← destination]
    by_cases hdots : name = ".."
    · -- back to a directory that was passed before
      have hback : placeIn here name = here.dropLast := by rw [placeIn, if_pos hdots]
      rw [hback] at hrest ⊢
      have hthere : ∀ p, p <+: here.dropLast → tree.at? p = some .directory :=
        fun p hp => hhere p (hp.trans (List.dropLast_prefix here))
      rw [if_pos hdots, ih hthere hsize.2 hrest, withDirectories_cons_of_some]
      rw [hthere _ List.prefix_rfl]
      simp
    · have hinto : placeIn here name = here ++ [name] := by rw [placeIn, if_neg hdots]
      rw [hinto] at hplace hrest ⊢
      rw [if_neg hdots, if_neg (Nat.not_lt.2 hsize.1)]
      have hfront : ∀ p, p <+: here ++ [name] → p = here ++ [name] ∨ p <+: here := by
        intro p hp
        rwa [List.prefix_concat_iff] at hp
      cases hat : tree.at? (here ++ [name]) with
      | none =>
        have hset : ∀ p, (tree.set (here ++ [name]) .directory).at? p
            = if p = here ++ [name] then some .directory else tree.at? p :=
          fun p => at?_set (by simp)
        rw [withDirectories_cons_of_none hat]
        simp only [hat]
        refine ih ?_ hsize.2 ?_
        · intro p hp
          rw [hset]
          split
          · rfl
          · rename_i hne
            exact hhere p ((hfront p hp).resolve_left hne)
        · intro place hmem content
          rw [hset]
          split
          · simp
          · exact hrest place hmem content
      | some node =>
        cases node with
        | file content => exact absurd hat (hplace content)
        | directory =>
          rw [withDirectories_cons_of_some (by simp [hat])]
          simp only [hat]
          refine ih ?_ hsize.2 hrest
          intro p hp
          rcases hfront p hp with rfl | hp
          · exact hat
          · exact hhere p hp

/-! ## Writing -/

/-- A file can be written to the path: the path is no longer than paths may be, there is no file on
the way to its end, and no directory there, nor will there be one after those on the way are
made. -/
structure Writable (tree : FileTree) (path : Path) : Prop where
  noNull : path.hasNull = false
  pathSize : path.text.utf8ByteSize ≤ pathLimit
  nameSize : ∀ name ∈ path.names, name.utf8ByteSize ≤ nameLimit
  way : ∀ place ∈ waypoints [] path.parent.names, ∀ content, tree.at? place ≠ some (.file content)
  fresh : destination [] path.names ∉ waypoints [] path.parent.names
  target : tree.at? (destination [] path.names) ≠ some .directory

/-- The second tree is the first one with a text at the end of a path, and with directories on the
way there where there is nothing in the first one. -/
structure Holds (before after : FileTree) (path : Path) (content : String) : Prop where
  target : after.at? (destination [] path.names) = some (.file (.text content))
  elsewhere : ∀ place, place ≠ destination [] path.names →
    after.at? place =
      if place ∈ waypoints [] path.parent.names ∧ before.at? place = none then some .directory
      else before.at? place

variable {directory path : Path}

theorem Writable.makeDirectory_eq (h : tree.Writable path) (habsolute : path.isAbsolute = true) :
    tree.makeDirectory path.parent
      = (tree.withDirectories (waypoints [] path.parent.names),
        .ok (destination [] path.parent.names)) := by
  have hsize : ¬ pathLimit < path.parent.text.utf8ByteSize :=
    Nat.not_lt.2 (Nat.le_trans (Path.utf8ByteSize_text_parent_le habsolute) h.pathSize)
  have hnull : ¬ path.parent.hasNull = true := by simp [Path.hasNull_parent h.noNull]
  rw [makeDirectory, if_neg hnull, if_neg hsize]
  refine makeDirectories_eq ?_ ?_ h.way
  · intro p hp
    rw [List.prefix_nil.1 hp, at?_nil]
  · exact fun name hname => h.nameSize name (List.dropLast_subset _ hname)

theorem Writable.writeIn_eq (h : tree.Writable path) (content : String) :
    (tree.withDirectories (waypoints [] path.parent.names)).writeIn
    (destination [] path.parent.names)
        path content
      = ((tree.withDirectories (waypoints [] path.parent.names)).set (destination [] path.names)
          (.file (.text content)), .ok (destination [] path.names)) := by
  have hplace : placeIn (destination [] path.parent.names) (path.names.getLast?.getD "..")
      = destination [] path.names := (destination_eq_placeIn path.names).symm
  have hname : (path.names.getLast?.getD "..").utf8ByteSize ≤ nameLimit := by
    cases hlast : path.names.getLast? with
    | none => decide
    | some name => exact h.nameSize name (List.mem_of_getLast? hlast)
  have hlong : ¬ (pathLimit < path.text.utf8ByteSize
      || nameLimit < (path.names.getLast?.getD "..").utf8ByteSize) = true := by
    have := h.pathSize
    simp only [Bool.or_eq_true, decide_eq_true_eq]
    omega
  have hfile : ¬ (tree.withDirectories (waypoints [] path.parent.names)).isDirectory
      (destination [] path.names) = true := by
    rw [isDirectory_iff, at?_withDirectories, if_neg (fun hmem => h.fresh hmem.1)]
    exact h.target
  simp only [writeIn, hplace]
  rw [if_neg (by simp [h.noNull]), if_neg hlong, if_neg hfile]

/-- Writing to an absolute path that can be written succeeds and changes nothing else. -/
theorem exists_write_eq (habsolute : path.isAbsolute = true) (h : tree.Writable path)
    (content : String) :
    ∃ files, tree.write directory path content = (files, .ok (destination [] path.names)) ∧
      tree.Holds files path content := by
  have hne : destination [] path.names ≠ [] := by
    intro hnil
    exact h.target (by rw [hnil, at?_nil])
  have hwrite : tree.write directory path content
      = ((tree.withDirectories (waypoints [] path.parent.names)).set (destination [] path.names)
          (.file (.text content)), .ok (destination [] path.names)) := by
    rw [write, Path.under_of_isAbsolute habsolute, h.makeDirectory_eq habsolute]
    exact h.writeIn_eq content
  refine ⟨_, hwrite, ?_, ?_⟩
  · rw [at?_set hne, if_pos rfl]
  · intro place hplace
    rw [at?_set hne, if_neg hplace, at?_withDirectories]

end FileTree

end SchemaTypes
