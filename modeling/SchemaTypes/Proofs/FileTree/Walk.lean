import SchemaTypes.FileTree

set_option autoImplicit false

/-! # Where paths lead

The names of a path lead from a place to another one, its `destination`; a double dot leads back.
That is where a walk through a tree ends if it gets there (`destination_of_walk`), and it is what
resolving a path amounts to, with no regard to what is in the tree (`Path.names_resolve`).
-/

namespace SchemaTypes

namespace FileTree

/-- The place that names lead to, from a place on. -/
def destination (here : Place) (names : List String) : Place := names.foldl placeIn here

variable {tree : FileTree} {here place : Place} {names : List String}

theorem destination_eq_placeIn (names : List String) :
    destination [] names = placeIn (destination [] names.dropLast) (names.getLast?.getD "..") := by
  rcases List.eq_nil_or_concat names with rfl | ⟨init, last, rfl⟩
  · rfl
  · rw [List.concat_eq_append, destination, List.foldl_append, List.dropLast_concat,
      List.getLast?_concat]
    rfl

/-- Names without double dots only lead further. -/
theorem destination_of_not_mem (h : ".." ∉ names) : destination here names = here ++ names := by
  induction names generalizing here with
  | nil => exact (List.append_nil here).symm
  | cons name rest ih =>
    rw [List.mem_cons, not_or] at h
    have hinto : placeIn here name = here ++ [name] := if_neg (Ne.symm h.1)
    rw [destination, List.foldl_cons, ← destination, hinto, ih h.2, List.append_assoc,
      List.singleton_append]

/-- No place that names lead to has a double dot in it. -/
theorem not_mem_destination (h : ".." ∉ here) : ".." ∉ destination here names := by
  induction names generalizing here with
  | nil => exact h
  | cons name rest ih =>
    refine ih ?_
    unfold placeIn
    split
    · exact fun hmem => h (List.dropLast_subset here hmem)
    · rename_i hname
      rw [List.mem_append, List.mem_singleton, not_or]
      exact ⟨h, Ne.symm hname⟩

/-- A walk that gets to a place gets to where its names lead. -/
theorem destination_of_walk {tooLong : PathError}
    (h : tree.walk tooLong here names = .ok (some place)) : destination here names = place := by
  induction names generalizing here with
  | nil =>
    rw [walk, Except.ok.injEq] at h
    split at h
    · exact Option.some.inj h
    · cases h
  | cons name rest ih =>
    rw [walk] at h
    split at h
    · cases h
    · split at h
      · cases h
      · exact ih h

/-- What is found at a path is where its names lead, and no name of the path holds a null
character. -/
theorem destination_of_find? {directory path : Path}
    (h : tree.find? directory path = .ok (some place)) :
    destination [] (directory.under path).names = place ∧ path.hasNull = false := by
  unfold find? at h
  split at h
  · cases h
  · rename_i hnull
    split at h
    · cases h
    · exact ⟨destination_of_walk h, by simpa using hnull⟩

end FileTree

namespace Path

open FileTree (destination)

/-- Settling names, last name first, is following them. -/
theorem reverse_settle (settled names : List String) :
    (settle settled names).reverse = destination settled.reverse names := by
  induction names generalizing settled with
  | nil => rfl
  | cons name rest ih =>
    rw [settle, ih, destination, destination, List.foldl_cons, FileTree.placeIn]
    split
    · rw [List.dropLast_reverse]
    · rw [List.reverse_cons]

/-- A path is resolved by following its names from the root. -/
theorem names_resolve (directory path : Path) :
    (directory.resolve path).names = destination [] (directory.under path).names :=
  reverse_settle [] _

theorem under_of_isAbsolute {directory path : Path} (h : path.isAbsolute = true) :
    directory.under path = path := if_pos h

theorem isAbsolute_under {directory path : Path} (h : directory.isAbsolute = true) :
    (directory.under path).isAbsolute = true := by
  unfold under
  split
  · assumption
  · exact h

/-- From the place of a directory the empty path leads nowhere else. -/
theorem resolve_empty {place : Place} (h : ".." ∉ place) :
    resolve { root := .slash, names := place } {} = { root := .slash, names := place } := by
  have hnames : (resolve { root := .slash, names := place } {}).names = place := by
    rw [names_resolve]
    show destination [] (place ++ []) = place
    rw [List.append_nil, FileTree.destination_of_not_mem h, List.nil_append]
  exact congrArg (Path.mk .slash) hnames

end Path

end SchemaTypes
