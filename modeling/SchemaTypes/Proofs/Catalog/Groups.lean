import Mathlib.Data.List.Induction
import Mathlib.Data.List.Nodup

set_option autoImplicit false

/-! # Groups of values

The values of a list by key, the keys in the order in which they first appear and the values of a
key in their order: what any loop that files one value after the other should end with.
`groups_concat_of_mem` and `groups_concat_of_not_mem` say what one more value does, so such a loop
is right if its step does the same.
-/

namespace SchemaTypes.Grouping

variable {κ α : Type} [DecidableEq κ] (key : α → κ)

/-- The keys, each once, in the order of their first appearance. -/
def keys (l : List α) : List κ := (l.map key).eraseDups

/-- The values with a key. -/
def ofKey (k : κ) (l : List α) : List α := l.filter fun a => key a = k

/-- The values by key. -/
def groups (l : List α) : List (κ × List α) := (keys key l).map fun k => (k, ofKey key k l)

/-- A group with one more value if it has the given key. -/
def extend (k : κ) (a : α) (group : κ × List α) : κ × List α :=
  if group.1 = k then (group.1, group.2 ++ [a]) else group

variable {key} {k : κ} {l : List α} {a : α}

theorem mem_keys_iff : k ∈ keys key l ↔ ∃ a ∈ l, key a = k := by
  rw [keys, List.mem_eraseDups, List.mem_map]

/-- The values of a group have its key. -/
theorem mem_of_mem_groups {group : κ × List α} (hgroup : group ∈ groups key l) (ha : a ∈ group.2) :
    a ∈ l ∧ key a = group.1 := by
  obtain ⟨k, _, rfl⟩ := List.mem_map.1 hgroup
  obtain ⟨hmem, hkey⟩ := List.mem_filter.1 ha
  exact ⟨hmem, of_decide_eq_true hkey⟩

/-- No group is without values. -/
theorem ne_nil_of_mem_groups {group : κ × List α} (hgroup : group ∈ groups key l) :
    group.2 ≠ [] := by
  obtain ⟨k, hk, rfl⟩ := List.mem_map.1 hgroup
  obtain ⟨b, hb, hkey⟩ := mem_keys_iff.1 hk
  exact List.ne_nil_of_mem (List.mem_filter.2 ⟨hb, decide_eq_true hkey⟩)

theorem map_fst_groups (key : α → κ) (l : List α) : (groups key l).map Prod.fst = keys key l := by
  rw [groups, List.map_map]
  exact List.map_id _

/-- The groups of values that are made of others. -/
theorem groups_map {β : Type} (f : β → α) (l : List β) :
    groups key (l.map f)
      = (groups (fun b => key (f b)) l).map fun group => (group.1, group.2.map f) := by
  have hof : ∀ k, ofKey key k (l.map f) = (ofKey (fun b => key (f b)) k l).map f :=
    fun k => List.filter_map
  rw [groups, groups, keys, List.map_map, List.map_map]
  exact List.map_congr_left fun k _ => congrArg (Prod.mk k) (hof k)

/-! ## One more value -/

theorem keys_concat_of_mem (h : key a ∈ keys key l) : keys key (l ++ [a]) = keys key l := by
  have hnew : [key a].removeAll (l.map key) = [] := by
    simpa [List.removeAll] using mem_keys_iff.1 h
  rw [keys, List.map_append, List.eraseDups_append, List.map_singleton, hnew, List.eraseDups_nil,
    List.append_nil]
  rfl

theorem keys_concat_of_not_mem (h : key a ∉ keys key l) :
    keys key (l ++ [a]) = keys key l ++ [key a] := by
  have hnew : [key a].removeAll (l.map key) = [key a] := by
    simpa [List.removeAll, mem_keys_iff] using h
  rw [keys, List.map_append, List.eraseDups_append, List.map_singleton, hnew]
  rfl

theorem ofKey_concat_self : ofKey key (key a) (l ++ [a]) = ofKey key (key a) l ++ [a] := by
  simp [ofKey]

theorem ofKey_concat_of_ne (h : k ≠ key a) : ofKey key k (l ++ [a]) = ofKey key k l := by
  simp [ofKey, h.symm]

theorem ofKey_eq_nil (h : k ∉ keys key l) : ofKey key k l = [] := by
  rw [mem_keys_iff] at h
  refine List.filter_eq_nil_iff.2 ?_
  intro b hb
  rw [decide_eq_true_iff]
  exact fun hk => h ⟨b, hb, hk⟩

theorem nodup_keys (key : α → κ) (l : List α) : (keys key l).Nodup := by
  induction l using List.reverseRecOn with
  | nil => exact List.nodup_nil
  | append_singleton l a ih =>
    by_cases h : key a ∈ keys key l
    · rwa [keys_concat_of_mem h]
    · rw [keys_concat_of_not_mem h]
      exact List.nodup_append.2 ⟨ih, List.nodup_singleton _, fun _ hk _ ha hne =>
        h (by rwa [hne, List.mem_singleton.1 ha] at hk)⟩

/-- A value with a key that was there before goes to the group of that key. -/
theorem groups_concat_of_mem (h : key a ∈ keys key l) :
    groups key (l ++ [a]) = (groups key l).map (extend (key a) a) := by
  rw [groups, groups, keys_concat_of_mem h, List.map_map]
  refine List.map_congr_left ?_
  intro k _
  show (k, ofKey key k (l ++ [a])) = extend (key a) a (k, ofKey key k l)
  by_cases hk : k = key a
  · rw [extend, if_pos hk, hk, ofKey_concat_self]
  · rw [extend, if_neg hk, ofKey_concat_of_ne hk]

theorem map_extend_of_not_mem {gs : List (κ × List α)} (h : k ∉ gs.map Prod.fst) :
    gs.map (extend k a) = gs := by
  have hid : ∀ group ∈ gs, extend k a group = group := by
    intro group hgroup
    have hne : group.1 ≠ k := fun heq => h (heq ▸ List.mem_map_of_mem hgroup)
    rw [extend, if_neg hne]
  exact (List.map_congr_left hid).trans (List.map_id' _)

/-- A value with a new key founds a group. -/
theorem groups_concat_of_not_mem (h : key a ∉ keys key l) :
    groups key (l ++ [a]) = groups key l ++ [(key a, [a])] := by
  have hold : (keys key l).map (fun k => (k, ofKey key k (l ++ [a]))) = groups key l := by
    refine List.map_congr_left ?_
    intro k hk
    rw [ofKey_concat_of_ne fun (heq : k = key a) => h (heq ▸ hk)]
  have hnew : ofKey key (key a) (l ++ [a]) = [a] := by
    rw [ofKey_concat_self, ofKey_eq_nil h, List.nil_append]
  rw [groups, keys_concat_of_not_mem h, List.map_append, hold, List.map_singleton, hnew]

end SchemaTypes.Grouping
