import Mathlib.Data.List.Basic
import Mathlib.Data.List.TakeWhile
import Mathlib.Data.String.Basic
import SchemaTypes.Text.Split

set_option autoImplicit false

/-! # Cutting texts

Texts that stand one after the other can be told apart where each of them shows its end. A text of
one kind of characters ends where a character of another kind comes (`cut_eq`). What is written for
the values of a list can be told apart if that holds of one value and if no value starts like what
comes after the list (`Separates.join`). A text is cut in two at the first or the last place of a
character (`cutFirst_append`, `cutLast_append`).
-/

namespace SchemaTypes.Text

/-- All characters of a text are of a kind. -/
def Consists (p : Char → Bool) (s : String) : Prop := ∀ c ∈ s.toList, p c = true

/-- A text does not start with a character of a kind. -/
def Stops (p : Char → Bool) (s : String) : Prop := ∀ c ∈ s.toList.head?, p c = false

-- characters are tried one by one where they stand in the text, not all that there are
instance (p : Char → Bool) (s : String) : Decidable (Consists p s) :=
  decidable_of_iff (s.toList.all p = true) List.all_eq_true

instance (p : Char → Bool) (s : String) : Decidable (Stops p s) :=
  decidable_of_iff (s.toList.head?.any p = false) (Option.any_eq_false _ _)

section

variable {p : Char → Bool} {a b s t : String}

theorem Consists.append (ha : Consists p a) (hb : Consists p b) : Consists p (a ++ b) := by
  intro c hc
  rw [String.toList_append] at hc
  rcases List.mem_append.1 hc with hc | hc
  · exact ha c hc
  · exact hb c hc

/-- Characters of another kind do not stand in it. -/
theorem Consists.not_mem {c : Char} (ha : Consists p a) (hc : p c = false) : c ∉ a.toList := by
  intro hmem
  exact absurd ((ha c hmem).symm.trans hc) (by decide)

/-- Where a text stops is told by its first character alone. -/
theorem Stops.append (hne : a ≠ "") (ha : Stops p a) (s : String) : Stops p (a ++ s) := by
  have hlist : a.toList ≠ [] := by
    rwa [Ne, String.toList_eq_nil_iff]
  intro c hc
  refine ha c ?_
  rwa [String.toList_append, List.head?_append_of_ne_nil _ hlist] at hc

/-- A text that stops does not start with a text of the kind. -/
theorem Stops.ne_append (hs : Stops p s) (ha : Consists p a) (hne : a ≠ "") (t : String) :
    a ++ t ≠ s := by
  rintro rfl
  cases hlist : a.toList with
  | nil => exact hne (String.toList_eq_nil_iff.1 hlist)
  | cons c rest =>
    have hp : p c = true := ha c (by rw [hlist]; exact List.mem_cons_self)
    have hnot : p c = false := hs c (by rw [String.toList_append, hlist]; rfl)
    exact absurd (hp.symm.trans hnot) (by decide)

theorem takeWhile_append (ha : Consists p a) (hs : Stops p s) :
    (a ++ s).toList.takeWhile p = a.toList := by
  have hrest : s.toList.takeWhile p = [] := by
    cases hlist : s.toList with
    | nil => rfl
    | cons c rest =>
      have hc : p c = false := hs c (by rw [hlist]; rfl)
      rw [List.takeWhile_cons, hc]
      rfl
  rw [String.toList_append, List.takeWhile_append_of_pos ha, hrest, List.append_nil]

/-- A text of one kind of characters ends where another kind comes. -/
theorem cut_eq (ha : Consists p a) (hb : Consists p b) (hs : Stops p s) (ht : Stops p t)
    (h : a ++ s = b ++ t) : a = b ∧ s = t := by
  have hfirst : a = b := by
    rw [← String.toList_inj, ← takeWhile_append ha hs, h, takeWhile_append hb ht]
  subst hfirst
  exact ⟨rfl, (String.append_right_inj a).1 h⟩

end

/-! ## Lists -/

section

variable {α β : Type} {text : α → String} {key : α → β} {valid : α → Prop}
  {follows ends : String → Prop}

/-- What is written for a value shows the key of the value and its own end, as long as something
comes that may follow it. -/
def Separates (text : α → String) (key : α → β) (valid : α → Prop) (follows : String → Prop) :
    Prop :=
  ∀ a b, valid a → valid b → ∀ s t, follows s → follows t →
    text a ++ s = text b ++ t → key a = key b ∧ s = t

/-- What is written for the values of a list, one after the other. -/
def listing (text : α → String) (values : List α) : String := String.join (values.map text)

theorem listing_cons (text : α → String) (a : α) (values : List α) :
    listing text (a :: values) = text a ++ listing text values := by
  rw [listing, List.map_cons, String.join_cons, listing]

theorem listing_map {γ : Type} (text : β → String) (f : γ → β) (values : List γ) :
    listing text (values.map f) = listing (fun value => text (f value)) values := by
  rw [listing, List.map_map, listing]
  rfl

theorem listing_flatMap {γ : Type} (text : β → String) (f : γ → List β) (values : List γ) :
    listing text (values.flatMap f) = listing (fun value => listing text (f value)) values := by
  induction values with
  | nil => rfl
  | cons value rest ih =>
    rw [listing_cons, ← ih, List.flatMap_cons, listing, List.map_append, String.join_append]
    rfl

/-- Values that can be told apart can be told apart in lists, if none of them starts like what ends
the list. -/
theorem Separates.join (h : Separates text key valid follows)
    (hnext : ∀ a, valid a → ∀ s, follows (text a ++ s)) (hends : ∀ s, ends s → follows s)
    (hstart : ∀ a, valid a → ∀ s t, ends t → text a ++ s ≠ t) :
    Separates (listing text) (List.map key) (fun values => ∀ a ∈ values, valid a) ends := by
  have hfollows : ∀ values : List α, (∀ a ∈ values, valid a) → ∀ s, ends s →
      follows (listing text values ++ s) := by
    intro values hvalues s hs
    cases values with
    | nil => exact hends s hs
    | cons a rest =>
      rw [listing_cons, String.append_assoc]
      exact hnext a (hvalues a List.mem_cons_self) _
  intro as
  induction as with
  | nil =>
    intro bs _ hbs s t hs ht heq
    cases bs with
    | nil => exact ⟨rfl, by simpa [listing] using heq⟩
    | cons b bs =>
      rw [listing_cons, String.append_assoc] at heq
      exact absurd heq.symm (hstart b (hbs b List.mem_cons_self) _ _ hs)
  | cons a as ih =>
    intro bs has hbs s t hs ht heq
    rw [List.forall_mem_cons] at has
    rw [listing_cons, String.append_assoc] at heq
    cases bs with
    | nil => exact absurd heq (hstart a has.1 _ _ ht)
    | cons b bs =>
      rw [List.forall_mem_cons] at hbs
      rw [listing_cons, String.append_assoc] at heq
      obtain ⟨hkey, hrest⟩ := h a b has.1 hbs.1 _ _ (hfollows as has.2 s hs)
        (hfollows bs hbs.2 t ht) heq
      obtain ⟨hkeys, hend⟩ := ih bs has.2 hbs.2 s t hs ht hrest
      exact ⟨by rw [List.map_cons, List.map_cons, hkey, hkeys], hend⟩

end

/-! ## At one character -/

section

variable {c : Char} {s : List Char}

theorem bne_of_not_mem (h : c ∉ s) : ∀ d ∈ s, (d != c) = true := by
  intro d hd
  rw [bne_iff_ne]
  rintro rfl
  exact h hd

theorem dropWhile_bne (h : c ∉ s) (rest : List Char) :
    (s ++ c :: rest).dropWhile (· != c) = c :: rest := by
  rw [List.dropWhile_append_of_pos (bne_of_not_mem h)]
  simp

theorem takeWhile_bne (h : c ∉ s) (rest : List Char) :
    (s ++ c :: rest).takeWhile (· != c) = s := by
  rw [List.takeWhile_append_of_pos (bne_of_not_mem h)]
  simp

theorem cutFirst_append (h : c ∉ s) (after : List Char) :
    cutFirst c (s ++ c :: after) = (s, some after) := by
  rw [cutFirst, dropWhile_bne h, takeWhile_bne h]

theorem cutFirst_of_not_mem (h : c ∉ s) : cutFirst c s = (s, none) := by
  have hnone : s.dropWhile (· != c) = [] := List.dropWhile_eq_nil_iff.2 (bne_of_not_mem h)
  rw [cutFirst, hnone]

theorem cutLast_append (h : c ∉ s) (before : List Char) :
    cutLast c (before ++ c :: s) = (some before, s) := by
  have hreverse : (before ++ c :: s).reverse = s.reverse ++ c :: before.reverse := by simp
  have hmem : c ∉ s.reverse := mt List.mem_reverse.1 h
  rw [cutLast, hreverse, dropWhile_bne hmem, takeWhile_bne hmem]
  simp only [List.reverse_reverse]

end

end SchemaTypes.Text
