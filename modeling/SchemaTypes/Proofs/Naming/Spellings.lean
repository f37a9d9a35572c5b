import SchemaTypes.Proofs.Naming.Words
import SchemaTypes.Proofs.Text.Cutting

set_option autoImplicit false

/-! # Spellings of a name

The words of a name can be written with separators between them, or one right after the other, where
every word but perhaps the first starts with a capital. Words have two characters or more, so that
in front of a capital there is always the end of a hump, and no hump ends within a word
(`wordsOf_flatten`). Hence the words of a name are found again, up to the case of their first
letters, in whatever way it is spelled (`map_capitalizeWord_wordsOf`).

The main statement is `pascal_of_spells`: all spellings of a name give the same class name, which is
itself a spelling of the name.
-/

namespace SchemaTypes.Naming

open Text

/-! ## Spellings -/

/-- A lower-case letter of ASCII, then at least one such letter or digit. -/
def IsWord (word : String) : Prop :=
  word.toList.head?.any Char.isLower = true ∧ word.toList.tail ≠ [] ∧
    ∀ c ∈ word.toList.tail, (c.isLower || c.isDigit) = true

instance (word : String) : Decidable (IsWord word) := inferInstanceAs (Decidable (_ ∧ _ ∧ _))

theorem IsWord.exists_cons {word : String} (h : IsWord word) :
    ∃ c rest, word.toList = c :: rest ∧ c.isLower = true ∧ rest ≠ [] ∧ ∀ d ∈ rest,
      endsHump d = true := by
  obtain ⟨hhead, hne, htail⟩ := h
  obtain ⟨c, rest, hlist, hc⟩ := head?_any_iff.1 hhead
  rw [hlist] at hne htail
  exact ⟨c, rest, hlist, hc, hne, htail⟩

/-- The words one after the other with some separators in between. -/
inductive Separated : List String → String → Prop
  | last (word : String) : Separated [word] word
  | cons {word gap name : String} {words : List String} (hne : gap ≠ "")
      (hgap : Consists isSeparator gap)
      (h : Separated words name) : Separated (word :: words) (word ++ (gap ++ name))

/-- The name is written for the words: with separators, and possibly some around it, or without any,
each word capitalized but perhaps the first. -/
inductive Spells : List String → String → Prop
  | separated {words : List String} {before name after : String}
      (hbefore : Consists isSeparator before)
      (hafter : Consists isSeparator after) (h : Separated words name) :
      Spells words (before ++ (name ++ after))
  | camelCase (word : String) (words : List String) :
      Spells (word :: words) (word ++ String.join (words.map capitalized))
  | pascalCase (words : List String) : Spells words (String.join (words.map capitalized))

/-! ## Humps -/

/-- A letter of ASCII, then at least one lower-case letter or digit. -/
def IsHump (s : List Char) : Prop :=
  ∃ c rest, s = c :: rest ∧ c.isAlpha = true ∧ rest ≠ [] ∧ ∀ d ∈ rest, endsHump d = true

theorem isAlphanum_of_endsHump {c : Char} (h : endsHump c = true) : c.isAlphanum = true := by
  rw [endsHump, Bool.or_eq_true] at h
  rcases h with h | h
  · exact isAlphanum_of_isAlpha (isAlpha_of_isLower h)
  · exact isAlphanum_of_isDigit h

theorem case_of_endsHump {c : Char} (h : endsHump c = true) : c.isUpper = false ∧ c.toLower = c :=
  forall_alphanum (q := fun c => endsHump c = true → c.isUpper = false ∧ c.toLower = c) (by decide)
    (isAlphanum_of_endsHump h) h

namespace IsHump

variable {s : List Char}

theorem isAlphanum (h : IsHump s) : ∀ c ∈ s, c.isAlphanum = true := by
  obtain ⟨c, rest, rfl, hc, _, hrest⟩ := h
  exact List.forall_mem_cons.2 ⟨isAlphanum_of_isAlpha hc,
    fun d hd => isAlphanum_of_endsHump (hrest d hd)⟩

theorem words_eq (h : IsHump s) : words isSeparator s = [s] := by
  have hne : s ≠ [] := by
    obtain ⟨c, rest, rfl, _⟩ := h
    exact List.cons_ne_nil c rest
  exact words_eq_singleton hne fun c hc => isSeparator_of_isAlphanum (h.isAlphanum c hc)

theorem markHumps_eq (h : IsHump s) : markHumps s = s := by
  obtain ⟨c, rest, rfl, _, _, hrest⟩ := h
  exact markHumps_eq_self fun d hd => (case_of_endsHump (hrest d hd)).1

/-- A hump ends in front of a capital. -/
theorem joint_eq (h : IsHump s) {t : List Char} (ht : t.head?.any Char.isUpper = true) :
    joint s t = ['_'] := by
  obtain ⟨c, rest, rfl, _, hne, hrest⟩ := h
  have hlast : (c :: rest).getLast?.any endsHump = true := by
    rw [List.getLast?_eq_some_getLast (List.cons_ne_nil c rest), List.getLast_cons hne]
    exact hrest _ (List.getLast_mem hne)
  rw [joint, hlast, ht]
  rfl

theorem capitalizeWord_eq {c : Char} {rest : List Char} (h : IsHump (c :: rest)) :
    capitalizeWord (c :: rest) = c.toUpper :: rest := by
  have hlower : ∀ d ∈ rest, d.toLower = d := by
    obtain ⟨_, _, heq, _, _, hrest⟩ := h
    obtain ⟨rfl, rfl⟩ := List.cons.inj heq
    exact fun d hd => (case_of_endsHump (hrest d hd)).2
  rw [capitalizeWord_of_alphanum h.isAlphanum, List.map_congr_left hlower, List.map_id']

end IsHump

/-- Humps one right after the other are told apart if all but the first start with a capital. -/
theorem wordsOf_flatten {humps : List (List Char)} (h : ∀ s ∈ humps, IsHump s)
    (hcapital : ∀ s ∈ humps.tail, s.head?.any Char.isUpper = true) :
    wordsOf humps.flatten = humps := by
  induction humps with
  | nil => rfl
  | cons s humps ih =>
    rw [List.forall_mem_cons] at h
    have hmarks := h.1.markHumps_eq
    have hrest := ih h.2 fun t ht => hcapital t (List.mem_of_mem_tail ht)
    cases humps with
    | nil => rw [List.flatten_singleton, wordsOf, hmarks, h.1.words_eq]
    | cons t humps =>
      -- a capital comes next, so that the underscore written in front of it ends the word
      have hhead : (t :: humps).flatten.head?.any Char.isUpper = true := by
        have ht := hcapital t List.mem_cons_self
        obtain ⟨c, rest, rfl, _⟩ := h.2 t List.mem_cons_self
        exact ht
      rw [List.flatten_cons, wordsOf, markHumps_append, h.1.joint_eq hhead, hmarks,
        List.singleton_append, words_append_cons rfl, h.1.words_eq, ← wordsOf, hrest]
      rfl

/-! ## Words -/

theorem IsWord.isHump {word : String} (h : IsWord word) : IsHump word.toList := by
  obtain ⟨c, rest, hlist, hc, hne, hrest⟩ := h.exists_cons
  exact ⟨c, rest, hlist, isAlpha_of_isLower hc, hne, hrest⟩

/-- A capitalized word is a hump that starts with a capital. -/
theorem IsWord.isHump_capitalized {word : String} (h : IsWord word) :
    IsHump (capitalized word).toList ∧ (capitalized word).toList.head?.any Char.isUpper = true := by
  obtain ⟨c, rest, hlist, hc, hne, hrest⟩ := h.exists_cons
  obtain ⟨hupper, _⟩ := toUpper_of_isAlpha (isAlpha_of_isLower hc)
  rw [capitalized, hlist, String.toList_ofList]
  exact ⟨⟨_, rest, rfl, isAlpha_of_isUpper hupper, hne, hrest⟩, hupper⟩

/-- A word is capitalized in the same way, whether it is written with a capital or not. -/
theorem IsWord.capitalizeWord_eq {word : String} (h : IsWord word) :
    capitalizeWord word.toList = (capitalized word).toList ∧
      capitalizeWord (capitalized word).toList = (capitalized word).toList := by
  have hword := h.isHump
  have hcapitalized := h.isHump_capitalized.1
  obtain ⟨c, rest, hlist, hc, _⟩ := h.exists_cons
  have hagain := (toUpper_of_isAlpha (isAlpha_of_isLower hc)).2
  have htoList : (capitalized word).toList = c.toUpper :: rest := by
    rw [capitalized, hlist, String.toList_ofList]
  rw [htoList] at hcapitalized ⊢
  rw [hlist] at hword ⊢
  rw [hword.capitalizeWord_eq, hcapitalized.capitalizeWord_eq, hagain]
  exact ⟨rfl, rfl⟩

theorem IsWord.isUpper_eq_false {word : String} (h : IsWord word) :
    ∀ c ∈ word.toList, c.isUpper = false := by
  obtain ⟨c, rest, hlist, hc, _, hrest⟩ := h.exists_cons
  rw [hlist]
  exact List.forall_mem_cons.2
    ⟨(case_of_endsHump (by simp [endsHump, hc])).1, fun d hd => (case_of_endsHump (hrest d hd)).1⟩

theorem isUpper_of_isSeparator {c : Char} (h : isSeparator c = true) : c.isUpper = false := by
  cases hupper : c.isUpper with
  | false => rfl
  | true =>
    have hnot := isSeparator_of_isAlphanum (isAlphanum_of_isAlpha (isAlpha_of_isUpper hupper))
    exact absurd (h.symm.trans hnot) (by decide)

section

variable {ws : List String} {name : String}

/-- A capital is no separator and stands in no word. -/
theorem Separated.isUpper_eq_false (h : Separated ws name) (hws : ∀ word ∈ ws, IsWord word) :
    ∀ c ∈ name.toList, c.isUpper = false := by
  induction h with
  | last word => exact (hws word List.mem_cons_self).isUpper_eq_false
  | cons _ hgap _ ih =>
    rw [List.forall_mem_cons] at hws
    simp only [String.toList_append, List.forall_mem_append]
    exact ⟨hws.1.isUpper_eq_false, fun c hc => isUpper_of_isSeparator (hgap c hc), ih hws.2⟩

theorem Separated.words_eq (h : Separated ws name) (hws : ∀ word ∈ ws, IsWord word) :
    words isSeparator name.toList = ws.map String.toList := by
  induction h with
  | last word => exact (hws word List.mem_cons_self).isHump.words_eq
  | cons hne hgap _ ih =>
    rw [List.forall_mem_cons] at hws
    have hne : _ ≠ [] := mt String.toList_eq_nil_iff.1 hne
    rw [String.toList_append, String.toList_append, words_append_separators hne hgap,
      hws.1.isHump.words_eq, ih hws.2]
    rfl

theorem toList_join_capitalized (ws : List String) : (String.join (ws.map capitalized)).toList
    = (ws.map fun word => (capitalized word).toList).flatten := by
  rw [String.toList_join, List.flatMap_map, List.flatMap_def]

theorem isHump_of_mem_capitalized (hws : ∀ word ∈ ws, IsWord word) :
    ∀ s ∈ ws.map fun word => (capitalized word).toList, IsHump s ∧
      s.head?.any Char.isUpper = true :=
  List.forall_mem_map.2 fun word hword => (hws word hword).isHump_capitalized

theorem map_capitalizeWord_capitalized (hws : ∀ word ∈ ws, IsWord word) :
    (ws.map fun word => (capitalized word).toList).map capitalizeWord
      = ws.map fun word => (capitalized word).toList := by
  rw [List.map_map]
  exact List.map_congr_left fun word hword => (hws word hword).capitalizeWord_eq.2

/-- The words of a spelling are those that it is written for, up to the case of their first
letters. -/
theorem map_capitalizeWord_wordsOf (hws : ∀ word ∈ ws, IsWord word) (h : Spells ws name) :
    (wordsOf name.toList).map capitalizeWord = ws.map fun word => (capitalized word).toList := by
  cases h with
  | @separated _ before name after hbefore hafter h =>
    -- there are no capitals, so that nothing is marked
    have hsmall : ∀ c ∈ (before ++ (name ++ after)).toList, c.isUpper = false := by
      simp only [String.toList_append, List.forall_mem_append]
      exact ⟨fun c hc => isUpper_of_isSeparator (hbefore c hc), h.isUpper_eq_false hws,
        fun c hc => isUpper_of_isSeparator (hafter c hc)⟩
    rw [wordsOf, markHumps_eq_self fun c hc => hsmall c (List.mem_of_mem_tail hc),
      String.toList_append, String.toList_append, words_separators_append hbefore,
      words_append_of_separators hafter, h.words_eq hws, List.map_map]
    exact List.map_congr_left fun word hword => (hws word hword).capitalizeWord_eq.1
  | camelCase word ws =>
    -- the first word is a hump as it is, and all the others start with a capital
    rw [List.forall_mem_cons] at hws
    have hhumps := isHump_of_mem_capitalized hws.2
    have hwords := wordsOf_flatten
      (List.forall_mem_cons.2 ⟨hws.1.isHump, fun s hs => (hhumps s hs).1⟩)
      fun s hs => (hhumps s hs).2
    rw [List.flatten_cons, ← toList_join_capitalized] at hwords
    rw [String.toList_append, hwords, List.map_cons, List.map_cons, hws.1.capitalizeWord_eq.1,
      map_capitalizeWord_capitalized hws.2]
  | pascalCase =>
    have hhumps := isHump_of_mem_capitalized hws
    have hwords := wordsOf_flatten (fun s hs => (hhumps s hs).1) fun s hs =>
      (hhumps s (List.mem_of_mem_tail hs)).2
    rw [toList_join_capitalized, hwords, map_capitalizeWord_capitalized hws]

theorem pascal_eq_join (hws : ∀ word ∈ ws, IsWord word) (h : Spells ws name) :
    pascal name = String.join (ws.map capitalized) := by
  rw [pascal_eq, List.flatMap_def, map_capitalizeWord_wordsOf hws h, ← toList_join_capitalized,
    String.ofList_toList]

/-- All spellings of some words give the words with their first letters in upper case, which is one
of the spellings, so that nothing changes when it is done again. -/
theorem pascal_of_spells (hws : ∀ word ∈ ws, IsWord word) (h : Spells ws name) :
    pascal name = String.join (ws.map capitalized) ∧ pascal (pascal name) = pascal name := by
  have hname := pascal_eq_join hws h
  have hagain := pascal_eq_join hws (.pascalCase ws)
  exact ⟨hname, by rw [hname, hagain]⟩

end

/-- Two spellings of an order's line: runs of separators, also of a blank beyond ASCII, and camel
case. -/
theorem pascal_of_spells_order_line2 :
    (∀ word ∈ ["order", "line2"], IsWord word) ∧
    Spells ["order", "line2"] ("." ++ (("order" ++ ("-\u2003_" ++ "line2")) ++ "--")) ∧
    Spells ["order", "line2"] ("order" ++ String.join (["line2"].map capitalized)) ∧
    pascal ("." ++ (("order" ++ ("-\u2003_" ++ "line2")) ++ "--")) = "OrderLine2" ∧
    pascal "orderLine2" = "OrderLine2" ∧ pascal "OrderLine2" = "OrderLine2" := by
  have hws : ∀ word ∈ ["order", "line2"], IsWord word := by decide
  have hseparated : Spells ["order", "line2"]
      ("." ++ (("order" ++ ("-\u2003_" ++ "line2")) ++ "--")) :=
    .separated (by decide) (by decide) (.cons (by decide) (by decide) (.last "line2"))
  have hcamel : Spells ["order", "line2"] ("order" ++ String.join (["line2"].map capitalized)) :=
    .camelCase "order" ["line2"]
  have hname := pascal_of_spells hws hseparated
  exact ⟨hws, hseparated, hcamel, hname.1, (pascal_of_spells hws hcamel).1, hname.1 ▸ hname.2⟩

end SchemaTypes.Naming
