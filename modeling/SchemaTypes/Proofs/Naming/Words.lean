import SchemaTypes.Naming.Pascal
import SchemaTypes.Proofs.Text.Occurrence
import SchemaTypes.Proofs.Text.Percent
import SchemaTypes.Proofs.Text.Words

set_option autoImplicit false

/-! # The words of a name

Words end at separators and at humps. Whether there is a hump where two texts meet is told by the
characters on both sides of the joint (`markHumps_append`). At an underscore there is none, so the
words of a name are those before an underscore and those after it (`wordsOf_append`), whatever
characters the two parts consist of, and only the part after the last underscore is put into the
singular (`classify_append`).

The main statement is `pascal_append_and_classify_append`.
-/

namespace SchemaTypes.Naming

open Text

/-! ## Humps -/

/-- What is written where two texts meet: an underscore if a hump ends there. -/
def joint (s t : List Char) : List Char :=
  if s.getLast?.any endsHump && t.head?.any Char.isUpper then ['_'] else []

theorem markHumps_cons_cons (c d : Char) (s : List Char) :
    markHumps (c :: d :: s) = c :: (joint [c] (d :: s) ++ markHumps (d :: s)) := by
  have hjoint : joint [c] (d :: s) = if (endsHump c && d.isUpper) = true then ['_'] else [] := rfl
  rw [markHumps, hjoint]
  split <;> rfl

theorem markHumps_append (s t : List Char) :
    markHumps (s ++ t) = markHumps s ++ (joint s t ++ markHumps t) := by
  induction s with
  | nil => rfl
  | cons c s ih =>
    cases s with
    | nil =>
      cases t with
      | nil => simp [joint, markHumps]
      | cons d t => exact markHumps_cons_cons c d t
    | cons d s =>
      -- the joint lies beyond the two characters in front
      have hfront : joint [c] (d :: (s ++ t)) = joint [c] (d :: s) := rfl
      have hjoint : joint (c :: d :: s) t = joint (d :: s) t := by
        rw [joint, List.getLast?_cons_cons, joint]
      rw [List.cons_append] at ih
      rw [List.cons_append, List.cons_append, markHumps_cons_cons, markHumps_cons_cons, hfront,
        hjoint, ih, List.cons_append, List.append_assoc]

/-- Nothing is marked in a text with no capitals but the first character. -/
theorem markHumps_eq_self {s : List Char} (h : ∀ c ∈ s.tail, c.isUpper = false) :
    markHumps s = s := by
  induction s with
  | nil => rfl
  | cons c s ih =>
    have hjoint : joint [c] s = [] := by
      cases s with
      | nil => simp [joint]
      | cons d s => simp [joint, h d List.mem_cons_self]
    have hrest : markHumps s = s := ih fun d hd => h d (List.mem_of_mem_tail hd)
    have happend := markHumps_append [c] s
    rwa [hjoint, hrest] at happend

theorem mem_markHumps {c : Char} {s : List Char} (h : c ∈ markHumps s) : c ∈ s ∨ c = '_' := by
  induction s with
  | nil => exact Or.inl h
  | cons d s ih =>
    have happend : markHumps (d :: s) = [d] ++ (joint [d] s ++ markHumps s) :=
      markHumps_append [d] s
    rw [happend, List.mem_append, List.mem_append] at h
    rcases h with h | h | h
    · exact Or.inl (List.mem_cons.2 (Or.inl (List.mem_singleton.1 h)))
    · have hjoint : joint [d] s ⊆ ['_'] := by
        unfold joint
        split <;> simp
      exact Or.inr (List.mem_singleton.1 (hjoint h))
    · exact (ih h).imp_left (List.mem_cons_of_mem d)

/-! ## Words -/

/-- The words of a name, as they are written. -/
def wordsOf (name : List Char) : List (List Char) := words isSeparator (markHumps name)

/-- The words around an underscore are found on their own. -/
theorem wordsOf_append (s t : List Char) : wordsOf (s ++ '_' :: t) = wordsOf s ++ wordsOf t := by
  have hbefore : joint s ('_' :: t) = [] := by simp [joint]
  have hafter : markHumps ('_' :: t) = '_' :: markHumps t := markHumps_append ['_'] t
  rw [wordsOf, markHumps_append, hbefore, hafter, List.nil_append, words_append_cons rfl]
  rfl

theorem pascal_eq (name : String) :
    pascal name = String.ofList ((wordsOf name.toList).flatMap capitalizeWord) := rfl

theorem pascal_append (a b : String) : pascal (a ++ "_" ++ b) = pascal a ++ pascal b := by
  have hlist : (a ++ "_" ++ b).toList = a.toList ++ '_' :: b.toList := by simp
  rw [pascal_eq, hlist, wordsOf_append, List.flatMap_append, String.ofList_append, ← pascal_eq,
    ← pascal_eq]

/-! ## Letters and digits -/

theorem isAlpha_of_isUpper {c : Char} (h : c.isUpper = true) : c.isAlpha = true :=
  Bool.or_eq_true_iff.2 (Or.inl h)

theorem isAlpha_of_isLower {c : Char} (h : c.isLower = true) : c.isAlpha = true :=
  Bool.or_eq_true_iff.2 (Or.inr h)

theorem isAlphanum_of_isAlpha {c : Char} (h : c.isAlpha = true) : c.isAlphanum = true :=
  Bool.or_eq_true_iff.2 (Or.inl h)

theorem isAlphanum_of_isDigit {c : Char} (h : c.isDigit = true) : c.isAlphanum = true :=
  Bool.or_eq_true_iff.2 (Or.inr h)

theorem ascii_of_isAlphanum {c : Char} (hc : c.isAlphanum = true) : c.toNat < 128 :=
  Percent.ascii_of_isUnreserved (by simp [Percent.isUnreserved, hc])

/-- What holds of the letters and digits of ASCII one by one holds of every one of them. -/
theorem forall_alphanum {q : Char → Prop}
    (h : ∀ n < 128, (Char.ofNat n).isAlphanum = true → q (Char.ofNat n))
    {c : Char} (hc : c.isAlphanum = true) : q c :=
  forall_ascii (p := fun c => c.isAlphanum = true → q c) h (ascii_of_isAlphanum hc) hc

theorem isSeparator_of_isAlphanum {c : Char} (hc : c.isAlphanum = true) : isSeparator c = false :=
  forall_alphanum (q := fun c => isSeparator c = false) (by decide) hc

theorem toUpper_of_isAlpha {c : Char} (h : c.isAlpha = true) :
    c.toUpper.isUpper = true ∧ c.toUpper.toUpper = c.toUpper :=
  forall_alphanum (q := fun c => c.isAlpha = true →
    c.toUpper.isUpper = true ∧ c.toUpper.toUpper = c.toUpper)
    (by decide) (isAlphanum_of_isAlpha h) h

theorem capitalizeWord_of_alphanum {c : Char} {rest : List Char}
    (h : ∀ d ∈ c :: rest, d.isAlphanum = true) :
    capitalizeWord (c :: rest) = c.toUpper :: rest.map Char.toLower := by
  rw [List.forall_mem_cons] at h
  rw [capitalizeWord, upperChar_of_ascii (ascii_of_isAlphanum h.1),
    lower_of_ascii fun d hd => ascii_of_isAlphanum (h.2 d hd)]
  rfl

/-! ## The last word -/

theorem mapLast_concat {α : Type} (f : α → α) (l : List α) (a : α) :
    mapLast f (l ++ [a]) = l ++ [f a] := by
  induction l with
  | nil => rfl
  | cons b l ih =>
    cases l with
    | nil => rfl
    | cons c l => exact congrArg (b :: ·) ih

/-- The pieces between underscores make up the text again. -/
theorem intercalate_split (s : List Char) :
    String.intercalate "_" ((split (· == '_') s).map String.ofList) = String.ofList s := by
  induction s with
  | nil => rfl
  | cons c s ih =>
    cases hc : c == '_' with
    | true =>
      -- in front of an underscore at the start there is an empty piece
      have hsplit : split (· == '_') (c :: s) = [] :: split (· == '_') s := by
        rw [split, hc, if_pos rfl]
      rw [hsplit, List.map_cons, String.intercalate_cons_of_ne_nil
        (by simpa using split_ne_nil _ s), ih, eq_of_beq hc, ← List.singleton_append,
        String.ofList_append]
      rfl
    | false =>
      -- any other character is put in front of the first piece
      obtain ⟨piece, pieces, hrest, hsplit⟩ := split_cons_of_neg (p := (· == '_')) hc s
      rw [hrest] at ih
      rw [hsplit, ← List.singleton_append, ← List.singleton_append (l := s), String.ofList_append,
        ← ih]
      cases pieces <;> simp [String.append_assoc, String.intercalate_cons_cons]

theorem split_eq_of_not_mem {w : String} (h : '_' ∉ w.toList) :
    split (· == '_') w.toList = [w.toList] :=
  split_eq_singleton fun _ hc => beq_eq_false_iff_ne.2 (ne_of_mem_of_not_mem hc h)

theorem classify_of_not_mem {name : String} (h : '_' ∉ name.toList) :
    classify name = pascal (singularize name) := by
  rw [classify, split_eq_of_not_mem h]
  simp [mapLast]

/-- What comes before the last underscore is no more than capitalized. -/
theorem classify_append (p : String) {w : String} (h : '_' ∉ w.toList) :
    classify (p ++ "_" ++ w) = pascal p ++ pascal (singularize w) := by
  have hpieces : (split (· == '_') (p ++ "_" ++ w).toList).map String.ofList
      = (split (· == '_') p.toList).map String.ofList ++ [w] := by
    have hlist : (p ++ "_" ++ w).toList = p.toList ++ '_' :: w.toList := by simp
    rw [hlist, split_append_cons rfl, split_eq_of_not_mem h]
    simp
  have hne : (split (· == '_') p.toList).map String.ofList ≠ [] := by
    simpa using split_ne_nil _ p.toList
  rw [classify, hpieces, mapLast_concat,
    String.intercalate_append_of_ne_nil hne (List.cons_ne_nil _ _), intercalate_split,
    String.intercalate_singleton, String.ofList_toList, pascal_append]

/-- A name is one piece, or a part before its last underscore and a piece after it. -/
theorem classify_cases (name : String) :
    classify name = pascal (singularize name) ∨
    ∃ p w, name = p ++ "_" ++ w ∧ classify name = pascal p ++ pascal (singularize w) := by
  by_cases hmem : '_' ∈ name.toList
  · -- the last underscore is the first one from the end
    obtain ⟨after, before, hlist, hnot⟩ := List.eq_append_cons_of_mem (List.mem_reverse.2 hmem)
    have hname : name = String.ofList before.reverse ++ "_" ++ String.ofList after.reverse := by
      rw [← String.toList_inj, ← List.reverse_inj, hlist]
      simp
    have hlast : '_' ∉ (String.ofList after.reverse).toList := by simpa using hnot
    exact Or.inr ⟨_, _, hname, by rw [hname, classify_append _ hlast]⟩
  · exact Or.inl (classify_of_not_mem hmem)

/-- Two parts of a name with an underscore between them are capitalized each on its own, and only
what comes after the last underscore is put into the singular. -/
theorem pascal_append_and_classify_append :
    (∀ a b, pascal (a ++ "_" ++ b) = pascal a ++ pascal b) ∧
    ∀ p w : String, '_' ∉ w.toList →
      classify (p ++ "_" ++ w) = pascal p ++ pascal (singularize w) :=
  ⟨pascal_append, fun p _ h => classify_append p h⟩

/-- A hump right before the underscore, and one in the last word, which is an irregular plural. -/
theorem classify_append_work_people :
    '_' ∉ "People".toList ∧ classify ("news_-workΟΣ" ++ "_" ++ "People") = "NewsWorkοςPerson" := by
  have hmem : '_' ∉ "People".toList := by decide
  refine ⟨hmem, (pascal_append_and_classify_append.2 "news_-workΟΣ" "People" hmem).trans ?_⟩
  decide +kernel

end SchemaTypes.Naming
