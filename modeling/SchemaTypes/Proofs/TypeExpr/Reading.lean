import SchemaTypes.Proofs.Text.Literals
import SchemaTypes.Proofs.TypeExpr.Legible

set_option autoImplicit false

/-! # Reading types back

A reader of the texts of types, in which `&` binds tighter than `|`: a union is read as
intersections between bars, an intersection as what stands between its operators, and that is a
literal, a name, a name with brackets for an array, or a name with arguments between angle brackets.

The reader stops where a text cannot go on, so it can be run on a type with anything behind it that
ends the type (`EndsAt`). A legible type is read as itself with its gaps filled
(`IsLegible.readsBack`). The main statement is `text_eq_iff`: legible types have the same text
exactly if they are equal with their gaps filled.
-/

namespace SchemaTypes

open Text

namespace TypeExpr

/-! ## The reader -/

/-- Reads from the start of a text: the value, and what comes after it. -/
abbrev Reader (α : Type) : Type := List Char → Option (α × List Char)

/-- Reads at least one and at most `n` values with separators between them. -/
def readSeparated {α : Type} (separator : String) (read : Reader α) : Nat → Reader (List α)
  | 0, _ => none
  | n + 1, s => do
    let (value, rest) ← read s
    match separator.toList.isPrefixOf? rest with
    | some rest => do
      let (values, rest) ← readSeparated separator read n rest
      return (value :: values, rest)
    | none => return ([value], rest)

/-- The operands of an operator as one type. A single one is no compound. -/
def ofOperands (operator : Operator) : List TypeExpr → TypeExpr
  | [t] => t
  | ts => .compound operator ts

/-- Reads the operands of an operator. -/
def readOperands (operator : Operator) (read : Reader TypeExpr) (n : Nat) : Reader TypeExpr :=
  fun s => (readSeparated operator.separator read n s).map fun result =>
    (ofOperands operator result.1, result.2)

/-- The type that a name with arguments stands for. -/
def ofArguments? (name : String) (arguments : List TypeExpr) : Option TypeExpr :=
  match name, arguments with
  | "Array", [t] => some (.array t)
  | "ColumnType", [t] => some (.columnType t none none)
  | "ColumnType", [t, insert] => some (.columnType t insert none)
  | "ColumnType", [t, insert, update] => some (.columnType t insert update)
  | "JSONColumnType", [t] => some (.jsonColumnType t none none)
  | "JSONColumnType", [t, insert] => some (.jsonColumnType t insert none)
  | "JSONColumnType", [t, insert, update] => some (.jsonColumnType t insert update)
  | "Generated", [t] => some (.generated t)
  | "GeneratedAlways", [t] => some (.generatedAlways t)
  | _, _ => none

/-- Reads what comes after a name: brackets, or at most `n` arguments, or nothing. -/
def readAfterName (inner : Reader TypeExpr) (n : Nat) (name : String) : Reader TypeExpr
  | '[' :: ']' :: rest => some (.array (.primitive name), rest)
  | '<' :: rest => do
    let (arguments, rest) ← readSeparated ", " inner n rest
    match rest with
    | '>' :: rest => return (← ofArguments? name arguments, rest)
    | _ => none
  | rest => some (.primitive name, rest)

/-- Reads a type without an operator on its outside. -/
def readAtom (inner : Reader TypeExpr) (n : Nat) : Reader TypeExpr
  | '"' :: rest => do
    let (value, rest) ← Quoted.readBody rest
    return (.stringLiteral (String.ofList value), rest)
  | s =>
    match s.takeWhile Char.isAlphanum with
    | [] => none
    | name => readAfterName inner n (String.ofList name) (s.dropWhile Char.isAlphanum)

/-- Reads a type whose parts are bound no looser than told. -/
def readAt (inner : Reader TypeExpr) (n : Nat) : Nat → Reader TypeExpr
  | 0 => readAtom inner n
  | 1 => readOperands .intersection (readAt inner n 0) n
  | level + 2 => readOperands .union (readAt inner n (level + 1)) n

/-- Reads a type with arguments in arguments at most `n` deep. -/
def readType : Nat → Reader TypeExpr
  | 0 => fun _ => none
  | n + 1 => readAt (readType n) n 2

/-- Reads a text that is the text of a type. -/
def read (s : String) : Option TypeExpr :=
  match readType (s.length + 1) s.toList with
  | some (t, []) => some t
  | _ => none

/-! ## Where a type ends -/

/-- A name ends here, and is neither followed by brackets nor by arguments. -/
def EndsName (s : List Char) : Prop := ∀ c ∈ s.head?, c.isAlphanum = false ∧ c ≠ '[' ∧ c ≠ '<'

/-- A type whose parts are bound no looser than told ends here. -/
def EndsAt : Nat → List Char → Prop
  | 0, s => EndsName s
  | 1, s => EndsAt 0 s ∧ ¬ Operator.intersection.separator.toList <+: s
  | level + 2, s => EndsAt (level + 1) s ∧ ¬ Operator.union.separator.toList <+: s

/-- A type ends where neither a name nor brackets nor an operator can come. -/
theorem endsAt_of_endsName {s : List Char} (hname : EndsName s) (hspace : s.head? ≠ some ' ') :
    ∀ k, EndsAt k s := by
  have hstop : ∀ operator : Operator, ¬ operator.separator.toList <+: s := by
    rintro operator ⟨rest, rfl⟩
    cases operator <;> exact hspace rfl
  intro k
  induction k with
  | zero => exact hname
  | succ k ih =>
    cases k with
    | zero => exact ⟨ih, hstop .intersection⟩
    | succ k => exact ⟨ih, hstop .union⟩

theorem endsAt_nil (k : Nat) : EndsAt k [] :=
  endsAt_of_endsName (fun _ hc => by cases hc) (by simp) k

theorem endsAt_comma (k : Nat) (s : List Char) : EndsAt k (", ".toList ++ s) := by
  refine endsAt_of_endsName ?_ (by simp) k
  rintro c hc
  cases hc
  decide

theorem endsAt_bracket (k : Nat) (s : List Char) : EndsAt k ('>' :: s) := by
  refine endsAt_of_endsName ?_ (by simp) k
  rintro c hc
  cases hc
  decide

/-- A member of a compound ends in front of the operator. -/
theorem endsAt_separator (operator : Operator) (s : List Char) :
    EndsAt (operator.level - 1) (operator.separator.toList ++ s) := by
  have hname : ∀ t, EndsName (' ' :: t) := by
    rintro t c hc
    cases hc
    decide
  cases operator with
  | intersection => exact hname _
  | union =>
    refine ⟨hname _, ?_⟩
    rintro ⟨rest, heq⟩
    cases heq

theorem endsAt_level_iff {operator : Operator} {s : List Char} :
    EndsAt operator.level s ↔
      EndsAt (operator.level - 1) s ∧ ¬ operator.separator.toList <+: s := by
  cases operator <;> rfl

/-! ## Values with separators -/

section Separated

variable {α β : Type} {separator : String} {read : Reader β} {value : β} {values : List β} {n : Nat}
  {s rest : List Char}

theorem readSeparated_last (h : read s = some (value, rest)) (hstop : ¬ separator.toList <+: rest) :
    readSeparated separator read (n + 1) s = some ([value], rest) := by
  have hnone : separator.toList.isPrefixOf? rest = none := by
    refine Option.eq_none_iff_forall_not_mem.2 ?_
    intro t ht
    exact hstop ⟨t, List.isPrefixOf?_eq_some_iff_append_eq.1 ht⟩
  rw [readSeparated, h]
  simp only [Option.bind_eq_bind, Option.bind_some, hnone, Option.pure_def]

theorem readSeparated_cons (h : read s = some (value, separator.toList ++ rest))
    {after : List Char} (htail : readSeparated separator read n rest = some (values, after)) :
    readSeparated separator read (n + 1) s = some (value :: values, after) := by
  have hsome : separator.toList.isPrefixOf? (separator.toList ++ rest) = some rest :=
    List.isPrefixOf?_eq_some_iff_append_eq.2 rfl
  rw [readSeparated, h]
  simp only [Option.bind_eq_bind, Option.bind_some, hsome, htail, Option.pure_def]

/-- Values that are each read back where another one may follow are read back with separators
between them. -/
theorem readSeparated_append {text : α → String} {value : α → β} {follows : List Char → Prop}
    {as : List α} (hne : as ≠ []) (hn : as.length ≤ n)
    (hread : ∀ a ∈ as, ∀ s, follows s → read ((text a).toList ++ s) = some (value a, s))
    (hseparator : ∀ s, follows (separator.toList ++ s)) (hrest : follows rest)
    (hstop : ¬ separator.toList <+: rest) :
    readSeparated separator read n ((String.intercalate separator (as.map text)).toList ++ rest)
      = some (as.map value, rest) := by
  induction as generalizing n with
  | nil => exact absurd rfl hne
  | cons a as ih =>
    rw [List.forall_mem_cons] at hread
    obtain ⟨n, rfl⟩ := Nat.exists_eq_succ_of_ne_zero (Nat.ne_zero_of_lt hn)
    cases as with
    | nil =>
      rw [List.map_singleton, String.intercalate_singleton]
      exact readSeparated_last (hread.1 rest hrest) hstop
    | cons b bs =>
      have htail := ih (List.cons_ne_nil b bs) (Nat.le_of_succ_le_succ hn) hread.2
      have htext : (String.intercalate separator ((a :: b :: bs).map text)).toList
          = (text a).toList ++ (separator.toList
            ++ (String.intercalate separator ((b :: bs).map text)).toList) := by
        rw [List.map_cons, List.map_cons, String.intercalate_cons_cons, ← List.map_cons,
          String.toList_append, String.toList_append, List.append_assoc]
      rw [htext, List.append_assoc, List.append_assoc]
      exact readSeparated_cons (hread.1 _ (hseparator _)) htail

/-- Texts with separators between them are no shorter than any of them, nor than they are many. -/
theorem length_le_intercalate (separator : String) {texts : List String}
    (h : ∀ a ∈ texts, 0 < a.length) :
    texts.length ≤ (String.intercalate separator texts).length ∧
      ∀ a ∈ texts, a.length ≤ (String.intercalate separator texts).length := by
  induction texts with
  | nil => exact ⟨Nat.zero_le _, fun _ ha => by cases ha⟩
  | cons a texts ih =>
    rw [List.forall_mem_cons] at h
    cases texts with
    | nil =>
      rw [String.intercalate_singleton, List.forall_mem_singleton]
      exact ⟨h.1, Nat.le_refl _⟩
    | cons b texts =>
      obtain ⟨hcount, hlengths⟩ := ih h.2
      have hlength : (String.intercalate separator (a :: b :: texts)).length
          = a.length + separator.length + (String.intercalate separator (b :: texts)).length := by
        rw [String.intercalate_cons_cons, String.length_append, String.length_append]
      rw [hlength, List.forall_mem_cons, List.length_cons]
      refine ⟨by omega, by omega, ?_⟩
      intro c hc
      have hle := hlengths c hc
      omega

end Separated

/-! ## Types that are read back -/

variable {t : TypeExpr} {n k : Nat} {rest : List Char}

/-- The type is read from its text with its gaps filled, whatever ends it. -/
structure ReadsBack (t : TypeExpr) : Prop where
  pos : 0 < t.text.length
  readAt_eq : ∀ {n : Nat} {rest : List Char}, t.text.length ≤ n → EndsAt t.level rest →
    readAt (readType n) n t.level (t.text.toList ++ rest) = some (t.fill, rest)

/-- A single operand is read as it is. -/
theorem readOperands_eq {operator : Operator} {read : Reader TypeExpr} {s : List Char} (hn : 0 < n)
    (h : read s = some (t, rest)) (hstop : ¬ operator.separator.toList <+: rest) :
    readOperands operator read n s = some (t, rest) := by
  obtain ⟨n, rfl⟩ := Nat.exists_eq_succ_of_ne_zero (Nat.ne_of_gt hn)
  rw [readOperands, readSeparated_last h hstop]
  rfl

/-- What is read at one level is read at looser ones as well. -/
theorem readAt_succ {inner : Reader TypeExpr} {s : List Char} (hn : 0 < n)
    (h : EndsAt k rest → readAt inner n k s = some (t, rest)) (hends : EndsAt (k + 1) rest) :
    readAt inner n (k + 1) s = some (t, rest) := by
  cases k with
  | zero => exact readOperands_eq hn (h hends.1) hends.2
  | succ k => exact readOperands_eq hn (h hends.1) hends.2

theorem ReadsBack.readAt_of_le (h : t.ReadsBack) (hn : t.text.length ≤ n) (hlevel : t.level ≤ k)
    (hends : EndsAt k rest) :
    readAt (readType n) n k (t.text.toList ++ rest) = some (t.fill, rest) := by
  induction k, hlevel using Nat.le_induction generalizing rest with
  | base => exact h.readAt_eq hn hends
  | succ k _ ih => exact readAt_succ (Nat.lt_of_lt_of_le h.pos hn) ih hends

/-- Types are read in arguments. -/
theorem ReadsBack.readType_eq (h : t.ReadsBack) (hn : t.text.length < n) (hends : EndsAt 2 rest) :
    readType n (t.text.toList ++ rest) = some (t.fill, rest) := by
  obtain ⟨n, rfl⟩ := Nat.exists_eq_succ_of_ne_zero (Nat.ne_zero_of_lt hn)
  exact h.readAt_of_le (Nat.le_of_lt_succ hn) t.level_le_two hends

/-! ### Compounds -/

theorem readAt_level (operator : Operator) (inner : Reader TypeExpr) (n : Nat) :
    readAt inner n operator.level
      = readOperands operator (readAt inner n (operator.level - 1)) n := by
  cases operator <;> rfl

theorem ofOperands_eq (operator : Operator) {ts : List TypeExpr} (h : 2 ≤ ts.length) :
    ofOperands operator ts = .compound operator ts := by
  match ts with
  | [] => cases h
  | [_] => exact absurd h (by simp)
  | _ :: _ :: _ => rfl

/-- Texts of types that are read back, with separators between them, are no fewer and no longer than
all of them together. -/
theorem le_length_intercalate {ts : List TypeExpr} (separator : String)
    (h : ∀ t ∈ ts, t.ReadsBack) :
    ts.length ≤ (String.intercalate separator (ts.map text)).length ∧
      ∀ t ∈ ts, t.text.length ≤ (String.intercalate separator (ts.map text)).length := by
  have hpos : ∀ a ∈ ts.map text, 0 < a.length := List.forall_mem_map.2 fun t ht => (h t ht).pos
  have hle := length_le_intercalate separator hpos
  rwa [List.length_map, List.forall_mem_map] at hle

theorem ReadsBack.compound {operator : Operator} {members : List TypeExpr}
    (hcount : 2 ≤ members.length) (hlevel : ∀ m ∈ members, m.level < operator.level)
    (h : ∀ m ∈ members, m.ReadsBack) : (compound operator members).ReadsBack := by
  have htext : (TypeExpr.compound operator members).text
      = String.intercalate operator.separator (members.map text) := by
    rw [text, texts_eq_map]
  obtain ⟨hle, hlengths⟩ := le_length_intercalate operator.separator h
  refine ⟨?_, ?_⟩
  · rw [htext]
    omega
  · intro n rest hn hends
    rw [htext] at hn ⊢
    obtain ⟨hmember, hstop⟩ := endsAt_level_iff.1 hends
    have hne : members ≠ [] := List.ne_nil_of_length_pos (Nat.lt_of_lt_of_le Nat.zero_lt_two hcount)
    have hread : ∀ m ∈ members, ∀ s, EndsAt (operator.level - 1) s →
        readAt (readType n) n (operator.level - 1) (m.text.toList ++ s) = some (m.fill, s) := by
      intro m hm s hs
      exact (h m hm).readAt_of_le ((hlengths m hm).trans hn) (Nat.le_sub_one_of_lt (hlevel m hm)) hs
    have hfilled : 2 ≤ (members.map fill).length := by rwa [List.length_map]
    show readAt (readType n) n operator.level _ = _
    rw [readAt_level, readOperands,
      readSeparated_append hne (hle.trans hn) hread (endsAt_separator operator) hmember hstop,
      Option.map_some, ofOperands_eq operator hfilled, fill, fillList_eq_map]

/-! ### Names and literals -/

section Name

variable {name : String} {inner : Reader TypeExpr}

/-- A name is read up to where it ends. -/
theorem readAtom_name (hne : name ≠ "") (hname : Consists Char.isAlphanum name) {s : List Char}
    (hs : ∀ c ∈ s.head?, c.isAlphanum = false) :
    readAtom inner n (name.toList ++ s) = readAfterName inner n name s := by
  have hstop : s.takeWhile Char.isAlphanum = [] ∧ s.dropWhile Char.isAlphanum = s := by
    cases s with
    | nil => exact ⟨rfl, rfl⟩
    | cons c s => simp [hs c rfl]
  have htake : (name.toList ++ s).takeWhile Char.isAlphanum = name.toList := by
    rw [List.takeWhile_append_of_pos hname, hstop.1, List.append_nil]
  have hdrop : (name.toList ++ s).dropWhile Char.isAlphanum = s := by
    rw [List.dropWhile_append_of_pos hname, hstop.2]
  have hquote : ∀ rest, name.toList ++ s ≠ '"' :: rest := by
    intro rest heq
    rw [heq] at htake
    exact hne (String.toList_eq_nil_iff.1 htake.symm)
  have hlist : name.toList ≠ [] := fun h => hne (String.toList_eq_nil_iff.1 h)
  rw [readAtom.eq_def]
  split
  · rename_i rest heq
    exact absurd heq (hquote rest)
  · rw [htake, hdrop]
    split
    · rename_i hnil
      exact absurd hnil hlist
    · rw [String.ofList_toList]

/-- A name with nothing behind it is a type by itself. -/
theorem readAfterName_nothing (hends : EndsName rest) :
    readAfterName inner n name rest = some (.primitive name, rest) := by
  rw [readAfterName.eq_def]
  split
  · exact absurd rfl (hends _ rfl).2.1
  · exact absurd rfl (hends _ rfl).2.2
  · rfl

/-- A name with arguments, each of which can be read. -/
theorem readAfterName_arguments {arguments : List TypeExpr} (hne : arguments ≠ [])
    (hn : arguments.length ≤ n)
    (hread : ∀ a ∈ arguments, ∀ s, EndsAt 2 s → inner (a.text.toList ++ s) = some (a.fill, s))
    (htype : ofArguments? name (arguments.map fill) = some t) :
    readAfterName inner n name
      ('<' :: ((String.intercalate ", " (arguments.map text)).toList ++ '>' :: rest))
      = some (t, rest) := by
  have hstop : ¬ ", ".toList <+: '>' :: rest := by
    rintro ⟨s, heq⟩
    cases heq
  rw [readAfterName,
    readSeparated_append hne hn hread (endsAt_comma 2) (endsAt_bracket 2 rest) hstop]
  simp only [Option.bind_eq_bind, Option.bind_some, htype, Option.pure_def]

end Name

theorem ReadsBack.primitive {name : String} (hne : name ≠ "")
    (hname : Consists Char.isAlphanum name) :
    (primitive name).ReadsBack := by
  refine ⟨?_, ?_⟩
  · rw [text, ← String.length_toList, List.length_pos_iff, Ne, String.toList_eq_nil_iff]
    exact hne
  · intro n rest _ hends
    have hstop : ∀ c ∈ rest.head?, c.isAlphanum = false := fun c hc => (hends c hc).1
    show readAtom (readType n) n (name.toList ++ rest) = some (.primitive name, rest)
    rw [readAtom_name hne hname hstop, readAfterName_nothing hends]

theorem ReadsBack.stringLiteral (value : String) : (stringLiteral value).ReadsBack := by
  have htext : (TypeExpr.stringLiteral value).text.toList
      = '"' :: value.toList.flatMap Quoted.escape ++ ['"'] := by
    rw [text, String.toList_ofList, Quoted.encode]
  refine ⟨?_, ?_⟩
  · rw [← String.length_toList, htext]
    simp
  · intro n rest _ _
    rw [htext, List.append_assoc]
    show readAtom (readType n) n ('"' :: (value.toList.flatMap Quoted.escape ++ '"' :: rest)) = _
    rw [readAtom, Quoted.readBody_append]
    simp only [Option.bind_eq_bind, Option.bind_some, Option.pure_def, String.ofList_toList, fill]

/-- An array of a plain name is read with its brackets. -/
theorem ReadsBack.arrayOfName {name : String} (hne : name ≠ "")
    (hname : Consists Char.isAlphanum name)
    (htext : (array (.primitive name)).text = name ++ "[]") :
    (array (.primitive name)).ReadsBack := by
  refine ⟨?_, ?_⟩
  · rw [htext, String.length_append]
    exact Nat.lt_of_lt_of_le (by decide) (Nat.le_add_left _ _)
  · intro n rest _ _
    rw [htext, String.toList_append, List.append_assoc]
    show readAtom (readType n) n (name.toList ++ '[' :: ']' :: rest) = _
    rw [readAtom_name hne hname (fun c hc => by cases hc; decide)]
    rfl

/-- A type that is written as a name with arguments is read back if its arguments are. -/
theorem ReadsBack.applied {name : String} {arguments : List TypeExpr} (hne : name ≠ "")
    (hname : Consists Char.isAlphanum name) (harguments : arguments ≠ [])
    (h : ∀ a ∈ arguments, a.ReadsBack) (hlevel : t.level = 0)
    (htext : t.text = applied name (arguments.map text))
    (htype : ofArguments? name (arguments.map fill) = some t.fill) : t.ReadsBack := by
  obtain ⟨hle, hlengths⟩ := le_length_intercalate ", " h
  have hlength : t.text.length
      = name.length + (String.intercalate ", " (arguments.map text)).length + 2 := by
    have hopen : "<".length = 1 := rfl
    have hclose : ">".length = 1 := rfl
    rw [htext, TypeExpr.applied]
    simp only [String.length_append]
    omega
  refine ⟨by omega, ?_⟩
  intro n rest hn _
  have hread : ∀ a ∈ arguments, ∀ s, EndsAt 2 s →
      readType n (a.text.toList ++ s) = some (a.fill, s) := by
    intro a ha s hs
    have hshort := hlengths a ha
    exact (h a ha).readType_eq (by omega) hs
  have hlist : t.text.toList ++ rest = name.toList
      ++ '<' :: ((String.intercalate ", " (arguments.map text)).toList ++ '>' :: rest) := by
    rw [htext, TypeExpr.applied]
    simp only [String.toList_append, List.append_assoc]
    rfl
  rw [hlevel, hlist]
  show readAtom (readType n) n _ = _
  rw [readAtom_name hne hname (fun c hc => by cases hc; decide),
    readAfterName_arguments harguments (by omega) hread htype]

/-! ## Legible types are read back -/

theorem isPlainName_of_consists {s : String} (hne : s ≠ "") (h : Consists Char.isAlphanum s) :
    isPlainName s = true := by
  have hlist : s.toList.reverse ≠ [] := by
    rwa [Ne, List.reverse_eq_nil_iff, String.toList_eq_nil_iff]
  have hall : s.toList.reverse.all Char.isAlphanum = true := by
    rw [List.all_reverse, List.all_eq_true]
    exact h
  rw [isPlainName]
  split
  · rename_i rest heq
    rw [heq, List.all_cons] at hall
    cases hall
  · rw [hall, Bool.and_true, Bool.not_eq_true', List.isEmpty_eq_false_iff]
    exact hlist

/-- The characters of a plain name are letters and digits, a line break at its end aside. -/
theorem isAlphanum_of_isPlainName {s : String} (h : isPlainName s = true) {c : Char}
    (hc : c ∈ s.toList)
    (hline : c ≠ '\n') : c.isAlphanum = true := by
  rw [← List.mem_reverse] at hc
  rw [isPlainName, Bool.and_eq_true] at h
  split at h
  · rename_i rest heq
    rw [heq] at hc
    exact List.all_eq_true.1 h.2 c (List.mem_of_ne_of_mem hline hc)
  · exact List.all_eq_true.1 h.2 c hc

theorem mem_applied (name : String) (arguments : List String) :
    '>' ∈ (applied name arguments).toList := by
  simp [applied]

/-- A legible type that is no primitive is not written as a plain name. -/
theorem IsLegible.isPlainName_text_eq_false (h : t.IsLegible) (hprimitive : t.kind ≠ .primitive) :
    isPlainName t.text = false := by
  have hmem : ∀ c ∈ t.text.toList, c.isAlphanum = false → c ≠ '\n' →
      isPlainName t.text = false := by
    intro c hc hnot hline
    refine Bool.eq_false_iff.2 ?_
    intro hplain
    rw [isAlphanum_of_isPlainName hplain hc hline] at hnot
    cases hnot
  -- one character that stands in no name is enough
  cases h with
  | primitive => exact absurd rfl hprimitive
  | stringLiteral value =>
    refine hmem '"' ?_ (by decide) (by decide)
    simp [text, Quoted.encode]
  | @array element _ =>
    by_cases hplain : isPlainName element.text = true
    · refine hmem ']' ?_ (by decide) (by decide)
      simp [text, hplain]
    · refine hmem '>' ?_ (by decide) (by decide)
      rw [text, if_neg hplain]
      exact mem_applied _ _
  | @compound operator members hcount =>
    refine hmem ' ' ?_ (by decide) (by decide)
    have hspace : ' ' ∈ operator.separator.toList := by cases operator <;> decide
    obtain ⟨first, rest, rfl⟩ := List.exists_cons_of_length_pos
      (Nat.lt_of_lt_of_le Nat.zero_lt_two hcount)
    obtain ⟨second, rest, rfl⟩ := List.exists_cons_of_length_pos (Nat.lt_of_succ_lt_succ hcount)
    simp [text, texts, hspace]
  | columnType => exact hmem '>' (mem_applied _ _) (by decide) (by decide)
  | jsonColumnType => exact hmem '>' (mem_applied _ _) (by decide) (by decide)
  | generated => exact hmem '>' (mem_applied _ _) (by decide) (by decide)
  | generatedAlways => exact hmem '>' (mem_applied _ _) (by decide) (by decide)

/-- A wrapper is read back if its parameters are. -/
theorem ReadsBack.wrapper {name : String} (hname : t.wrapperName? = some name)
    (h : ∀ a ∈ t.parameters, a.ReadsBack) : t.ReadsBack := by
  have hnames : ∀ name ∈ ["ColumnType", "JSONColumnType", "Generated", "GeneratedAlways"],
      name ≠ "" ∧ Consists Char.isAlphanum name := by
    decide
  have hlisted : name ∈ ["ColumnType", "JSONColumnType", "Generated", "GeneratedAlways"] := by
    cases t <;> cases hname <;> decide
  obtain ⟨hne, halphanum⟩ := hnames name hlisted
  have htext := text_of_wrapperName? hname
  refine .applied hne halphanum ?_ h ?_ htext ?_
  · cases t with
    | columnType select insert update =>
      cases insert <;> cases update <;> exact List.cons_ne_nil _ _
    | jsonColumnType select insert update =>
      cases insert <;> cases update <;> exact List.cons_ne_nil _ _
    | generated select => exact List.cons_ne_nil _ _
    | generatedAlways select => exact List.cons_ne_nil _ _
    | _ => cases hname
  · cases t <;> cases hname <;> rfl
  · cases t with
    | columnType select insert update => cases hname; cases insert <;> cases update <;> rfl
    | jsonColumnType select insert update => cases hname; cases insert <;> cases update <;> rfl
    | generated select => cases hname; rfl
    | generatedAlways select => cases hname; rfl
    | _ => cases hname

/-- An array is read back if its element is. -/
theorem ReadsBack.array {element : TypeExpr} (hlegible : element.IsLegible)
    (h : element.ReadsBack) :
    (array element).ReadsBack := by
  by_cases hkind : element.kind = .primitive
  · cases hlegible with
    | @primitive name hne hname =>
      have htext : (TypeExpr.array (.primitive name)).text = name ++ "[]" := by
        rw [text, text, if_pos (isPlainName_of_consists hne hname)]
      exact .arrayOfName hne hname htext
    | @compound operator => cases operator <;> cases hkind
    | _ => cases hkind
  · have hplain : ¬ isPlainName element.text = true := by
      rw [hlegible.isPlainName_text_eq_false hkind]
      exact Bool.false_ne_true
    have htext : (TypeExpr.array element).text = TypeExpr.applied "Array" ([element].map text) := by
      rw [text, if_neg hplain, List.map_singleton]
    exact .applied (by decide) (by decide) (List.cons_ne_nil _ _) (by simpa using h) rfl htext rfl

/-- A legible type is read from its text with its gaps filled. -/
theorem IsLegible.readsBack (h : t.IsLegible) : t.ReadsBack := by
  induction h with
  | primitive hne hname => exact .primitive hne hname
  | stringLiteral value => exact .stringLiteral value
  | array hlegible ih => exact .array hlegible ih
  | compound hcount hlevel _ ih => exact .compound hcount hlevel ih
  | columnType _ _ _ hselect hinsert hupdate =>
    refine .wrapper rfl ?_
    intro a ha
    rcases mem_wrapperParameters ha with rfl | rfl | hmem | hmem
    · exact hselect
    · exact hselect
    · exact hinsert a hmem
    · exact hupdate a hmem
  | jsonColumnType _ _ _ hselect hinsert hupdate =>
    refine .wrapper rfl ?_
    intro a ha
    rcases mem_wrapperParameters ha with rfl | rfl | hmem | hmem
    -- what fills the gap of this wrapper is `string`
    · exact .primitive (by decide) (by decide)
    · exact hselect
    · exact hinsert a hmem
    · exact hupdate a hmem
  | generated _ ih => exact .wrapper rfl (by simpa [parameters] using ih)
  | generatedAlways _ ih => exact .wrapper rfl (by simpa [parameters] using ih)

theorem IsLegible.read_text (h : t.IsLegible) : read t.text = some t.fill := by
  have hread := h.readsBack.readType_eq (Nat.lt_succ_self _) (endsAt_nil 2)
  rw [List.append_nil] at hread
  rw [read, hread]

/-- A legible type can be read from its text, up to what its gaps are filled with, and two legible
types have the same text exactly if they are equal with their gaps filled. -/
theorem text_eq_iff {u : TypeExpr} (ht : t.IsLegible) (hu : u.IsLegible) :
    read t.text = some t.fill ∧ (t.text = u.text ↔ t.fill = u.fill) := by
  refine ⟨ht.read_text, ?_, ?_⟩
  · intro htext
    refine Option.some_inj.1 ?_
    rw [← ht.read_text, htext, hu.read_text]
  · intro hfill
    rw [← text_fill t, hfill, text_fill]

/-- A union of a wrapper and an array, with a literal that holds what ends types elsewhere. -/
def delimitersType (insert : Option TypeExpr) : TypeExpr :=
  union [.columnType string insert (some (.stringLiteral "a\" | b>, c")),
    .array (intersection [.primitive "A", .array (.primitive "B")])]

theorem isLegible_delimitersType {insert : Option TypeExpr} (h : ∀ t ∈ insert, t.IsLegible) :
    (delimitersType insert).IsLegible := by
  have hstring : string.IsLegible := .primitive (by decide) (by decide)
  have hmembers : ∀ t ∈ [TypeExpr.primitive "A", .array (.primitive "B")], t.IsLegible := by
    simp only [List.forall_mem_cons]
    exact ⟨.primitive (by decide) (by decide), .array (.primitive (by decide) (by decide)),
      fun _ hnil => by cases hnil⟩
  refine .union ?_ (Nat.le_refl 2)
  simp only [List.forall_mem_cons]
  refine ⟨.columnType hstring h ?_, .array (.intersection hmembers (by decide) (by decide)),
    fun _ hnil => by cases hnil⟩
  intro t ht
  cases ht
  exact .stringLiteral _

/-- The gap in the wrapper makes no difference for the text, and filling it makes the types
equal. -/
theorem text_eq_iff_delimitersType :
    read (delimitersType none).text = some (delimitersType (some string)) ∧
    ((delimitersType none).text = (delimitersType (some string)).text ↔
      (delimitersType none).fill = (delimitersType (some string)).fill) := by
  have hfill : (delimitersType none).fill = delimitersType (some string) := rfl
  have hgap : (delimitersType none).IsLegible := isLegible_delimitersType fun _ h => by cases h
  have hgiven : (delimitersType (some string)).IsLegible := by
    refine isLegible_delimitersType ?_
    intro t ht
    cases ht
    exact .primitive (by decide) (by decide)
  obtain ⟨hread, htext⟩ := text_eq_iff hgap hgiven
  exact ⟨hread.trans (congrArg some hfill), htext⟩

end TypeExpr

end SchemaTypes
