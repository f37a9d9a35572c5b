import SchemaTypes.Proofs.Assembly.Names
import SchemaTypes.Proofs.Naming.Singular
import SchemaTypes.Proofs.Naming.Words
import SchemaTypes.Proofs.Text.Cutting
import SchemaTypes.Proofs.Text.PropertyName

set_option autoImplicit false

/-! # Class names of ordinary tables

Where the name of a table is made of ASCII letters, digits and underscores and starts with a letter,
the same holds of the name with its last piece in the singular, since a singular starts like the
word or is itself made of letters. Of such a name the words hold no underscore any more, and the
first of them starts with the letter that the name starts with, so that the class starts with a
capital and goes on with letters and digits.

The main statement is `isClassName_classify`: classes of ordinary tables are named so, and every
name that is declared for such tables is one that TypeScript takes as the name of a type.
-/

namespace SchemaTypes.Naming

open Text

/-! ## Names -/

/-- A letter or digit of ASCII, or an underscore. -/
def isNameChar (c : Char) : Bool := c.isAlphanum || c == '_'

/-- The name starts with a letter of ASCII and goes on with such letters, digits and underscores. -/
def IsOrdinary (name : String) : Prop :=
  name.toList.head?.any Char.isAlpha = true ∧ Consists isNameChar name

/-- The name starts with a capital of ASCII and goes on with letters and digits of ASCII. -/
def IsClassName (name : String) : Prop :=
  name.toList.head?.any Char.isUpper = true ∧ Consists Char.isAlphanum name

instance (name : String) : Decidable (IsOrdinary name) := inferInstanceAs (Decidable (_ ∧ _))

instance (name : String) : Decidable (IsClassName name) := inferInstanceAs (Decidable (_ ∧ _))

theorem head?_any_append {p : Char → Bool} {a : String} (h : a.toList.head?.any p = true)
    (b : String) : (a ++ b).toList.head?.any p = true := by
  obtain ⟨c, rest, hlist, hc⟩ := head?_any_iff.1 h
  have happend : (a ++ b).toList = c :: (rest ++ b.toList) := by
    rw [String.toList_append, hlist, List.cons_append]
  exact head?_any_iff.2 ⟨c, rest ++ b.toList, happend, hc⟩

theorem IsClassName.append {a b : String} (ha : IsClassName a) (hb : Consists Char.isAlphanum b) :
    IsClassName (a ++ b) :=
  ⟨head?_any_append ha.1 b, ha.2.append hb⟩

/-! ## Words -/

theorem isAlphanum_of_mem_wordsOf {s word : List Char} (hs : ∀ c ∈ s, isNameChar c = true)
    (h : word ∈ wordsOf s) :
    ∀ c ∈ word, c.isAlphanum = true := by
  intro c hc
  obtain ⟨hmarked, hseparator⟩ := (mem_words h).2 c hc
  have hunderscore : c ≠ '_' := by
    rintro rfl
    exact absurd hseparator (by decide)
  have hname : isNameChar c = true := hs c ((mem_markHumps hmarked).resolve_right hunderscore)
  simpa [isNameChar, hunderscore] using hname

theorem isAlphanum_of_mem_capitalizeWord {word : List Char} (h : ∀ c ∈ word, c.isAlphanum = true) :
    ∀ c ∈ capitalizeWord word, c.isAlphanum = true := by
  have hcase : ∀ c : Char, c.isAlphanum = true →
      c.toUpper.isAlphanum = true ∧ c.toLower.isAlphanum = true :=
    fun c hc => forall_alphanum (q := fun c => c.toUpper.isAlphanum = true ∧
      c.toLower.isAlphanum = true) (by decide) hc
  cases word with
  | nil => exact h
  | cons c rest =>
    rw [capitalizeWord_of_alphanum h, List.forall_mem_cons, List.forall_mem_map]
    rw [List.forall_mem_cons] at h
    exact ⟨(hcase c h.1).1, fun d hd => (hcase d (h.2 d hd)).2⟩

theorem consists_pascal {name : String} (h : Consists isNameChar name) :
    Consists Char.isAlphanum (pascal name) := by
  intro c hc
  rw [pascal_eq, String.toList_ofList, List.mem_flatMap] at hc
  obtain ⟨word, hword, hmem⟩ := hc
  exact isAlphanum_of_mem_capitalizeWord (isAlphanum_of_mem_wordsOf h hword) c hmem

/-- The first word starts with the letter that the name starts with. -/
theorem head_wordsOf {c : Char} (hc : c.isAlpha = true) (rest : List Char) :
    ∃ word more, wordsOf (c :: rest) = (c :: word) :: more := by
  have hmarks : markHumps (c :: rest) = c :: (joint [c] rest ++ markHumps rest) :=
    markHumps_append [c] rest
  rw [wordsOf, hmarks]
  exact words_cons_of_neg (isSeparator_of_isAlphanum (isAlphanum_of_isAlpha hc)) _

theorem isClassName_pascal {name : String} (h : IsOrdinary name) : IsClassName (pascal name) := by
  refine ⟨?_, consists_pascal h.2⟩
  obtain ⟨c, rest, hlist, hc⟩ := head?_any_iff.1 h.1
  obtain ⟨word, more, hwords⟩ := head_wordsOf hc rest
  have hpascal : (pascal name).toList
      = c.toUpper :: (lower word ++ more.flatMap capitalizeWord) := by
    rw [pascal_eq, String.toList_ofList, hlist, hwords, List.flatMap_cons, capitalizeWord,
      upperChar_of_ascii (ascii_of_isAlphanum (isAlphanum_of_isAlpha hc))]
    rfl
  exact head?_any_iff.2 ⟨_, _, hpascal, (toUpper_of_isAlpha hc).1⟩

/-! ## Singulars -/

/-- A singular from the table is ordinary by itself, and of any other word a part is kept. -/
theorem isOrdinary_or_kept (word : String) :
    IsOrdinary (singularize word) ∨
    ∃ kept, kept <+: word.toList ∧ (word ≠ "" → kept ≠ []) ∧
      ((singularize word).toList = kept ∨ (singularize word).toList = kept ++ ['y']) := by
  have htable : ∀ entry ∈ irregular, IsOrdinary entry.2 ∧
      IsOrdinary (capitalized entry.2) := by decide
  rcases singularize_cases word with ⟨entry, hentry, hsingular | hsingular⟩ | hkept
  · exact Or.inl (hsingular ▸ (htable entry hentry).1)
  · exact Or.inl (hsingular ▸ (htable entry hentry).2)
  · exact Or.inr hkept

theorem consists_singularize {word : String} (h : Consists isNameChar word) :
    Consists isNameChar (singularize word) := by
  rcases isOrdinary_or_kept word with hordinary | ⟨kept, hstarts, _, hsingular⟩
  · exact hordinary.2
  · have hkept : ∀ c ∈ kept, isNameChar c = true := fun c hc => h c (hstarts.subset hc)
    intro c hc
    rcases hsingular with hsingular | hsingular
    · rw [hsingular] at hc
      exact hkept c hc
    · rw [hsingular, List.mem_append, List.mem_singleton] at hc
      rcases hc with hc | rfl
      · exact hkept c hc
      · decide

theorem isOrdinary_singularize {word : String} (h : IsOrdinary word) :
    IsOrdinary (singularize word) := by
  rcases isOrdinary_or_kept word with hordinary | ⟨kept, ⟨after, hword⟩, hne, hsingular⟩
  · exact hordinary
  · -- the first character of the word is the first of what is kept
    refine ⟨?_, consists_singularize h.2⟩
    have hnonempty : word ≠ "" := by
      rintro rfl
      cases h.1
    obtain ⟨c, rest, rfl⟩ := List.exists_cons_of_ne_nil (hne hnonempty)
    have hc := h.1
    rw [← hword] at hc
    rcases hsingular with hsingular | hsingular
    · rw [hsingular]
      exact hc
    · rw [hsingular]
      exact hc

/-- The class of an ordinary table has the name of a class. -/
theorem isClassName_classify_of_isOrdinary {name : String} (h : IsOrdinary name) :
    IsClassName (classify name) := by
  rcases classify_cases name with hclassify | ⟨p, w, rfl, hclassify⟩
  · exact hclassify ▸ isClassName_pascal (isOrdinary_singularize h)
  · have hparts : Consists isNameChar p ∧ Consists isNameChar w := by
      have hall := h.2
      simp only [Consists, String.toList_append, List.forall_mem_append] at hall
      exact ⟨hall.1.1, hall.2⟩
    have hp : IsOrdinary p := by
      refine ⟨?_, hparts.1⟩
      obtain ⟨c, rest, hlist, hc⟩ := head?_any_iff.1 h.1
      rw [String.append_assoc, String.toList_append, String.toList_append] at hlist
      cases hp : p.toList with
      | nil =>
        -- a name that starts with an underscore starts with no letter
        rw [hp] at hlist
        obtain ⟨rfl, _⟩ := List.cons.inj hlist
        exact absurd hc (by decide)
      | cons d more =>
        rw [hp] at hlist
        obtain ⟨rfl, _⟩ := List.cons.inj hlist
        exact hc
    rw [hclassify]
    exact (isClassName_pascal hp).append (consists_pascal (consists_singularize hparts.2))

/-! ## Names of types -/

/-- Words that TypeScript does not take as names of types: the reserved words, those reserved in
modules, and the names of its own types. -/
def reservedWords : List String :=
  ["break", "case", "catch", "class", "const", "continue", "debugger", "default", "delete", "do",
   "else", "enum", "export", "extends", "false", "finally", "for", "function", "if", "import",
   "in", "instanceof", "new", "null", "return", "super", "switch", "this", "throw", "true", "try",
   "typeof", "var", "void", "while", "with", "implements", "interface", "let", "package",
   "private", "protected", "public", "static", "yield", "await", "any", "unknown", "never",
   "string", "number", "bigint", "boolean", "symbol", "object", "undefined"]

/-- The name is one that TypeScript takes as the name of a type. -/
def NamesType (alphabet : Alphabet) (name : String) : Prop :=
  alphabet.IsIdentifier name ∧ name ∉ reservedWords

theorem IsClassName.namesType {name : String} (h : IsClassName name) (alphabet : Alphabet) :
    NamesType alphabet name := by
  have hascii : ∀ c ∈ name.toList, c.toNat < 128 := fun c hc => ascii_of_isAlphanum (h.2 c hc)
  refine ⟨⟨?_, ?_⟩, ?_⟩
  · obtain ⟨c, rest, hlist, hupper⟩ := head?_any_iff.1 h.1
    have hc : c.toNat < 128 := hascii c (by rw [hlist]; exact List.mem_cons_self)
    exact head?_any_iff.2 ⟨c, rest, hlist,
      by simp [Alphabet.isStart, hc, isAlpha_of_isUpper hupper]⟩
  · rw [List.all_eq_true]
    intro c hc
    have hmem := List.mem_of_mem_tail hc
    simp [Alphabet.isPart, hascii c hmem, h.2 c hmem]
  · -- no reserved word starts with a capital
    have hlower : ∀ word ∈ reservedWords, word.toList.head?.any Char.isUpper = false := by decide
    intro hmem
    exact absurd (h.1.symm.trans (hlower name hmem)) (by decide)

theorem IsClassName.classNames {c : String} (h : IsClassName c) :
    ∀ name ∈ Assembly.classNames c, IsClassName name := by
  simp only [Assembly.classNames, List.forall_mem_cons]
  refine ⟨h.append (by decide), h, ?_, h.append (by decide), by simp⟩
  have hnew : IsClassName "New" := by decide
  exact hnew.append h.2

/-- The class of an ordinary table is named by a capital and then letters and digits. Where all
tables are ordinary, the module can be assembled, and every name that it declares, four for each
table, is one that TypeScript takes as the name of a type. -/
theorem isClassName_classify :
    (∀ name, IsOrdinary name → IsClassName (classify name)) ∧
    ∀ (alphabet : Alphabet) (tables : List TypedTable),
      (∀ table ∈ tables, ∃ name, table.name = .text name ∧ IsOrdinary name) →
      ∃ declarations, Assembly.assemble classify tables = .ok declarations ∧
        declaredNames declarations
          = "Database" :: tables.flatMap
            (fun table => Assembly.classNames (classify table.name.shown)) ∧
        ∀ name ∈ declaredNames declarations, NamesType alphabet name := by
  refine ⟨fun name h => isClassName_classify_of_isOrdinary h, fun alphabet tables h => ?_⟩
  have hnames : ∀ table ∈ tables, ∃ name, table.name = .text name := fun table htable =>
    (h table htable).imp fun _ hname => hname.1
  obtain ⟨declarations, hassemble, hdeclared⟩ := Assembly.exists_declaredNames classify hnames
  refine ⟨declarations, hassemble, hdeclared, ?_⟩
  -- the name of the database and the four names of a class are themselves named like classes
  rw [hdeclared, List.forall_mem_cons]
  have hdatabase : IsClassName Assembly.databaseName := by decide
  refine ⟨hdatabase.namesType alphabet, fun name hname => ?_⟩
  obtain ⟨table, htable, hmem⟩ := List.mem_flatMap.1 hname
  obtain ⟨tableName, htext, hordinary⟩ := h table htable
  have hshown : table.name.shown = tableName := by rw [htext]; rfl
  rw [hshown] at hmem
  exact ((isClassName_classify_of_isOrdinary hordinary).classNames name hmem).namesType alphabet

/-- Digits, a doubled underscore, capitals and an irregular plural at once. -/
theorem isClassName_classify_user2_people :
    IsOrdinary "user2__PEOPLE" ∧ IsClassName (classify "user2__PEOPLE") ∧
    (∀ table ∈ [({ name := "user2__PEOPLE" } : TypedTable)],
      ∃ name, table.name = .text name ∧ IsOrdinary name) ∧
    ∃ declarations, Assembly.assemble classify [{ name := "user2__PEOPLE" }] = .ok declarations ∧
      declaredNames declarations
        = ["Database", "User2PersonTable", "User2Person", "NewUser2Person", "User2PersonUpdate"] ∧
      ∀ name ∈ declaredNames declarations, NamesType ⟨fun _ => false, fun _ => false⟩ name := by
  have hordinary : IsOrdinary "user2__PEOPLE" := by decide
  have htables : ∀ table ∈ [({ name := "user2__PEOPLE" } : TypedTable)],
      ∃ name, table.name = .text name ∧ IsOrdinary name :=
    List.forall_mem_singleton.2 ⟨_, rfl, hordinary⟩
  obtain ⟨declarations, hassemble, hdeclared, hnames⟩ :=
    isClassName_classify.2 ⟨fun _ => false, fun _ => false⟩ [{ name := "user2__PEOPLE" }] htables
  exact ⟨hordinary, isClassName_classify.1 _ hordinary, htables, declarations, hassemble,
    hdeclared.trans (by decide +kernel), hnames⟩

end SchemaTypes.Naming
