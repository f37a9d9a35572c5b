import SchemaTypes.Catalog.Affinity
import SchemaTypes.Proofs.Text.Occurrence

set_option autoImplicit false

/-! # Affinities by one scan

SQLite itself finds the affinity of a declared type in one pass over its characters: a keyword that
has just been read overwrites what the ones before it brought about, unless that is stronger, and
`INT` ends the scan. What the scan holds at any time is the strongest affinity of the keywords in
what has been read (`update_strongest`), so in whatever order and however entangled the keywords
stand, its result is that of the rules, which ask for one group of keywords after the other.

The main statement is `affinity_eq_scan_iff`: for declared types of ASCII characters the rules give
what the scan gives, blank ones excepted, which have the affinity of bytes by a rule of their own.
-/

namespace SchemaTypes.Sqlite

open Text

/-! ## The scan -/

/-- Affinities as they are found, the strongest first. -/
inductive Affinity where
  | integer
  | text
  | blob
  | real
  | numeric
  deriving DecidableEq

/-- The name of an affinity. -/
def Affinity.name : Affinity → String
  | .integer => "INTEGER"
  | .text => "TEXT"
  | .blob => "BLOB"
  | .real => "REAL"
  | .numeric => "NUMERIC"

/-- The last characters of what has been read are one of some keywords. -/
def endsIn (keywords : List String) (read : List Char) : Bool :=
  keywords.any fun keyword => keyword.toList.isSuffixOf read

/-- The affinity after one more character, `read` being all that has been read with it. -/
def Affinity.update (found : Affinity) (read : List Char) : Affinity :=
  if endsIn ["CHAR", "CLOB", "TEXT"] read then .text
  else if endsIn ["BLOB"] read && (found == .numeric || found == .real) then .blob
  else if endsIn ["REAL", "FLOA", "DOUB"] read && found == .numeric then .real
  else found

/-- Goes on with a scan that has found an affinity in what it has read. Letters are read in any
case. -/
def scanFrom (found : Affinity) (read : List Char) : List Char → Affinity
  | [] => found
  | c :: rest =>
    let read := read ++ [c.toUpper]
    if endsIn ["INT"] read then .integer else scanFrom (found.update read) read rest

/-- The affinity that a scan of a declared type finds. -/
def scan (declared : String) : Affinity := scanFrom .numeric [] declared.toList

/-! ## What the scan has found -/

/-- One of some keywords stands somewhere in a text. -/
def mentions (keywords : List String) (s : List Char) : Bool :=
  keywords.any fun keyword => contains keyword.toList s

/-- The strongest affinity of the keywords in a text, `INT` aside. -/
def strongest (s : List Char) : Affinity :=
  if mentions ["CHAR", "CLOB", "TEXT"] s then .text
  else if mentions ["BLOB"] s then .blob
  else if mentions ["REAL", "FLOA", "DOUB"] s then .real
  else .numeric

section

variable {read : List Char}

/-- A keyword in a longer text stands at its end or was there before. -/
theorem mentions_concat (keywords : List String) (read : List Char) (c : Char) :
    mentions keywords (read ++ [c])
      = (endsIn keywords (read ++ [c]) || mentions keywords read) := by
  have hone : ∀ keyword : List Char, contains keyword (read ++ [c])
      = (keyword.isSuffixOf (read ++ [c]) || contains keyword read) := by
    intro keyword
    rw [Bool.eq_iff_iff, Bool.or_eq_true, contains_iff_isInfix, contains_iff_isInfix,
      List.infix_concat_iff, List.isSuffixOf_iff_suffix]
  rw [mentions, endsIn, mentions, Bool.eq_iff_iff]
  simp only [hone, List.any_eq_true, Bool.or_eq_true]
  grind

theorem mentions_append {keywords : List String} (h : mentions keywords read = true)
    (rest : List Char) :
    mentions keywords (read ++ rest) = true := by
  rw [mentions, List.any_eq_true] at h ⊢
  obtain ⟨keyword, hmem, hkeyword⟩ := h
  rw [contains_iff_isInfix] at hkeyword
  exact ⟨keyword, hmem, contains_iff_isInfix.2 (List.infix_append_of_infix_left hkeyword)⟩

/-- One more character keeps the strongest affinity. -/
theorem update_strongest (c : Char) :
    (strongest read).update (read ++ [c]) = strongest (read ++ [c]) := by
  have htext := mentions_concat ["CHAR", "CLOB", "TEXT"] read c
  have hblob := mentions_concat ["BLOB"] read c
  have hreal := mentions_concat ["REAL", "FLOA", "DOUB"] read c
  simp only [strongest, Affinity.update]
  grind

/-- A scan ends with the strongest affinity of all that it reads. -/
theorem scanFrom_strongest (hread : mentions ["INT"] read = false) (rest : List Char) :
    scanFrom (strongest read) read rest
      = if mentions ["INT"] (read ++ rest.map Char.toUpper) then .integer
        else strongest (read ++ rest.map Char.toUpper) := by
  induction rest generalizing read with
  | nil => simp [scanFrom, hread]
  | cons c rest ih =>
    have hmore : read ++ (c :: rest).map Char.toUpper
        = (read ++ [c.toUpper]) ++ rest.map Char.toUpper := by simp
    have hint := mentions_concat ["INT"] read c.toUpper
    rw [hread, Bool.or_false] at hint
    rw [scanFrom, hmore]
    cases hends : endsIn ["INT"] (read ++ [c.toUpper]) with
    | true =>
      -- the keyword stays where it is in all that follows
      rw [hends] at hint
      rw [if_pos rfl, if_pos (mentions_append hint _)]
    | false =>
      rw [hends] at hint
      rw [if_neg (by decide), update_strongest, ih hint]

end

/-! ## The rules -/

/-- The rules give the strongest affinity of the keywords in the normal form of a declared type. -/
theorem affinity_eq_strongest {declared : String} (h : normalizedType declared ≠ []) :
    affinity declared = (if mentions ["INT"] (normalizedType declared) then .integer
      else strongest (normalizedType declared) : Affinity).name := by
  have hempty : (normalizedType declared).isEmpty = false := by simpa using h
  have hmentions : ∀ keywords : List String,
      (keywords.any fun word => contains word.toList (normalizedType declared))
        = mentions keywords (normalizedType declared) := fun _ => rfl
  simp only [affinity, affinityRules, hmentions, List.find?_cons, List.find?_nil, hempty, strongest]
  -- the first group of keywords that is there decides on both sides
  cases mentions ["INT"] (normalizedType declared) with
  | true => rfl
  | false =>
    cases mentions ["CHAR", "CLOB", "TEXT"] (normalizedType declared) with
    | true => rfl
    | false =>
      cases mentions ["BLOB"] (normalizedType declared) with
      | true => rfl
      | false => cases mentions ["REAL", "FLOA", "DOUB"] (normalizedType declared) <;> rfl

/-- A declared type with nothing but blanks in it is that of bytes. -/
theorem affinity_of_normalizedType_eq_nil {declared : String} (h : normalizedType declared = []) :
    affinity declared = "BLOB" := by
  simp only [affinity, h]
  decide

/-- No keyword stands in the blanks around a text. -/
theorem mentions_strip {keywords : List String}
    (h : ∀ keyword ∈ keywords, keyword.toList ≠ [] ∧ ∀ c ∈ keyword.toList, isBlank c = false)
    (s : List Char) :
    mentions keywords (strip s) = mentions keywords s := by
  rw [mentions, mentions, Bool.eq_iff_iff, List.any_eq_true, List.any_eq_true]
  refine exists_congr fun keyword => and_congr_right fun hmem => ?_
  obtain ⟨hne, hblank⟩ := h keyword hmem
  rw [contains_iff_isInfix, contains_iff_isInfix, infix_strip_iff hne hblank]

theorem strongest_strip (s : List Char) : strongest (strip s) = strongest s := by
  rw [strongest, strongest, mentions_strip (by decide), mentions_strip (by decide),
    mentions_strip (by decide)]

/-- Characters of ASCII are blank in any case. -/
theorem isBlank_toUpper {c : Char} (h : c.toNat < 128) : isBlank c.toUpper = isBlank c :=
  forall_ascii (p := fun c => isBlank c.toUpper = isBlank c) (by decide) h

/-- The rules find the affinity that a scan finds, unless the declared type is blank. -/
theorem affinity_eq_scan_iff (declared : String) (hascii : ∀ c ∈ declared.toList, c.toNat < 128) :
    affinity declared = (scan declared).name ↔ ∃ c ∈ declared.toList, isBlank c = false := by
  have htype : normalizedType declared = strip (declared.toList.map Char.toUpper) := by
    rw [normalizedType, upper_of_ascii hascii]
  have hstart : mentions ["INT"] [] = false := rfl
  have hscan : scan declared = if mentions ["INT"] (declared.toList.map Char.toUpper) then .integer
      else strongest (declared.toList.map Char.toUpper) :=
    scanFrom_strongest hstart declared.toList
  have hblank : normalizedType declared = [] ↔ ∀ c ∈ declared.toList, isBlank c = true := by
    rw [htype, strip_eq_nil_iff, List.forall_mem_map]
    exact forall₂_congr fun c hc => by rw [isBlank_toUpper (hascii c hc)]
  constructor
  · intro h
    by_contra hnone
    have hnil : normalizedType declared = [] := hblank.2 (by simpa using hnone)
    -- a blank type has no keywords, so that the scan ends as it began
    rw [affinity_of_normalizedType_eq_nil hnil, hscan, ← mentions_strip (by decide),
      ← strongest_strip, ← htype, hnil] at h
    exact absurd h (by decide)
  · rintro ⟨c, hc, hnot⟩
    have hne : normalizedType declared ≠ [] := by
      intro hnil
      exact absurd ((hblank.1 hnil c hc).symm.trans hnot) (by decide)
    rw [affinity_eq_strongest hne, hscan, htype, mentions_strip (by decide), strongest_strip]

/-- Three keywords, of which each overwrites the one before, and blanks around them. -/
theorem affinity_eq_scan_realBlobText :
    (∀ c ∈ "\t realBlobtExt\n".toList, c.toNat < 128) ∧
    (∃ c ∈ "\t realBlobtExt\n".toList, isBlank c = false) ∧
    affinity "\t realBlobtExt\n" = (scan "\t realBlobtExt\n").name ∧
    (scan "\t realBlobtExt\n").name = "TEXT" := by
  have hascii : ∀ c ∈ "\t realBlobtExt\n".toList, c.toNat < 128 := by decide
  have hsome : ∃ c ∈ "\t realBlobtExt\n".toList, isBlank c = false := by decide
  exact ⟨hascii, hsome, (affinity_eq_scan_iff _ hascii).2 hsome, by decide⟩

end SchemaTypes.Sqlite
