import SchemaTypes.Terminal.EmojiTable
import SchemaTypes.Text.Blank
import SchemaTypes.Text.Case
import SchemaTypes.Text.Percent
import SchemaTypes.Text.Split

set_option autoImplicit false

/-! # Emoji codes

An emoji can be written as its name between colons, in any case: `:snake:` is a snake. Behind the
name, `-emoji` asks for the colorful form and `-text` for the plain one. What is no name stays as it
is.
-/

namespace SchemaTypes.Terminal

/-- The character with the given digits of its code point. -/
def codePoint (digits : List Char) : Char :=
  Char.ofNat (digits.foldl (fun n d => 16 * n + (Text.Percent.hexValue d).getD 0) 0)

/-- Names and what the entries of rows say of them. -/
def entries (rows : List String) : List (List Char × List Char) :=
  rows.flatMap fun row => (Text.words (· == ' ') row.toList).map fun entry =>
    let (name, value) := Text.cutFirst '=' entry
    (name, value.getD [])

/-- The characters with the given code points. -/
def characters (codes : List Char) : List Char := (Text.words (· == '-') codes).map codePoint

/-- The tones of the skin, from light to dark, and the character behind an emoji that selects
each. -/
def tones : List (String × Char) :=
  [("light", Char.ofNat 0x1F3FB), ("medium-light", Char.ofNat 0x1F3FC),
   ("medium", Char.ofNat 0x1F3FD), ("medium-dark", Char.ofNat 0x1F3FE),
   ("dark", Char.ofNat 0x1F3FF)]

/-- An emoji in a tone: the tone follows its first character, in place of a selector of its form. -/
def inTone (tone : Char) : List Char → List Char
  | first :: '\uFE0F' :: rest => first :: tone :: rest
  | first :: rest => first :: tone :: rest
  | [] => []

/-- An emoji by its name and by its name in every tone. -/
def withTones (name emoji : List Char) : List (List Char × List Char) :=
  (name, emoji) :: tones.map fun (tone, selector) =>
    (name ++ ("_" ++ tone ++ "_skin_tone").toList, inTone selector emoji)

/-- The flag of the country with the given letters. -/
def flag (letters : List Char) : List Char :=
  letters.map fun c => Char.ofNat (0x1F1E6 + (c.toNat - 97))

/-- The emoji by name. -/
def emojiTable : List (List Char × List Char) :=
  (entries emojiRows).map (fun (name, codes) => (name, characters codes))
    ++ (entries tonedRows).flatMap (fun (name, codes) => withTones name (characters codes))
    ++ (entries flagRows).flatMap fun (name, letters) =>
      [(name, flag letters), ("flag_for_".toList ++ name, flag letters)]

/-- The forms that can be asked for, and the character behind the emoji that selects them. -/
def emojiForms : List (List Char × Char) :=
  [("-emoji".toList, '\uFE0F'), ("-text".toList, '\uFE0E')]

/-- A name without the form that is asked for, and the character that selects the form. -/
def cutForm (name : List Char) : List Char × List Char :=
  match emojiForms.find? fun (ending, _) => ending.isSuffixOf name with
  | some (ending, selector) => (name.take (name.length - ending.length), [selector])
  | none => (name, [])

/-- What stands between colons, as an emoji. -/
def emoji? (name : List Char) : Option (List Char) :=
  let (base, selector) := cutForm name
  (emojiTable.lookup (Text.lower base)).map (· ++ selector)

/-- What stands before the next colon, and what follows it; none if there is a blank before it. -/
def code? (s : List Char) : Option (List Char × List Char) :=
  match s.dropWhile fun c => c != ':' && !Text.isBlank c with
  | ':' :: after => some (s.takeWhile fun c => c != ':' && !Text.isBlank c, after)
  | _ => none

theorem length_lt_of_code? {s name after : List Char} (h : code? s = some (name, after)) :
    after.length < s.length := by
  rw [code?] at h
  split at h
  · rename_i tail heq
    have hlen := (List.dropWhile_suffix (l := s) fun c => c != ':' && !Text.isBlank c).length_le
    simp only [Option.some.injEq, Prod.mk.injEq] at h
    rw [heq, h.2] at hlen
    simp only [List.length_cons] at hlen
    omega
  · exact absurd h (by simp)

/-- A text with emoji in place of their codes. -/
def withEmoji : List Char → List Char
  | [] => []
  | c :: rest =>
    if c = ':' then
      match h : code? rest with
      | some (name, after) =>
        have := length_lt_of_code? h
        (emoji? name).getD (':' :: name ++ [':']) ++ withEmoji after
      | none => c :: withEmoji rest
    else c :: withEmoji rest
  termination_by s => s.length

end SchemaTypes.Terminal
