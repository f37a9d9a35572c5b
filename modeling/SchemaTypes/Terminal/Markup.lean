import SchemaTypes.Terminal.Emoji
import SchemaTypes.Terminal.Reaction
import SchemaTypes.Terminal.Style

set_option autoImplicit false

/-! # Markup of terminal lines

A line that is printed may hold tags in brackets: `[red]` opens a style, `[/red]` or `[/]` closes
one. A tag behind a backslash is text. Tags are never shown; what is left after taking them out,
with emoji in place of their codes, is the plain text.
-/

namespace SchemaTypes.Terminal

/-- A piece of a line: plain text, or the content of a tag. -/
inductive Piece where
  | plain (text : List Char)
  | tag (content : List Char)
  deriving DecidableEq, Repr

/-- A character that a tag can start with. -/
def startsTag (c : Char) : Bool := c.isLower || c == '#' || c == '/' || c == '@'

/-- The content of the tag whose bracket has just been opened, and what follows the tag. -/
def tag? : List Char → Option (List Char × List Char)
  | [] => none
  | c :: rest =>
    if startsTag c then
      match rest.dropWhile fun d => d != '[' && d != ']' with
      | ']' :: after => some (c :: rest.takeWhile fun d => d != '[' && d != ']', after)
      | _ => none
    else none

theorem length_lt_of_tag? {s content after : List Char} (h : tag? s = some (content, after)) :
    after.length < s.length := by
  cases s with
  | nil => simp [tag?] at h
  | cons c rest =>
    rw [tag?] at h
    split at h
    · split at h
      · rename_i tail heq
        have hlen := (List.dropWhile_suffix (l := rest) fun d => d != '[' && d != ']').length_le
        simp only [Option.some.injEq, Prod.mk.injEq] at h
        rw [heq, h.2] at hlen
        simp only [List.length_cons] at hlen ⊢
        omega
      · exact absurd h (by simp)
    · exact absurd h (by simp)

/-- The pieces of a text that stands behind `run`, the text since the last tag from its end to its
start, and the given number of backslashes. Before a tag two backslashes count as one, and a single
one makes the tag text; before a bracket that opens no tag the last backslash is left out. -/
def pieces (run : List Char) (slashes : Nat) : List Char → List Piece
  | [] => [.plain (run.reverse ++ List.replicate slashes '\\')]
  | c :: rest =>
    if c = '\\' then pieces run (slashes + 1) rest
    else if c = '[' then
      match h : tag? rest with
      | some (content, after) =>
        have := length_lt_of_tag? h
        .plain run.reverse :: .plain (List.replicate (slashes / 2) '\\')
          :: (if slashes % 2 = 0 then .tag content else .plain ('[' :: content ++ [']']))
          :: pieces [] 0 after
      | none => pieces ('[' :: List.replicate (slashes - 1) '\\' ++ run) 0 rest
    else pieces (c :: List.replicate slashes '\\' ++ run) 0 rest
  termination_by s => s.length

/-- Why a line cannot be shown. -/
inductive MarkupError where
  /-- A tag that closes what is not open, or whose parameters cannot be read. -/
  | tag
  /-- The color of a tag cannot be read. -/
  | color (error : ColorError)
  deriving DecidableEq, Repr

/-- A tag that is open: the name of its style, its parameters, which stand behind an equals sign,
and how many characters are shown before it. -/
structure OpenTag where
  name : String
  parameters : Option (List Char)
  start : Nat
  deriving DecidableEq, Repr

/-- A stretch of a text with the style that it has. -/
structure Span where
  start : Nat
  stop : Nat
  style : List Char
  deriving DecidableEq, Repr

/-- A text with the styles of its parts. -/
structure StyledText where
  text : List Char
  spans : List Span
  deriving DecidableEq, Repr

namespace OpenTag

/-- A tag that says how the terminal reacts to the mouse. -/
def isReaction (tag : OpenTag) : Bool := tag.name.toList.head? == some '@'

/-- A tag can be closed. One that is a reaction has parameters that have to be readable. -/
def isReadable (tag : OpenTag) : Bool :=
  let parameters := tag.parameters.getD []
  !tag.isReaction || parameters.isEmpty || Reaction.isReadable parameters

/-- What a tag is about up to the given number of characters. -/
def span (tag : OpenTag) (stop : Nat) : Span where
  start := tag.start
  stop := stop
  style := tag.name.toList ++ (tag.parameters.map (' ' :: ·)).getD []

end OpenTag

/-- The first open tag that has the given name, or any name if none is given, and the other ones. -/
def close? (name : Option String) : List OpenTag → Option (OpenTag × List OpenTag)
  | [] => none
  | tag :: rest =>
    if name.all (· == tag.name) then some (tag, rest)
    else (close? name rest).map fun (found, others) => (found, tag :: others)

/-- The name of the style of a tag. -/
def styleName (text : List Char) : Except MarkupError String := (Style.nameOf text).mapError .color

/-- The tags that are open after a tag, the last one first, and the span that it closes; `shown` is
the number of characters before it. -/
def applyTag (shown : Nat) (opened : List OpenTag) (content : List Char) :
    Except MarkupError (List OpenTag × List Span) := do
  let (name, parameters) := Text.cutFirst '=' content
  match name with
  | '/' :: name =>
    let wanted ← if (Text.strip name).isEmpty then pure none else (styleName name).map some
    match close? wanted opened with
    | some (tag, rest) =>
      if tag.isReadable then return (rest, if tag.isReaction then [] else [tag.span shown])
      else throw .tag
    | none => throw .tag
  | name => return ({ name := ← styleName name, parameters, start := shown } :: opened, [])

/-- The bell, backspace, vertical tab, form feed and carriage return. -/
def isControl (c : Char) : Bool := c.toNat == 7 || c.toNat == 8 || (11 ≤ c.toNat && c.toNat ≤ 13)

/-- The text of pieces, some tags being open; `shown` is the number of characters before them. Tags
that are never closed go on to the end. -/
def styledOf (shown : Nat) (opened : List OpenTag) : List Piece → Except MarkupError StyledText
  | [] => .ok { text := [], spans := opened.map (OpenTag.span · shown) }
  | .plain text :: rest => do
    let text := (withEmoji text).filter fun c => !isControl c
    let styled ← styledOf (shown + text.length) opened rest
    return { styled with text := text ++ styled.text }
  | .tag content :: rest => do
    let (opened, spans) ← applyTag shown opened content
    let styled ← styledOf shown opened rest
    return { styled with spans := spans ++ styled.spans }

namespace StyledText

/-- The text that a line with markup stands for. -/
def ofMarkup (line : List Char) : Except MarkupError StyledText := styledOf 0 [] (pieces [] 0 line)

/-- The style of a span is asked for when the text is shown. In a text that is taken apart at line
ends or tabs these are the spans with something in them besides line ends. -/
def isShown (styled : StyledText) (span : Span) : Bool :=
  !(styled.text.contains '\n' || styled.text.contains '\t')
    || ((styled.text.drop span.start).take (span.stop - span.start)).any (· != '\n')

/-- The spans in the order in which they start, those that were closed last first. -/
def ordered (styled : StyledText) : List Span :=
  styled.spans.reverse.mergeSort fun a b => a.start ≤ b.start

/-- The text, if the styles of all spans that are shown can be read. -/
def plain (styled : StyledText) : Except MarkupError (List Char) := do
  (styled.ordered.filter styled.isShown).forM fun span => do
    let _ ← styleName span.style
  return styled.text

end StyledText

end SchemaTypes.Terminal
