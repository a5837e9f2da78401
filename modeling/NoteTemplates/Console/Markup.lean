import NoteTemplates.Console.Screen
import NoteTemplates.Console.Style

/-!
# Markup

Text for a console may hold tags: names of styles in square brackets. On a plain console
tags vanish. A closing tag must close a tag that is open, the one with its name or, without
a name, the last. What stands between a tag and the one that closes it, or the end, is a
span, and the style of every span must be one that can be read, unless the tag names a
handler, whose arguments must be taken by the screen if it is closed. A reverse solidus before
a tag makes it plain text. In every stretch of plain text by itself, the screen turns names
between colons into the pictures that it has. Text that is to be shown as it is can be escaped.
-/

namespace NoteTemplates
namespace Markup

/-- A tag as it stands in a text: the reverse solidi before it and what is in its brackets. -/
structure Tag where
  escapes : Nat
  body : Text
  deriving DecidableEq, Repr

namespace Tag

/-- The name of a tag: what is in its brackets up to an equals sign. -/
def name (t : Tag) : Text :=
  t.body.takeWhile (· ≠ '=')

/-- What follows the equals sign in the brackets of a tag. -/
def parameters (t : Tag) : Option Text :=
  (Text.splitFirst? '=' t.body).map (·.2)

/-- A tag without the reverse solidi before it. -/
def text (t : Tag) : Text :=
  '[' :: (t.body ++ [']'])

/-- The characters that a tag takes with the reverse solidi before it. -/
def length (t : Tag) : Nat :=
  t.escapes + t.text.length

end Tag

/-- Whether what is in brackets may begin with a character. -/
def beginsTag (c : Char) : Bool :=
  ('a' ≤ c && c ≤ 'z') || c = '#' || c = '/' || c = '@'

/-- Whether a character may stand further on in the brackets of a tag. -/
def isInside (c : Char) : Bool :=
  c ≠ '[' && c ≠ ']'

/-- The tag that a text begins with, and how many characters it has beyond its first. -/
def findTag (s : Text) : Option (Tag × Nat) :=
  match s.dropWhile (· = '\\') with
  | '[' :: c :: rest =>
    if beginsTag c then
      match rest.dropWhile isInside with
      | ']' :: _ =>
        let tag : Tag :=
          { escapes := (s.takeWhile (· = '\\')).length, body := c :: rest.takeWhile isInside }
        some (tag, tag.length - 1)
      | _ => none
    else none
  | _ => none

/-- A stretch of text without tags, or a tag. -/
inductive Segment where
  | plain (s : Text)
  | tag (t : Tag)
  deriving DecidableEq, Repr

/-- One more piece put before segments. -/
def Segment.cons : Text.Piece Tag → List Segment → List Segment
  | .found t, segments => .tag t :: segments
  | .plain c, .plain s :: segments => .plain (c :: s) :: segments
  | .plain c, segments => .plain [c] :: segments

/-- A text cut into its tags and what stands between them. -/
def segments (s : Text) : List Segment :=
  (Text.cut findTag 0 s).foldr Segment.cons []

/-- An open tag: its canonical name, its parameters, and the column behind which it stands. -/
structure Opened where
  name : Text
  parameters : Option Text
  column : Nat
  deriving DecidableEq, Repr

/-- The style of what stands in an open tag. -/
def Opened.style (o : Opened) : Text :=
  match o.parameters with
  | some parameters => o.name ++ " " ++ parameters
  | none => o.name

/-- A stretch of what is shown, from one column to another, and its style. -/
structure Span where
  first : Nat
  last : Nat
  style : Text
  deriving DecidableEq, Repr

/-- The span of a tag that is closed behind a column. -/
def Opened.span (o : Opened) (column : Nat) : Span :=
  { first := o.column, last := column, style := o.style }

/-- What the names of tags with handlers begin with. -/
def handlerMark : Text := "@"

/-- The spans of a tag that a closing tag closes behind a column; a handler needs no style. -/
def Opened.close (screen : Screen) (o : Opened) (column : Nat) :
    Except MarkupError (List Span) := do
  if Text.startsWith handlerMark o.name then
    match o.parameters with
    | none | some [] => return []
    | some parameters =>
      screen.handlers parameters
      return []
  else return [o.span column]

/-- The tag with a name, and the others; the tag opened last is the first of the list. -/
def close? (name : Text) : List Opened → Option (Opened × List Opened)
  | [] => none
  | o :: opened =>
    if o.name = name then some (o, opened)
    else (close? name opened).map fun (found, opened) => (found, o :: opened)

/-- The tag that a closing tag at a position closes, and the others; a name may be missing. -/
def closed (position : Nat) (t : Tag) (name : Text) (opened : List Opened) :
    Except Failure (Opened × List Opened) := do
  if name.isEmpty then
    match opened with
    | [] => throw (.markup (.nothingOpen position))
    | o :: opened => return (o, opened)
  else
    let name ← (Style.canonical name).mapError Failure.number
    match close? name opened with
    | some result => return result
    | none => throw (.markup (.notOpen t.text position))

/-- What has been read of a text: what it shows, its spans, and the tags that are open. -/
structure Progress where
  shown : Text := []
  spans : List Span := []
  opened : List Opened := []
  deriving DecidableEq, Repr

namespace Progress

/-- More text is shown. -/
def append (p : Progress) (s : Text) : Progress :=
  { p with shown := p.shown ++ s }

/-- A tag that stands at a position opens or closes a span. -/
def apply (screen : Screen) (p : Progress) (position : Nat) (t : Tag) :
    Except Failure Progress := do
  match t.name with
  | '/' :: name =>
    let (o, opened) ← closed position t (Text.strip name) p.opened
    let spans ← (o.close screen p.shown.length).mapError Failure.markup
    return { p with opened, spans := p.spans ++ spans }
  | name =>
    let name ← (Style.canonical name).mapError Failure.number
    let o : Opened := { name, parameters := t.parameters, column := p.shown.length }
    return { p with opened := o :: p.opened }

/-- All spans, those of the tags that nothing closes with them. -/
def allSpans (p : Progress) : List Span :=
  p.spans ++ p.opened.map (·.span p.shown.length)

end Progress

/-- Whether a console leaves a character out. -/
def isDropped (c : Char) : Bool :=
  c = '\x07' || c = '\x08' || c = '\x0b' || c = '\x0c' || c = '\r'

/-- What a console shows of a text without the characters that it leaves out. -/
def visible (s : Text) : Text :=
  s.filter fun c => !isDropped c

/-- What a screen shows of a stretch of plain text. -/
def drawn (screen : Screen) (s : Text) : Text :=
  visible (screen.pictures s)

/-- Reads segments that begin at a position. -/
def readFrom (screen : Screen) : Nat → Progress → List Segment → Except Failure Progress
  | _, p, [] => .ok p
  | position, p, .plain s :: rest =>
    readFrom screen (position + s.length)
      (p.append (drawn screen (Text.replaceAll "\\[" "[" s))) rest
  | position, p, .tag t :: rest =>
    let p := p.append (List.replicate (t.escapes / 2) '\\')
    if t.escapes % 2 = 1 then
      readFrom screen (position + t.length) (p.append (drawn screen t.text)) rest
    else
      match p.apply screen (position + t.escapes) t with
      | .error f => .error f
      | .ok p => readFrom screen (position + t.length) p rest

/--
Whether a console looks at the style of a span. In a text that is cut at its line feeds and
tabs it only looks at spans that hold something else than a line feed.
-/
def Span.isSeen (shown : Text) (span : Span) : Bool :=
  if shown.any fun c => c = '\n' || c = '\t' then
    ((shown.take span.last).drop span.first).any (· ≠ '\n')
  else true

/-- Refuses spans whose style cannot be read; the one that begins first is the first. -/
def checkSpans (shown : Text) (spans : List Span) : Except NumberError Unit :=
  let seen := spans.reverse.filter (·.isSeen shown)
  (seen.mergeSort fun a b => a.first ≤ b.first).forM fun span =>
    (Style.canonical span.style).map fun _ => ()

/-- What a plain console shows of a text with tags, before it is laid out. -/
def plain (screen : Screen) (s : Text) : Except Failure Text := do
  let p ← readFrom screen 0 {} (segments s)
  (checkSpans p.shown p.allSpans).mapError Failure.number
  return p.shown

/-- A text with tags that shows another text as it is. -/
def escape (s : Text) : Text :=
  let write (t : Tag) : Text := List.replicate (2 * t.escapes + 1) '\\' ++ t.text
  let escaped := (Text.cut findTag 0 s).flatMap (Text.Piece.write write)
  if Text.endsWith "\\" escaped && !Text.endsWith "\\\\" escaped then escaped ++ "\\" else escaped

end Markup
end NoteTemplates
