import NoteTemplates.Text.Blank
import NoteTemplates.Text.Decimal
import NoteTemplates.Text.Lower

/-!
# Styles

The names of styles in tags. A name is a list of words: attributes, which may be negated,
colours, a colour after `on` for the background, and a target after `link`. Names that say
the same in other words have one canonical form; a name that says nothing is only freed of
white space around it and of capitals. A colour given by three numbers must have numbers that
can be read, whatever comes after it.
-/

namespace NoteTemplates
namespace Style

/-- The words for attributes, with the names of the attributes. -/
def attributeWords : List (Text × Text) :=
  [("dim", "dim"), ("d", "dim"), ("bold", "bold"), ("b", "bold"), ("italic", "italic"),
   ("i", "italic"), ("underline", "underline"), ("u", "underline"), ("blink", "blink"),
   ("blink2", "blink2"), ("reverse", "reverse"), ("r", "reverse"), ("conceal", "conceal"),
   ("c", "conceal"), ("strike", "strike"), ("s", "strike"), ("underline2", "underline2"),
   ("uu", "underline2"), ("frame", "frame"), ("encircle", "encircle"),
   ("overline", "overline"), ("o", "overline")]

/-- The attributes in the order in which a canonical name has them. -/
def attributeOrder : List Text :=
  ["bold", "dim", "italic", "underline", "blink", "blink2", "reverse", "conceal", "strike",
   "underline2", "frame", "encircle", "overline"]

/-- The colours that have names. -/
def colourNames : List Text :=
  (["black", "red", "green", "yellow", "blue", "magenta", "cyan", "white", "bright_black",
   "bright_red", "bright_green", "bright_yellow", "bright_blue", "bright_magenta", "bright_cyan",
   "bright_white", "grey0", "gray0", "navy_blue", "dark_blue", "blue3", "blue1", "dark_green",
   "deep_sky_blue4", "dodger_blue3", "dodger_blue2", "green4", "spring_green4", "turquoise4",
   "deep_sky_blue3", "dodger_blue1", "green3", "spring_green3", "dark_cyan", "light_sea_green",
   "deep_sky_blue2", "deep_sky_blue1", "spring_green2", "cyan3", "dark_turquoise", "turquoise2",
   "green1", "spring_green1", "medium_spring_green", "cyan2", "cyan1", "dark_red", "deep_pink4",
   "purple4", "purple3", "blue_violet", "orange4", "grey37", "gray37", "medium_purple4",
   "slate_blue3", "royal_blue1", "chartreuse4", "dark_sea_green4", "pale_turquoise4",
   "steel_blue", "steel_blue3", "cornflower_blue", "chartreuse3", "cadet_blue", "sky_blue3",
   "steel_blue1", "pale_green3", "sea_green3", "aquamarine3", "medium_turquoise", "chartreuse2",
   "sea_green2", "sea_green1", "aquamarine1", "dark_slate_gray2", "dark_magenta", "dark_violet",
   "purple", "light_pink4", "plum4", "medium_purple3", "slate_blue1", "yellow4", "wheat4",
   "grey53", "gray53", "light_slate_grey", "light_slate_gray", "medium_purple",
   "light_slate_blue", "dark_olive_green3", "dark_sea_green", "light_sky_blue3", "sky_blue2",
   "dark_sea_green3", "dark_slate_gray3", "sky_blue1", "chartreuse1", "light_green",
   "pale_green1", "dark_slate_gray1", "red3", "medium_violet_red", "magenta3", "dark_orange3",
   "indian_red", "hot_pink3", "medium_orchid3", "medium_orchid", "medium_purple2",
   "dark_goldenrod", "light_salmon3", "rosy_brown", "grey63", "gray63", "medium_purple1",
   "gold3", "dark_khaki", "navajo_white3", "grey69", "gray69", "light_steel_blue3",
   "light_steel_blue", "yellow3", "dark_sea_green2", "light_cyan3", "light_sky_blue1",
   "green_yellow", "dark_olive_green2", "dark_sea_green1", "pale_turquoise1", "deep_pink3",
   "magenta2", "hot_pink2", "orchid", "medium_orchid1", "orange3", "light_pink3", "pink3",
   "plum3", "violet", "light_goldenrod3", "tan", "misty_rose3", "thistle3", "plum2", "khaki3",
   "light_goldenrod2", "light_yellow3", "grey84", "gray84", "light_steel_blue1", "yellow2",
   "dark_olive_green1", "honeydew2", "light_cyan1", "red1", "deep_pink2", "deep_pink1",
   "magenta1", "orange_red1", "indian_red1", "hot_pink", "dark_orange", "salmon1", "light_coral",
   "pale_violet_red1", "orchid2", "orchid1", "orange1", "sandy_brown", "light_salmon1",
   "light_pink1", "pink1", "plum1", "gold1", "navajo_white1", "misty_rose1", "thistle1",
   "yellow1", "light_goldenrod1", "khaki1", "wheat1", "cornsilk1", "grey100", "gray100", "grey3",
   "gray3", "grey7", "gray7", "grey11", "gray11", "grey15", "gray15", "grey19", "gray19",
   "grey23", "gray23", "grey27", "gray27", "grey30", "gray30", "grey35", "gray35", "grey39",
   "gray39", "grey42", "gray42", "grey46", "gray46", "grey50", "gray50", "grey54", "gray54",
   "grey58", "gray58", "grey62", "gray62", "grey66", "gray66", "grey70", "gray70", "grey74",
   "gray74", "grey78", "gray78", "grey82", "gray82", "grey85", "gray85", "grey89", "gray89",
   "grey93", "gray93"] : List String).map String.toList

/-- Whether a text is a hexadecimal numeral of six digits. -/
def isHexColour (s : Text) : Bool :=
  s.length = 6 && s.all fun c => c.isDigit || ('a' ≤ c && c ≤ 'f')

/-- The largest number of a byte. -/
def byteLimit : Int := 255

/-- Whether a text is a numeral of up to three digits that denotes a byte. -/
def isByte (s : Text) : Bool :=
  s.all Char.isDigit && s.length ≤ 3 &&
    match Text.readInt s with
    | .ok n => n ≤ byteLimit
    | .error _ => false

/-- Whether a text gives a colour by three numbers; each number must be one that can be read. -/
def isTriple (s : Text) : Except NumberError Bool := do
  let parts := Text.splitOn ',' s
  if s.isEmpty || parts.length ≠ 3 || !parts.all (·.all fun c => (Text.digitValue? c).isSome) then
    return false
  let components ← parts.mapM Text.readInt
  return components.all (· ≤ byteLimit)

/-- What stands in brackets after a word, if the text is that word with brackets. -/
def arguments? (word s : Text) : Option Text :=
  match Text.afterPrefix? (word ++ "(") s with
  | some rest => if rest.getLast? = some ')' then some rest.dropLast else none
  | none => none

/-- Whether a word in small letters is a colour. -/
def isColour (word : Text) : Except NumberError Bool :=
  if word = "default" || word ∈ colourNames then .ok true
  else
    match Text.afterPrefix? "#" word, arguments? "color" word, arguments? "rgb" word with
    | some digits, _, _ => .ok (isHexColour digits)
    | none, some number, _ => .ok (isByte number)
    | none, none, some numbers => isTriple numbers
    | none, none, none => .ok false

/-- What a name says. -/
structure Meaning where
  attributes : List (Text × Bool) := []
  colour : Option Text := none
  background : Option Text := none
  link : Option Text := none

/-- What words say in addition to what is known already, if they say something. -/
def read? : List Text → Meaning → Except NumberError (Option Meaning)
  | [], m => .ok (some m)
  | word :: words, m =>
    let plain := Text.lower word
    if plain = "on" then
      match words with
      | [] => .ok none
      | colour :: words => do
        let colour := Text.lower colour
        if ← isColour colour then read? words { m with background := some colour }
        else return none
    else if plain = "not" then
      match words with
      | [] => .ok none
      | trait :: words =>
        match attributeWords.lookup trait with
        | some a => read? words { m with attributes := (a, false) :: m.attributes }
        | none => .ok none
    else if plain = "link" then
      match words with
      | [] => .ok none
      | target :: words => read? words { m with link := some target }
    else
      match attributeWords.lookup plain with
      | some a => read? words { m with attributes := (a, true) :: m.attributes }
      | none => do
        if ← isColour plain then read? words { m with colour := some plain } else return none

/-- The words of the canonical name for a meaning. -/
def Meaning.words (m : Meaning) : List Text :=
  let trait (a : Text) : List Text :=
    match m.attributes.lookup a with
    | some true => [a]
    | some false => ["not", a]
    | none => []
  let background : List Text :=
    match m.background with
    | some colour => ["on", colour]
    | none => []
  let link : List Text :=
    match m.link with
    | some target => ["link", target]
    | none => []
  attributeOrder.flatMap trait ++ m.colour.toList ++ background ++ link

/-- The canonical form of a name. -/
def canonical (name : Text) : Except NumberError Text :=
  if Text.strip name = "none" || name.isEmpty then .ok "none"
  else do
    match ← read? (Text.words name) {} with
    | some m =>
      match m.words with
      | [] => return "none"
      | words => return Text.joinWith " " words
    | none => return Text.lower (Text.strip name)

end Style
end NoteTemplates
