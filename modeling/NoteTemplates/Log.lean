import NoteTemplates.Text.Quoted
import NoteTemplates.Text.Decimal

/-!
# The log

What the program notes about its own work: events with a level, the part of the program
they come from, a message, and named values. An event is written as one line or as a list
of pairs.
-/

namespace NoteTemplates
namespace Log

/-- How much an event matters. -/
inductive Level where
  | debug
  | info
  | warning
  deriving DecidableEq, Repr

/-- The parts of the program that note events. -/
inductive Source where
  | catalog
  | questions
  | notes
  | notebook
  | files
  | editor
  | commandLine
  deriving DecidableEq, Repr

/-- A named value of an event. -/
inductive Value where
  | text (s : Text)
  | count (n : Nat)
  deriving DecidableEq, Repr

/-- An event. -/
structure Event where
  level : Level
  source : Source
  message : Text
  values : List (Text × Value)
  deriving DecidableEq, Repr

def Level.name : Level → Text
  | debug => "debug"
  | info => "info"
  | warning => "warning"

/-- The rank of a level. -/
def Level.rank : Level → Nat
  | debug => 10
  | info => 20
  | warning => 30

def Source.name : Source → Text
  | catalog => "jotr.templates.discovery"
  | questions => "jotr.templates.collector"
  | notes => "jotr.templates.creator"
  | notebook => "jotr.templates.engine.TemplateEngine"
  | files => "jotr.utils.file_utils"
  | editor => "jotr.utils.editor"
  | commandLine => "cli"

/-- The names of thresholds with the lowest rank that each lets through. -/
def thresholds : List (Text × Nat) :=
  [("CRITICAL", 50), ("FATAL", 50), ("ERROR", 40), ("WARNING", 30), ("WARN", 30),
   ("INFO", 20), ("DEBUG", 10), ("NOTSET", 0)]

/-- What a threshold can be named after that is no rank. -/
inductive ThresholdError where
  | linePattern
  | patternStyles
  deriving DecidableEq, Repr

/-- The names that stand for something else than a rank. -/
def reserved : List (Text × ThresholdError) :=
  [("BASIC_FORMAT", .linePattern), ("_STYLES", .patternStyles)]

/-- The pattern of a line, as it stands for one style after another. -/
def linePattern (before after : Text) : Text :=
  Text.joinWith ":" ((["levelname", "name", "message"] : List String).map fun name =>
    before ++ name.toList ++ after)

/-- A style of patterns with its class and its pattern, as a table shows them. -/
def styleEntry (mark style pattern : Text) : Text :=
  "'" ++ mark ++ "': (<class 'logging." ++ style ++ "'>, '" ++ pattern ++ "')"

def ThresholdError.message : ThresholdError → Text
  | linePattern => "Unknown level: '" ++ Log.linePattern "%(" ")s" ++ "'"
  | patternStyles =>
    "Level not an integer or a valid string: \x7b" ++
      Text.joinWith ", "
        [styleEntry "%" "PercentStyle" (Log.linePattern "%(" ")s"),
         styleEntry "\x7b" "StrFormatStyle" (Log.linePattern "\x7b" "\x7d"),
         styleEntry "$" "StringTemplateStyle" (Log.linePattern "$\x7b" "\x7d")] ++ "\x7d"

/-- The capitals of a character that may stand in the name of a threshold. -/
def capitals (c : Char) : Text :=
  match c with
  | 'ı' => ['I']
  | 'ſ' => ['S']
  | 'ﬅ' | 'ﬆ' => ['S', 'T']
  | c => [c.toUpper]

/--
The lowest rank that a threshold lets through. Unknown names let warnings through, reserved
ones are refused.
-/
def thresholdRank (name : Text) : Except ThresholdError Nat :=
  let name := name.flatMap capitals
  match reserved.lookup name with
  | some e => .error e
  | none => .ok ((thresholds.lookup name).getD Level.warning.rank)

/-- Whether a threshold lets an event through; a refused one lets none. -/
def admits (threshold : Text) (e : Event) : Bool :=
  match thresholdRank threshold with
  | .ok rank => rank ≤ e.level.rank
  | .error _ => false

/-- The events that a threshold lets through. -/
def visible (threshold : Text) (events : List Event) : List Event :=
  events.filter (admits threshold)

/-- Characters that make a value stand in quotes. -/
def needsQuotes (c : Char) : Bool :=
  c ∈ [' ', '\t', '=', '\r', '\n', '"', '\'']

/-- A value as a line shows it. -/
def Value.write : Value → Text
  | text s => if s.any needsQuotes then Text.quoted s else s
  | count n => Text.ofNat n

/-- The width of the message column of a line. -/
def messageWidth : Nat := 30

/-- The width of the level column of a line. -/
def levelWidth : Nat := 9

/-- An event as one line, its values in the order of their names. -/
def Event.line (e : Event) : Text :=
  let values := e.values.mergeSort fun a b => Text.le a.1 b.1
  "[" ++ Text.padRight levelWidth e.level.name ++ "] " ++
    Text.padRight messageWidth e.message ++ " [" ++ e.source.name ++ "]" ++
    values.flatMap fun (name, value) => (" " ++ name ++ "=" ++ value.write : Text)

/-- An event as pairs: its values, then its message, its source and its level. -/
def Event.pairs (e : Event) : List (Text × Value) :=
  let own : List (Text × Value) :=
    [("event", .text e.message), ("logger", .text e.source.name), ("level", .text e.level.name)]
  e.values ++ own

end Log
end NoteTemplates
