import NoteTemplates.Bindings
import NoteTemplates.Text.Blank
import NoteTemplates.Text.Utf8

/-!
# Files of settings

A file of settings gives names values, a line each: an optional `export`, a name, an equals
sign and a value, which may be quoted and may then go over several lines; a number sign
after white space begins a comment. A statement that cannot be read is skipped to the end of
its line and its line is kept; a byte order mark before the first is skipped. In values, a
name in braces after a dollar sign stands for its value, with a default after `:-`.
-/

namespace NoteTemplates
namespace SettingsFile

/-- White space within a line. -/
def isGap (c : Char) : Bool :=
  Text.isBlank c && c ≠ '\r' && c ≠ '\n'

/-- Whether a character ends a line. -/
def isLineEnd (c : Char) : Bool :=
  c = '\r' || c = '\n'

/-- What follows the end of a line, if the line ends here. -/
def lineEnd? : Text → Option Text
  | [] => some []
  | '\r' :: '\n' :: s => some s
  | c :: s => if isLineEnd c then some s else none

/-- What follows the present line. -/
def skipLine (s : Text) : Text :=
  match s.dropWhile fun c => !isLineEnd c with
  | [] => []
  | _ :: s => s

/-- What follows the word `export` and white space, if the text begins with them. -/
def skipExport (s : Text) : Text :=
  match Text.afterPrefix? "export" s with
  | some (c :: rest) => if isGap c then rest.dropWhile isGap else s
  | _ => s

/-- Whether a character may stand in a name without quotes. -/
def isKeyChar (c : Char) : Bool :=
  c ≠ '=' && c ≠ '#' && !Text.isBlank c

/-- A name and what follows it; a comment has no name. -/
def readKey? (s : Text) : Option (Option Text × Text) :=
  match s with
  | '#' :: _ => some (none, s)
  | '\'' :: rest =>
    match Text.splitFirst? '\'' rest with
    | some (c :: key, after) => some (some (c :: key), after)
    | _ => none
  | s =>
    match s.takeWhile isKeyChar with
    | [] => none
    | key => some (some key, s.dropWhile isKeyChar)

/--
What stands before the closing quotation mark and what follows it. A backslash takes the
character after it along, so that neither closes.
-/
def readQuoted? (mark : Char) : Text → Option (Text × Text)
  | [] => none
  | '\\' :: [] => none
  | '\\' :: c :: s => (readQuoted? mark s).map fun (value, rest) => ('\\' :: c :: value, rest)
  | c :: s =>
    if c = mark then some ([], s)
    else (readQuoted? mark s).map fun (value, rest) => (c :: value, rest)

/-- The character that an escape between double quotes stands for. -/
def escapes : List (Char × Char) :=
  [('\\', '\\'), ('\'', '\''), ('"', '"'), ('a', '\x07'), ('b', '\x08'), ('f', '\x0c'),
   ('n', '\n'), ('r', '\r'), ('t', '\t'), ('v', '\x0b')]

/-- The character that an escape between single quotes stands for. -/
def plainEscapes : List (Char × Char) :=
  [('\\', '\\'), ('\'', '\'')]

/-- Every escape of a table replaced by its character; others stay. -/
def unescape (table : List (Char × Char)) : Text → Text
  | [] => []
  | [c] => [c]
  | c :: d :: s =>
    if c = '\\' then
      match table.lookup d with
      | some e => e :: unescape table s
      | none => c :: unescape table (d :: s)
    else c :: unescape table (d :: s)

/-- A value without quotes, up to white space before a number sign. -/
def beforeComment : Text → Text
  | [] => []
  | c :: s =>
    if Text.isBlank c && (s.dropWhile Text.isBlank).head? = some '#' then []
    else c :: beforeComment s

/--
A value and what follows it, read from behind the equals sign. Where a comment begins after
white space the value is empty.
-/
def readValue? (s : Text) : Option (Text × Text) :=
  match s.dropWhile isGap with
  | '\'' :: rest =>
    (readQuoted? '\'' rest).map fun (value, rest) => (unescape plainEscapes value, rest)
  | '"' :: rest =>
    (readQuoted? '"' rest).map fun (value, rest) => (unescape escapes value, rest)
  | value =>
    if value.head? = some '#' && s.head? ≠ some '#' then some ([], value)
    else
      let line := value.takeWhile fun c => !isLineEnd c
      some (Text.stripRight (beforeComment line), value.dropWhile fun c => !isLineEnd c)

/-- What follows a comment, if there is one after white space. -/
def skipComment (s : Text) : Text :=
  match s.dropWhile isGap with
  | '#' :: rest => rest.dropWhile fun c => !isLineEnd c
  | _ => s

/-- A name with the value that a file gives it, if any. -/
abbrev Binding := Text × Option Text

/-- What one statement of a file says. -/
inductive Statement where
  | binding (b : Binding)
  | comment
  | unreadable
  deriving DecidableEq, Repr

/-- Reads one statement, and what follows it. The text does not begin with white space. -/
def readStatement (s : Text) : Statement × Text :=
  let s := skipExport s
  match readKey? s with
  | none => (.unreadable, skipLine s)
  | some (key, rest) =>
    let rest := rest.dropWhile isGap
    let value : Option (Option Text × Text) :=
      match rest with
      | '=' :: after => (readValue? after).map fun (v, rest) => (some v, rest)
      | rest => some (none, rest)
    match value with
    | none => (.unreadable, skipLine (afterSign rest))
    | some (value, rest) =>
      let rest := skipComment rest
      match lineEnd? (rest.dropWhile isGap) with
      | none => (.unreadable, skipLine rest)
      | some rest => ((key.map fun key => .binding (key, value)).getD .comment, rest)
where
  afterSign : Text → Text
    | '=' :: after => after.dropWhile isGap
    | s => s

/-- How many lines end within the beginning of a text that is followed by the rest. -/
def linesBefore (s rest : Text) : Nat :=
  (s.take (s.length - rest.length)).count '\n'

/--
The statements of a text whose first line has the given number, each with the number of the
line in which it begins, the white space before it included; at most as many are read as the
first number says.
-/
def readAll : Nat → Nat → Text → List (Nat × Statement)
  | 0, _, _ => []
  | budget + 1, line, s =>
    match s.dropWhile Text.isBlank with
    | [] => []
    | start =>
      let (statement, rest) := readStatement start
      (line, statement) :: readAll budget (line + linesBefore s rest) rest

/-- A name in braces after a dollar sign, with the default that follows it, if any. -/
structure Reference where
  name : Text
  fallback : Option Text

/-- The reference that a text begins with, and how many characters it has beyond its first. -/
def findReference (s : Text) : Option (Reference × Nat) :=
  match s with
  | '$' :: '\x7b' :: rest =>
    let name := rest.takeWhile fun c => c ≠ '\x7d' && c ≠ ':'
    match rest.dropWhile fun c => c ≠ '\x7d' && c ≠ ':' with
    | '\x7d' :: _ => some (⟨name, none⟩, name.length + 2)
    | ':' :: '-' :: after =>
      let fallback := after.takeWhile (· ≠ '\x7d')
      match after.dropWhile (· ≠ '\x7d') with
      | '\x7d' :: _ => some (⟨name, some fallback⟩, name.length + fallback.length + 4)
      | _ => none
    | _ => none
  | _ => none

/-- The value that a reference stands for. -/
def Reference.value (environment : Bindings) (found : Table (Option Text)) (r : Reference) : Text :=
  match found.get? r.name with
  | some value => value.getD []
  | none => ((environment.get? r.name).or r.fallback).getD []

/-- Bindings put into a table one after the other, the references in their values resolved. -/
def resolve (environment : Bindings) : Table (Option Text) → List Binding → Table (Option Text)
  | found, [] => found
  | found, (name, none) :: rest => resolve environment (found.put name none) rest
  | found, (name, some value) :: rest =>
    let pieces := Text.cut findReference 0 value
    let value := pieces.flatMap (Text.Piece.write (Reference.value environment found))
    resolve environment (found.put name (some value)) rest

/-- The mark that may stand before the first character of a file. -/
def byteOrderMark : Char := '\ufeff'

/-- A text without the byte order mark that it may begin with. -/
def dropMark : Text → Text
  | [] => []
  | c :: s => if c = byteOrderMark then s else c :: s

/-- The statements of a text. -/
def statements (s : Text) : List (Nat × Statement) :=
  let s := Text.unifyLineEnds (dropMark s)
  readAll (s.length + 1) 1 s

end SettingsFile

/-- What a file of settings says: its names with their values, and the lines it is wrong in. -/
structure SettingsFile where
  values : Table (Option Text) := []
  unreadable : List Nat := []
  deriving DecidableEq, Repr

namespace SettingsFile

/-- What a text says. -/
def parse (environment : Bindings) (s : Text) : SettingsFile :=
  let statements := statements s
  { values := resolve environment [] (statements.filterMap fun (_, statement) =>
      match statement with
      | .binding b => some b
      | _ => none)
    unreadable := statements.filterMap fun (line, statement) =>
      if statement = .unreadable then some line else none }

/-- What the bytes of a file say. -/
def ofBytes (environment : Bindings) (bytes : Bytes) : Except Utf8.Fault SettingsFile :=
  (Utf8.decode bytes).map (parse environment)

/-- The complaint about a statement that cannot be read. -/
def complaint (line : Nat) : Text :=
  "python-dotenv could not parse statement starting at line " ++ Text.ofNat line ++ "\n"

end SettingsFile
end NoteTemplates
