import NoteTemplates.Failure

/-!
# File names

The name of a template file is a priority in ASCII digits, a category without dashes and a
name, joined by dashes and followed by `.md`.
-/

namespace NoteTemplates

/-- What the name of a template file says. -/
structure Filename where
  priority : Nat
  category : Text
  name : Text
  deriving DecidableEq, Repr

namespace Filename

/-- What the files of templates end with. -/
def suffix : Text := ".md"

/-- Reads a file name; its ending may be missing. -/
def ofText (filename : Text) : Except Failure Filename :=
  match Text.splitOn '-' (Text.dropSuffix suffix filename) with
  | priority :: category :: part :: parts =>
    if priority.isEmpty || !priority.all Char.isDigit then
      .error (.template { kind := .invalidFilename, detail := "invalid priority" })
    else if priority.length > Text.digitLimit then .error (.number (.tooLong priority.length))
    else
      .ok
        { priority := Nat.ofDigitChars 10 priority 0
          category
          name := Text.joinWith "-" (part :: parts) }
  | _ => .error (.template { kind := .invalidFilename, detail := filename })

/-- The file name that is made of a priority, a category and a name. -/
def assemble (priority : Int) (category name : Text) : Text :=
  Text.ofInt priority ++ "-" ++ category ++ "-" ++ name ++ suffix

end Filename
end NoteTemplates
