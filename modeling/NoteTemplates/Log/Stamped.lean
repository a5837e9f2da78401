import NoteTemplates.Log
import NoteTemplates.Text.JsonString

/-!
# Lines of a log file

An event in a log file bears the moment at which it was noted: in front of its line, or as
the last pair of a JSON object.
-/

namespace NoteTemplates
namespace Log

/-- The name of the format in which every event is a JSON object. -/
def jsonFormat : Text := "json"

/-- A value as JSON. -/
def Value.json : Value → Text
  | text s => Text.jsonString s
  | count n => Text.ofNat n

/-- Pairs as a JSON object. -/
def jsonObject (pairs : List (Text × Value)) : Text :=
  let member (pair : Text × Value) : Text := Text.jsonString pair.1 ++ ": " ++ pair.2.json
  "\x7b" ++ Text.joinWith ", " (pairs.map member) ++ "\x7d"

/-- An event as a log file in a format has it. -/
def Event.stamped (format stamp : Text) (e : Event) : Text :=
  let moment : Text × Value := ("timestamp", .text stamp)
  if format = jsonFormat then jsonObject (e.pairs ++ [moment])
  else stamp ++ " " ++ e.line

end Log
end NoteTemplates
