import NoteTemplates.Moment
import NoteTemplates.Path

/-!
# Built-in values

The values that every template can use without declaring them: the date, the time and the
weekday of one moment, and the directory where notes live.
-/

namespace NoteTemplates
namespace BuiltIns

def dateToken : Text := "\x7b$date\x7d"

def dateTimeToken : Text := "\x7b$datetime\x7d"

def baseToken : Text := "\x7b$base_dir\x7d"

def weekdayToken : Text := "\x7b$weekday\x7d"

def timeToken : Text := "\x7b$time\x7d"

/-- The tokens with their values, all taken from one moment. -/
def ofMoment (base : Path) (now : Moment) : Bindings :=
  [(dateToken, now.date),
   (dateTimeToken, now.dateTime),
   (baseToken, base.toText),
   (weekdayToken, now.weekday),
   (timeToken, now.time)]

/-- The tokens with their values, where the directory of the notes may begin with `~`. -/
def resolve (environment : Environment) (directory base : Path) (now : Moment) :
    Except Failure Bindings :=
  (base.expandUser environment).map fun base => ofMoment (base.absolute directory) now

end BuiltIns
end NoteTemplates
