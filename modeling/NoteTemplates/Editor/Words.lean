import NoteTemplates.Failure

/-!
# Words of a command

A command in text is split into words at blanks, tabs, returns and line feeds. Between
single quotes every character stands for itself; between double quotes a reverse solidus
escapes itself and the double quote; elsewhere it escapes any character. Quotes may stand
inside a word, and a pair with nothing between makes an empty word.
-/

namespace NoteTemplates
namespace Words

/-- Where in a word the next character stands. -/
inductive Mode where
  | plain
  | quoted (mark : Char)
  | escaped
  | escapedIn (mark : Char)
  deriving DecidableEq, Repr

/-- Whether a character stands between words. -/
def isGap (c : Char) : Bool :=
  c = ' ' || c = '\t' || c = '\r' || c = '\n'

/-- A word begun, or nothing, put before words. -/
def finish : Option Text → List Text → List Text
  | none, words => words
  | some word, words => word :: words

/-- A word begun, or the empty one, with more characters at its end. -/
def extend (word : Option Text) (s : Text) : Option Text :=
  some (word.getD [] ++ s)

/-- The words of a text, the first of which may have begun already. -/
def scan : Mode → Option Text → Text → Except WordsError (List Text)
  | .plain, word, [] => .ok (finish word [])
  | .quoted _, _, [] => .error .openQuotation
  | .escaped, _, [] => .error .loneEscape
  | .escapedIn _, _, [] => .error .loneEscape
  | .plain, word, c :: s =>
    if isGap c then (scan .plain none s).map (finish word)
    else if c = '\'' || c = '"' then scan (.quoted c) (extend word []) s
    else if c = '\\' then scan .escaped (extend word []) s
    else scan .plain (extend word [c]) s
  | .quoted mark, word, c :: s =>
    if c = mark then scan .plain word s
    else if c = '\\' && mark = '"' then scan (.escapedIn mark) word s
    else scan (.quoted mark) (extend word [c]) s
  | .escaped, word, c :: s => scan .plain (extend word [c]) s
  | .escapedIn mark, word, c :: s =>
    if c = '\\' || c = mark then scan (.quoted mark) (extend word [c]) s
    else scan (.quoted mark) (extend word ['\\', c]) s

/-- The words of a command. -/
def ofText (s : Text) : Except WordsError (List Text) :=
  scan .plain none s

end Words
end NoteTemplates
