import NoteTemplates.Log
import NoteTemplates.Text.Utf8

/-!
# Failures

Everything that can go wrong, as causes: what the template pipeline refuses, what the file
system refuses, what the editor does wrong, and how a question can stay without an answer.
Each cause has one wording, given here.
-/

namespace NoteTemplates

/-- Why the file system refuses a call: the number of the reason and its name. -/
structure Errno where
  number : Int
  text : Text
  deriving DecidableEq, Repr

namespace Errno

def noEntry : Errno := ⟨2, "No such file or directory"⟩

def badFormat : Errno := ⟨8, "Exec format error"⟩

def denied : Errno := ⟨13, "Permission denied"⟩

def busy : Errno := ⟨16, "Device or resource busy"⟩

def occupied : Errno := ⟨17, "File exists"⟩

def notDirectory : Errno := ⟨20, "Not a directory"⟩

def isDirectory : Errno := ⟨21, "Is a directory"⟩

def nameTooLong : Errno := ⟨36, "File name too long"⟩

def notEmpty : Errno := ⟨39, "Directory not empty"⟩

def tooManyLinks : Errno := ⟨40, "Too many levels of symbolic links"⟩

end Errno

/-- A refused call, with the paths it was about: none, one, or where from and where to. -/
structure SystemError where
  errno : Errno
  paths : List Text
  deriving DecidableEq, Repr

/-- The number and the name of the reason, then the paths in quotes. -/
def SystemError.message (e : SystemError) : Text :=
  let reason := "[Errno " ++ Text.ofInt e.errno.number ++ "] " ++ e.errno.text
  match e.paths with
  | [] => reason
  | paths => reason ++ ": " ++ Text.joinWith " -> " (paths.map Text.quoted)

/-- The kinds of failure that the template pipeline reports. -/
inductive TemplateErrorKind where
  | templateNotFound
  | invalidFilename
  | parseFailed
  | variableConflict
  | invalidPathSyntax
  | noTargetPath
  | directoryCreateFailed
  | targetExists
  | writeFailed
  | deleteFailed
  deriving DecidableEq, Repr

namespace TemplateErrorKind

/-- All kinds, in their order. -/
def all : List TemplateErrorKind :=
  [templateNotFound, invalidFilename, parseFailed, variableConflict, invalidPathSyntax,
   noTargetPath, directoryCreateFailed, targetExists, writeFailed, deleteFailed]

def text : TemplateErrorKind → Text
  | templateNotFound => "template not found"
  | invalidFilename => "invalid template filename format"
  | parseFailed => "failed to parse template"
  | variableConflict => "variable defined multiple times"
  | invalidPathSyntax => "invalid path syntax in <!-- Path: -->"
  | noTargetPath => "template has no target path"
  | directoryCreateFailed => "creating directory"
  | targetExists => "file already exists"
  | writeFailed => "writing file"
  | deleteFailed => "deleting template"

end TemplateErrorKind

/-- What a failure of the pipeline was raised from. -/
inductive TemplateErrorCause where
  | system (e : SystemError)
  | unattributed
  deriving DecidableEq, Repr

/-- A failure of the template pipeline; `template` names the file at fault where it is known. -/
structure TemplateError where
  kind : TemplateErrorKind
  detail : Text := []
  template : Option Text := none
  cause : Option TemplateErrorCause := none
  deriving DecidableEq, Repr

namespace TemplateError

/-- The template at fault if there is one, the kind, and the detail if there is one. -/
def message (e : TemplateError) : Text :=
  let reason := if e.detail.isEmpty then e.kind.text else e.kind.text ++ ": " ++ e.detail
  match e.template with
  | none | some [] => reason
  | some template => "template " ++ template ++ ": " ++ reason

/-- Whether the failure is of a given kind. -/
def isKind (e : TemplateError) (kind : TemplateErrorKind) : Bool :=
  e.kind = kind

/-- The same failure, put down to a template. -/
def withTemplate (e : TemplateError) (template : Text) : TemplateError :=
  { kind := e.kind, detail := e.detail, template := some template }

end TemplateError

/-- What is wrong with the editor. -/
inductive EditorError where
  | notConfigured
  | emptyCommand (command : Text)
  | notFound (program : Text)
  | exited (program : Text) (status : Int)
  deriving DecidableEq, Repr

def EditorError.message : EditorError → Text
  | notConfigured => "no editor configured - set JOTR_EDITOR, VISUAL or EDITOR"
  | emptyCommand command => "invalid editor command: " ++ Text.quoted command
  | notFound program => "editor '" ++ program ++ "' not found in PATH"
  | exited program status =>
    "editor '" ++ program ++ "' exited with status " ++ Text.ofInt status

/-- Why a command cannot be split into words. -/
inductive WordsError where
  | openQuotation
  | loneEscape
  deriving DecidableEq, Repr

def WordsError.message : WordsError → Text
  | openQuotation => "No closing quotation"
  | loneEscape => "No escaped character"

/--
What is wrong with a tag: it closes a name that is not open, or nothing is open at all, or
what is read in its parameters is refused for a reason.
-/
inductive MarkupError where
  | notOpen (tag : Text) (position : Nat)
  | nothingOpen (position : Nat)
  | badArguments (read reason : Text)
  deriving DecidableEq, Repr

def MarkupError.message : MarkupError → Text
  | notOpen tag position =>
    "closing tag '" ++ tag ++ "' at position " ++ Text.ofNat position ++
      " doesn't match any open tag"
  | nothingOpen position =>
    "closing tag '[/]' at position " ++ Text.ofNat position ++ " has nothing to close"
  | badArguments read reason => "error parsing " ++ read ++ "; " ++ reason

/-- The most characters of a quoted text that the refusal of a number shows. -/
def NumberError.shownLength : Nat := 200

def NumberError.message : NumberError → Text
  | malformed text =>
    "invalid literal for int() with base 10: " ++ (Text.quoted text).take shownLength
  | tooLong digits =>
    "Exceeds the limit (" ++ Text.ofNat Text.digitLimit ++
      " digits) for integer string conversion: value has " ++ Text.ofNat digits ++
      " digits; use sys.set_int_max_str_digits() to increase the limit"
  | unwritable =>
    "Exceeds the limit (" ++ Text.ofNat Text.digitLimit ++
      " digits) for integer string conversion; use sys.set_int_max_str_digits() to " ++
      "increase the limit"

/-- What goes too deep: the directories that a call makes, or those above the file of the log. -/
inductive Nesting where
  | directories
  | parents
  deriving DecidableEq, Repr

/-- How many directories may be missing one above the other. -/
def Nesting.limit : Nesting → Nat
  | directories => 992
  | parents => 982

def Nesting.message : Nesting → Text
  | directories => "maximum recursion depth exceeded"
  | parents => "maximum recursion depth exceeded while calling a Python object"

/-- Everything that can end an operation early. -/
inductive Failure where
  | template (e : TemplateError)
  | editor (e : EditorError)
  | system (e : SystemError)
  | unreadable (name reason : Text)
  | undecodable (fault : Utf8.Fault)
  | number (e : NumberError)
  | words (e : WordsError)
  | markup (e : MarkupError)
  | threshold (e : Log.ThresholdError)
  | noPriority
  | tooNested (n : Nesting)
  | embeddedNull
  | homeless
  | endOfInput (message : Text)
  | interrupted
  | cancelled (path : Text)
  | broken (message : Text)
  deriving DecidableEq, Repr

def Failure.message : Failure → Text
  | template e => e.message
  | editor e => e.message
  | system e => e.message
  | unreadable name reason => "reading " ++ name ++ ": " ++ reason
  | undecodable fault => fault.message
  | number e => e.message
  | words e => e.message
  | markup e => e.message
  | threshold e => e.message
  | noPriority => "'<' not supported between instances of 'list' and 'int'"
  | tooNested n => n.message
  | embeddedNull => "embedded null byte"
  | homeless => "Could not determine home directory."
  | endOfInput message => message
  | interrupted => []
  | cancelled path => "write to " ++ path ++ " cancelled"
  | broken message => message

end NoteTemplates
