import NoteTemplates.CommandLine.Grammar

/-!
# Commands

The commands of the program with their command lines and their help.
-/

namespace NoteTemplates
namespace CommandLine

/-- What the program is asked to do; a priority may be asked for without saying which. -/
inductive Command where
  | list
  | new (name : Option Text) (openEditor : Bool)
  | scaffold (name : Text) (priority : Option Int) (category : Text) (openEditor : Bool)
  | edit (name : Text)
  | delete (name : Text)
  deriving DecidableEq, Repr

namespace Command

/-- The word that asks for a command. -/
def word : Command → Text
  | list => "list"
  | new .. => "new"
  | scaffold .. => "scaffold"
  | edit _ => "edit"
  | delete _ => "delete"

end Command

/-- The words for commands. -/
def commandWords : List Text :=
  ["list", "new", "scaffold", "edit", "delete"]

/-- The name of the program. -/
def programName : Text := "jotr-template"

/-- The name and the version of the program. -/
def version : Text := programName ++ " 0.4.0"

def helpOption : OptionSpec := ⟨["-h", "--help"], .help⟩

def noEditOption : OptionSpec := ⟨["--no-edit"], .flag⟩

def priorityOption : OptionSpec := ⟨["--priority"], .number⟩

def categoryOption : OptionSpec := ⟨["--category"], .word⟩

/-- Lines, each with its end, after the line that shows how a program is used. -/
def helpText (usage : Text) (lines : List Text) : Text :=
  ("usage: " ++ usage ++ "\n") ++ lines.flatMap fun line => line ++ Text.newline

/-- The command line of the program: options, a command, and the arguments of the command. -/
def mainGrammar : Grammar :=
  let choices : Text := "\x7b" ++ Text.joinWith "," commandWords ++ "\x7d"
  let usage := programName ++ " [-h] [--version] " ++ choices ++ " ..."
  { program := programName
    usage
    help := helpText usage
      ["",
       "Create notes from file-based templates.",
       "",
       "positional arguments:",
       "  " ++ choices,
       "    list                List available templates by category.",
       "    new                 Create a note from a template.",
       "    scaffold            Write a starter template file.",
       "    edit                Open a template in the editor.",
       "    delete              Delete a template after confirmation.",
       "",
       "options:",
       "  -h, --help            show this help message and exit",
       "  --version             show program's version number and exit"]
    version
    options := [helpOption, ⟨["--version"], .version⟩]
    operand := some ⟨"command", .withRest⟩ }

/-- The command line of one command. -/
def commandGrammar (word parameters : Text) (options : List OptionSpec)
    (operand : Option Operand) (lines : List Text) : Grammar :=
  let program := programName ++ " " ++ word
  let usage := program ++ " " ++ parameters
  { program, usage, help := helpText usage lines, options := helpOption :: options, operand }

def listGrammar : Grammar :=
  commandGrammar "list" "[-h]" [] none
    ["",
     "options:",
     "  -h, --help  show this help message and exit"]

def newGrammar : Grammar :=
  commandGrammar "new" "[-h] [--no-edit] [name]" [noEditOption] (some ⟨"name", .optional⟩)
    ["",
     "positional arguments:",
     "  name        Template name; prompts when omitted",
     "",
     "options:",
     "  -h, --help  show this help message and exit",
     "  --no-edit   Do not open the new note"]

def scaffoldGrammar : Grammar :=
  commandGrammar "scaffold" "[-h] [--priority PRIORITY] [--category CATEGORY] [--no-edit] name"
    [priorityOption, categoryOption, noEditOption] (some ⟨"name", .one⟩)
    ["",
     "positional arguments:",
     "  name                 Template name",
     "",
     "options:",
     "  -h, --help           show this help message and exit",
     "  --priority PRIORITY  Sort priority",
     "  --category CATEGORY  Template category",
     "  --no-edit            Do not open the new template"]

/-- The command line of a command that takes the name of a template. -/
def namedGrammar (word : Text) : Grammar :=
  commandGrammar word "[-h] name" [] (some ⟨"name", .one⟩)
    ["",
     "positional arguments:",
     "  name        Template name",
     "",
     "options:",
     "  -h, --help  show this help message and exit"]

/-- The command lines of all commands, by their words. -/
def grammars : List (Text × Grammar) :=
  [("list", listGrammar), ("new", newGrammar), ("scaffold", scaffoldGrammar),
   ("edit", namedGrammar "edit"), ("delete", namedGrammar "delete")]

namespace Parsed

/-- The operand, if it was given. -/
def name? (p : Parsed) : Option Text :=
  p.operand.bind List.head?

/-- The last value that an option was given. -/
def value? (p : Parsed) (o : OptionSpec) : Option Value :=
  p.options.reverse.lookup o.key

/-- Whether the editor is wanted. -/
def wantsEditor (p : Parsed) : Bool :=
  (p.value? noEditOption).isNone

/-- The priority, which is one if it is not asked for. -/
def priority (p : Parsed) : Option Int :=
  match p.value? priorityOption with
  | some (.number n) => some n
  | some _ => none
  | none => some 1

/-- The category, which is that of notes if it is not asked for. -/
def category (p : Parsed) : Text :=
  match p.value? categoryOption with
  | some (.word s) => s
  | some _ => "[]"
  | none => "notes"

/-- The command that a word and its arguments ask for. -/
def command (p : Parsed) (word : Text) : Command :=
  let name := p.name?.getD []
  if word = "list" then .list
  else if word = "new" then .new p.name? p.wantsEditor
  else if word = "scaffold" then .scaffold name p.priority p.category p.wantsEditor
  else if word = "edit" then .edit name
  else .delete name

end Parsed

/-- The end of the program with a word that is no command. -/
def noCommand (word : Text) : Exit :=
  mainGrammar.misused "command"
    ("invalid choice: " ++ Text.quoted word ++ " (choose from " ++
      Text.joinWith ", " (commandWords.map Text.quoted) ++ ")")

/-- The command that a command line asks for, or the end of the program. -/
def parse (arguments : List Text) : Except Exit Command := do
  let outer ← mainGrammar.parse arguments
  let word := outer.name?.getD []
  match grammars.lookup word with
  | none => .error (noCommand word)
  | some grammar =>
    let inner ← grammar.parse ((outer.operand.getD []).drop 1)
    match outer.rest ++ inner.rest with
    | [] => return inner.command word
    | rest =>
      .error (mainGrammar.wrong ("unrecognized arguments: " ++ Text.joinWith " " rest))

end CommandLine
end NoteTemplates
