import NoteTemplates.CommandLine.Command
import NoteTemplates.Notebook

/-!
# The program

What the commands do on a console, and with which status the program ends: zero if all went
well, one if a command failed, two for a wrong command line, and 130 if somebody broke off
at a question.
-/

namespace NoteTemplates
namespace Program

open Effect Console CommandLine

/-- Prints warnings. -/
def printWarnings : List Text → Effect Unit
  | [] => return ()
  | warning :: warnings => do
    complainLine ("[yellow]Warning:[/yellow] " ++ Markup.escape warning)
    printWarnings warnings

/-- Prints templates with numbers that follow a given one. -/
def printNumbered : Nat → List Template → Effect Unit
  | _, [] => return ()
  | number, t :: ts => do
    printLine ("  " ++ Text.ofNat (number + 1) ++ ". " ++ Markup.escape t.name)
    printNumbered (number + 1) ts

/-- Prints groups of templates, numbered through from a given number on. -/
def printGroups : Nat → List (Text × List Template) → Effect Unit
  | _, [] => return ()
  | number, (category, members) :: groups => do
    printLine ("\n[bold]" ++ Markup.escape category ++ "[/bold]")
    printNumbered number members
    printGroups (number + members.length) groups

/-- Prints a catalog by category; the templates in the order of their numbers. -/
def printCatalog (templates : List Template) : Effect (List Template) := do
  printGroups 0 (Catalog.groups templates)
  return Catalog.displayed templates

variable (book : Notebook)

/-- What is said where there are no templates. -/
def emptyNotice : Effect Text :=
  return "No templates found in " ++ Markup.escape (← book.templatesPath).toText

/-- Lists the templates. -/
def list : Effect Int := do
  let (templates, warnings) ← book.load
  printWarnings warnings
  if templates.isEmpty then
    printLine (← emptyNotice book)
    return 0
  printLine "Available templates:"
  discard (printCatalog templates)
  return 0

/-- The template that a name means or that is chosen by its number; nothing if none is. -/
def choose (templates : List Template) (name : Option Text) : Effect (Option Template) := do
  match name with
  | some (c :: cs) =>
    return some (← settle ((Catalog.find templates (c :: cs)).mapError Failure.template))
  | _ =>
    let ordered ← printCatalog templates
    match ← askChoice "\nSelect template" 1 ordered.length with
    | none => return none
    | some n => return ordered[n.toNat - 1]?

/-- Writes a note from a template. -/
def new (name : Option Text) (openEditor : Bool) : Effect Int := do
  let (templates, warnings) ← book.load
  printWarnings warnings
  if templates.isEmpty then
    complainLine (← emptyNotice book)
    return 1
  match ← choose templates name with
  | none => return 0
  | some t =>
    let created ← book.createNote t openEditor false none
    printLine ("[green]Created[/green] " ++ Markup.escape created.toText)
    return 0

/-- Writes a new template, whose priority must be known. -/
def scaffold (name : Text) (priority : Option Int) (category : Text) (openEditor : Bool) :
    Effect Int := do
  let some priority := priority | throw .noPriority
  let created ← book.scaffold name priority category openEditor
  printLine ("[green]Created template[/green] " ++ Markup.escape created.toText)
  return 0

/-- Opens a template in the editor. -/
def edit (name : Text) : Effect Int := do
  discard (book.edit name)
  return 0

/-- Deletes a template. -/
def delete (name : Text) : Effect Int := do
  if ← book.delete name then
    printLine ("[green]Deleted template[/green] " ++ Markup.escape name)
  else printLine "Cancelled"
  return 0

/-- Does what a command says. -/
def execute : Command → Effect Int
  | .list => list book
  | .new name openEditor => new book name openEditor
  | .scaffold name priority category openEditor => scaffold book name priority category openEditor
  | .edit name => edit book name
  | .delete name => delete book name

/--
Makes the directory of a path with the missing ones above it, at most as many as the number
says; one that is there is left alone.
-/
def makeParents : Nat → Path → Effect Unit
  | depth, path => do
    match ← attempt (Disk.makeDirectory path.toText) with
    | .ok _ => return ()
    | .error (.system e) =>
      if e.errno.number = Errno.noEntry.number then
        match depth, path.parts with
        | depth + 1, _ :: _ =>
          makeParents depth path.parent
          match ← attempt (Disk.makeDirectory path.toText) with
          | .error (.system e) => unlessThere path e
          | .error f => throw f
          | .ok _ => return ()
        | 0, _ :: _ => throw (.tooNested .parents)
        | _, [] => throw (.system e)
      else unlessThere path e
    | .error f => throw f
where
  unlessThere (path : Path) (e : SystemError) : Effect Unit := do
    if (← Disk.entryOnWay? path.toText) = some .directory then return ()
    throw (.system e)

/-- Makes the file of the log if the settings name one and it is not there. -/
def openLog (s : Settings) : Effect Unit := do
  match s.logFile with
  | none => return ()
  | some file =>
    let around ← read
    let file ← settle (file.expandUser around.environment)
    makeParents Nesting.parents.limit file.parent
    Disk.openToExtend ((file.absolute around.directory).collapse).toText

/-- Says why a command failed; its status. -/
def report (command : Command) (message : Text) : Effect Int := do
  note .debug .commandLine "Command failed"
    [("command", .text command.word), ("error", .text message)]
  complainLine ("[red]Error:[/red] " ++ Markup.escape message)
  return 1

/-- Says that somebody broke off; the status for that. -/
def reportBroken : Effect Int := do
  complainLine "\nCancelled"
  return 130

/-- Runs a command with settings; its status. -/
def runCommand (s : Settings) (command : Command) : Effect Int := do
  openLog s
  discard (settle ((Log.thresholdRank s.logLevel).mapError Failure.threshold))
  match ← attempt (execute { settings := s } command) with
  | .ok status => return status
  | .error (.template e) => report command e.message
  | .error (.editor e) => report command e.message
  | .error .interrupted => reportBroken
  | .error (.endOfInput _) => reportBroken
  | .error f => throw f

/-- Runs the program with arguments; its status. -/
def run (arguments : List Text) : Effect Int := do
  match CommandLine.parse arguments with
  | .error exit =>
    print exit.printed
    complain exit.complaints
    return exit.status
  | .ok command => runCommand (← Settings.load) command

end Program
end NoteTemplates
