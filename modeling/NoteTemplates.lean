import NoteTemplates.Bindings
import NoteTemplates.Catalog.Basic
import NoteTemplates.Catalog.Loading
import NoteTemplates.CommandLine.Command
import NoteTemplates.CommandLine.Grammar
import NoteTemplates.Console.Asking
import NoteTemplates.Console.Handler
import NoteTemplates.Console.Markup
import NoteTemplates.Console.Screen
import NoteTemplates.Console.Style
import NoteTemplates.Disk
import NoteTemplates.Editor.Basic
import NoteTemplates.Editor.Script
import NoteTemplates.Editor.Words
import NoteTemplates.Effect
import NoteTemplates.Failure
import NoteTemplates.Literal.Basic
import NoteTemplates.Literal.Escapes
import NoteTemplates.Literal.Expression
import NoteTemplates.Literal.Grammar
import NoteTemplates.Literal.Interpolated
import NoteTemplates.Literal.Meaning
import NoteTemplates.Literal.Numeral
import NoteTemplates.Literal.Pattern
import NoteTemplates.Literal.Reading
import NoteTemplates.Literal.Recognition
import NoteTemplates.Literal.Scanner
import NoteTemplates.Literal.Token
import NoteTemplates.Log
import NoteTemplates.Log.Stamped
import NoteTemplates.Main
import NoteTemplates.Materialization
import NoteTemplates.Moment
import NoteTemplates.Notebook
import NoteTemplates.Path
import NoteTemplates.Program
import NoteTemplates.Settings.Basic
import NoteTemplates.Settings.Cache
import NoteTemplates.Settings.File
import NoteTemplates.Store.Basic
import NoteTemplates.Store.Change
import NoteTemplates.Store.Walk
import NoteTemplates.Template.Basic
import NoteTemplates.Template.BuiltIns
import NoteTemplates.Template.Filename
import NoteTemplates.Template.PathDirective
import NoteTemplates.Template.Prompt
import NoteTemplates.Template.Rendering
import NoteTemplates.Template.Variable
import NoteTemplates.Text.Basic
import NoteTemplates.Text.Blank
import NoteTemplates.Text.Cells
import NoteTemplates.Text.CharacterNames
import NoteTemplates.Text.Decimal
import NoteTemplates.Text.JsonString
import NoteTemplates.Text.Lower
import NoteTemplates.Text.Printable
import NoteTemplates.Text.Quoted
import NoteTemplates.Text.Utf8
import NoteTemplates.Text.Word
import NoteTemplates.Proofs.Effects
import NoteTemplates.Proofs.Silence
import NoteTemplates.Proofs.Stores
import NoteTemplates.Proofs.Paths
import NoteTemplates.Proofs.Calls
import NoteTemplates.Proofs.Directories
import NoteTemplates.Proofs.Writing
import NoteTemplates.Proofs.QuietOperations
import NoteTemplates.Proofs.Operations
import NoteTemplates.Proofs.Runs
import NoteTemplates.Proofs.Overwriting
import NoteTemplates.Proofs.AllOrNothing
import NoteTemplates.Proofs.Loading
import NoteTemplates.Proofs.Interruption
import NoteTemplates.Proofs.Trees
import NoteTemplates.Proofs.Scaffolding
import NoteTemplates.Proofs.Texts
import NoteTemplates.Proofs.Screens
import NoteTemplates.Proofs.Footprints
import NoteTemplates.Proofs.Accounting
import NoteTemplates.Proofs.Isolation
import NoteTemplates.Proofs.Substituting
import NoteTemplates.Proofs.Prompts
import NoteTemplates.Proofs.Format
import NoteTemplates.Proofs.Parsing
import NoteTemplates.Proofs.Answers
import NoteTemplates.Proofs.Ranks
import NoteTemplates.Proofs.Listings
import NoteTemplates.Proofs.Lookups
import NoteTemplates.Proofs.Neighbours
import NoteTemplates.Proofs.Deletions
import NoteTemplates.Proofs.Encoding
import NoteTemplates.Proofs.Starters
import NoteTemplates.Proofs.Additions
import NoteTemplates.Proofs.RoundTrip
import NoteTemplates.Proofs.Layouts
import NoteTemplates.Proofs.Overrides
import NoteTemplates.Proofs.Exchanges
import NoteTemplates.Proofs.Replies
import NoteTemplates.Proofs.Deliveries
import NoteTemplates.Proofs.LogFile
import NoteTemplates.Proofs.Statuses
import NoteTemplates.Proofs.SinglePass
import NoteTemplates.Proofs.Filenames
import NoteTemplates.Proofs.Declarations
import NoteTemplates.Proofs.Directives
import NoteTemplates.Proofs.Numerals
import NoteTemplates.Proofs.Rounds
import NoteTemplates.Proofs.Choices
import NoteTemplates.Proofs.Tags
import NoteTemplates.Proofs.Showing
import NoteTemplates.Proofs.Verbatim
import NoteTemplates.Proofs.Questions
import NoteTemplates.Proofs.Escaping
import NoteTemplates.Proofs.Menus
import NoteTemplates.Proofs.Homes
import NoteTemplates.Proofs.Quoting
import NoteTemplates.Proofs.Editors
import NoteTemplates.Proofs.Reports
