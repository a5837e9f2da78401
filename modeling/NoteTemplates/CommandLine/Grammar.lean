import NoteTemplates.Text.Decimal
import NoteTemplates.Text.Quoted

/-!
# Command lines

A grammar says which options a command line may hold and what its one operand is. Options
may be shortened as long as that is unambiguous, take their value from after an equals sign
or from the next argument, and end at a double dash. Arguments that nothing claims are
handed back. What is wrong with a line, or asks for help, ends the program.
-/

namespace NoteTemplates
namespace CommandLine

/-- What an option does. -/
inductive OptionKind where
  | help
  | version
  | flag
  | word
  | number
  deriving DecidableEq, Repr

/-- An option: its names, the short one first, and what it does. -/
structure OptionSpec where
  names : List Text
  kind : OptionKind
  deriving DecidableEq, Repr

/-- How many arguments the operand takes: one, one or none, or one with all that follow. -/
inductive Arity where
  | one
  | optional
  | withRest
  deriving DecidableEq, Repr

/-- The operand of a command line. -/
structure Operand where
  name : Text
  arity : Arity
  deriving DecidableEq, Repr

/-- The command lines of one program, with its own description of them. -/
structure Grammar where
  program : Text
  usage : Text
  help : Text
  version : Text := []
  options : List OptionSpec
  operand : Option Operand := none
  deriving DecidableEq, Repr

/-- An end of the program: its status and what it prints and complains. -/
structure Exit where
  status : Int
  printed : Text := []
  complaints : Text := []
  deriving DecidableEq, Repr

/-- What an option gave; two dashes in the place of its value are taken away. -/
inductive Value where
  | present
  | nothing
  | word (s : Text)
  | number (n : Int)
  deriving DecidableEq, Repr

/-- What a command line says: the options in their order, the operand, and the rest. -/
structure Parsed where
  options : List (Text × Value) := []
  operand : Option (List Text) := none
  rest : List Text := []
  deriving DecidableEq, Repr

/-- What kind of argument an argument is. -/
inductive Role where
  | dashes
  | plain
  | option (spec : OptionSpec) (name : Text) (attached : Option Text)
  | unknown
  deriving DecidableEq, Repr

/-- An argument with its role. -/
abbrev Item := Text × Role

/-- The name that messages and results use for an option. -/
def OptionSpec.title (o : OptionSpec) : Text :=
  Text.joinWith "/" o.names

/-- The long name of an option. -/
def OptionSpec.key (o : OptionSpec) : Text :=
  o.names.getLast?.getD []

namespace Grammar

variable (g : Grammar)

/-- The end of a program whose command line is wrong. -/
def wrong (message : Text) : Exit :=
  { status := 2
    complaints := "usage: " ++ g.usage ++ "\n" ++ g.program ++ ": error: " ++ message ++ "\n" }

/-- The end of a program one of whose options is used wrongly. -/
def misused (title message : Text) : Exit :=
  g.wrong ("argument " ++ title ++ ": " ++ message)

/-- Every name of an option, with the option. -/
def named : List (Text × OptionSpec) :=
  g.options.flatMap fun o => o.names.map fun name => (name, o)

/-- Whether an argument is a negative number; a line feed may follow it. -/
def isNegativeNumber (s : Text) : Bool :=
  match s with
  | '-' :: rest =>
    let rest := if rest.getLast? = some '\n' then rest.dropLast else rest
    let isDecimal (c : Char) : Bool := (Text.digitValue? c).isSome
    match rest.dropWhile isDecimal with
    | [] => !rest.isEmpty
    | '.' :: fraction => !fraction.isEmpty && fraction.all isDecimal
    | _ => false
  | _ => false

/-- The options that an argument may be a shortened form of, or have a value attached to. -/
def shortened (s : Text) : List Role :=
  match s with
  | '-' :: '-' :: _ =>
    let (start, attached) :=
      match Text.splitFirst? '=' s with
      | some (start, value) => (start, some value)
      | none => (s, none)
    (g.named.filter fun (name, _) => Text.startsWith start name).map fun (name, o) =>
      .option o name attached
  | _ =>
    g.named.filterMap fun (name, o) =>
      if name = s.take 2 then some (.option o name (some (s.drop 2)))
      else if Text.startsWith s name then some (.option o name none)
      else none

/-- The name of the option that a role is about. -/
def roleName : Role → Text
  | .option _ name _ => name
  | _ => []

/-- The role of an argument that is no double dash. -/
def roleOf (s : Text) : Except Exit Role :=
  if s.head? ≠ some '-' then .ok .plain
  else
    match g.named.lookup s with
    | some o => .ok (.option o s none)
    | none =>
      if s.length = 1 then .ok .plain
      else
        let exact : Option Role :=
          match Text.splitFirst? '=' s with
          | some (name, value) =>
            (g.named.lookup name).map fun o => .option o name (some value)
          | none => none
        match exact, g.shortened s with
        | some role, _ => .ok role
        | none, [role] => .ok role
        | none, [] =>
          if isNegativeNumber s || ' ' ∈ s then .ok .plain else .ok .unknown
        | none, roles =>
          .error (g.wrong ("ambiguous option: " ++ s ++ " could match " ++
            Text.joinWith ", " (roles.map roleName)))

/-- Arguments with their roles; after a double dash all are plain. -/
def classify : List Text → Except Exit (List Item)
  | [] => .ok []
  | s :: rest =>
    if s = "--" then .ok ((s, .dashes) :: rest.map fun t => (t, .plain))
    else do
      let role ← g.roleOf s
      let items ← classify rest
      return (s, role) :: items

/-- What an option makes of the value given to it. -/
def valueOf (o : OptionSpec) (s : Text) : Except Exit Value :=
  if s = "--" then .ok .nothing
  else
    match o.kind with
    | .number =>
      match Text.readInt s with
      | .ok n => .ok (.number n)
      | .error _ => .error (g.misused o.title ("invalid int value: " ++ Text.quoted s))
    | _ => .ok (.word s)

/-- Whether an option takes a value. -/
def takesValue (o : OptionSpec) : Bool :=
  match o.kind with
  | .word | .number => true
  | _ => false

/-- What an option without a value gives, or the end that it asks for. -/
def switch (o : OptionSpec) : Except Exit (Text × Value) :=
  match o.kind with
  | .help => .error { status := 0, printed := g.help }
  | .version => .error { status := 0, printed := g.version ++ "\n" }
  | _ => .ok (o.key, .present)

/-- The end of a program with a value at an option that takes none. -/
def ignored (o : OptionSpec) (value : Text) : Exit :=
  g.misused o.title ("ignored explicit argument " ++ Text.quoted value)

/--
Reads the text behind a short switch as the letters of further short options: the switches
that come before the last option, that option, and the text left over as its value. A letter
that is no option refuses the text from there on.
-/
def cluster (o : OptionSpec) : Text → Except Exit (List OptionSpec × OptionSpec × Option Text)
  | [] => .error (g.ignored o [])
  | c :: letters =>
    match g.named.lookup ['-', c] with
    | none => .error (g.ignored o (c :: letters))
    | some next =>
      if letters.isEmpty then .ok ([o], next, none)
      else if takesValue next then .ok ([o], next, some letters)
      else do
        let (passed, last, attached) ← cluster next letters
        return (o :: passed, last, attached)

/-- The options that one argument holds, as `cluster` gives them. -/
def optionsOf (o : OptionSpec) (name : Text) :
    Option Text → Except Exit (List OptionSpec × OptionSpec × Option Text)
  | none => .ok ([], o, none)
  | some value =>
    if takesValue o then .ok ([], o, some value)
    else if name.take 2 = "--" then .error (g.ignored o value)
    else g.cluster o value

/-- The plain argument that items begin with. -/
def plainHead? : List Item → Option (Text × List Item)
  | (s, .plain) :: items => some (s, items)
  | _ => none

/-- What an operand takes from the beginning of items, and how many items that are. -/
def operandOf (operand : Operand) (items : List Item) : Option (List Text × Nat) :=
  let lead := items.takeWhile fun (_, role) => role = .dashes
  let after := items.dropWhile fun (_, role) => role = .dashes
  let trailing (l : List Item) : Nat := (l.takeWhile fun (_, role) => role = .dashes).length
  match operand.arity, plainHead? after with
  | .withRest, some _ => some (items.map (·.1), items.length)
  | .withRest, none => none
  | .one, none => none
  | .optional, none => some ([], lead.length)
  | _, some (s, rest) => some ([s], lead.length + 1 + trailing rest)

/-- Gives an operand its arguments, as far as that goes: what is parsed and what is left. -/
def claim (parsed : Parsed) (pending : Option Operand) (items : List Item) :
    Parsed × Option Operand × List Item :=
  match pending.bind fun operand => operandOf operand items with
  | some (values, count) => ({ parsed with operand := some values }, none, items.drop count)
  | none => (parsed, pending, items)

/-- Whether an item is an option. -/
def isOption : Item → Bool
  | (_, .option ..) => true
  | (_, .unknown) => true
  | _ => false

/-- The value of an option and the items left: what is attached, or else a plain argument. -/
def argumentOf (o : OptionSpec) (attached : Option Text) (items : List Item) :
    Except Exit (Text × List Item) :=
  match attached, plainHead? items with
  | some value, _ => .ok (value, items)
  | none, some (argument, items) => .ok (argument, items)
  | none, none => .error (g.misused o.title "expected one argument")

/--
One option taken from the beginning of items: what it adds, and the items left. The switches
run together with it act once the whole argument is understood.
-/
def takeOption (parsed : Parsed) (s : Text) (role : Role) (items : List Item) :
    Except Exit (Parsed × List Item) :=
  match role with
  | .option o name attached => do
    let (passed, last, attached) ← g.optionsOf o name attached
    if takesValue last then
      let (argument, items) ← g.argumentOf last attached items
      let settings ← passed.mapM g.switch
      let value ← g.valueOf last argument
      let options := parsed.options ++ settings ++ [(last.key, value)]
      return ({ parsed with options }, items)
    else
      let settings ← (passed ++ [last]).mapM g.switch
      return ({ parsed with options := parsed.options ++ settings }, items)
  | _ => .ok ({ parsed with rest := parsed.rest ++ [s] }, items)

/--
Reads items: operands and options by turns, and what neither claims is left over. The number
bounds the turns.
-/
def readItems : Nat → Parsed → Option Operand → List Item → Except Exit (Parsed × Option Operand)
  | 0, parsed, pending, _ => .ok (parsed, pending)
  | turns + 1, parsed, pending, items =>
    if items.any isOption then
      match items with
      | [] => .ok (parsed, pending)
      | (s, role) :: following =>
        if isOption (s, role) then do
          let (parsed, left) ← g.takeOption parsed s role following
          readItems turns parsed pending left
        else
          let (claimed, stillPending, left) := claim parsed pending items
          if left.length < items.length then readItems turns claimed stillPending left
          else
            let skipped := items.takeWhile fun i => !isOption i
            let left := items.dropWhile fun i => !isOption i
            readItems turns { claimed with rest := claimed.rest ++ skipped.map (·.1) }
              stillPending left
    else
      let (parsed, pending, left) := claim parsed pending items
      .ok ({ parsed with rest := parsed.rest ++ left.map (·.1) }, pending)

/-- Reads a command line; arguments that nothing claims are left over. -/
def parse (arguments : List Text) : Except Exit Parsed := do
  let items ← g.classify arguments
  let (parsed, pending) ← g.readItems (items.length + 1) {} g.operand items
  match pending with
  | some operand =>
    if operand.arity = .optional then return parsed
    else .error (g.wrong ("the following arguments are required: " ++ operand.name))
  | none => return parsed

end Grammar
end CommandLine
end NoteTemplates
