import NoteTemplates.Text.Utf8

/-!
# Scripts

A file that may be run but is no program of the machine can be a script: its first line
begins with `#!` and names the interpreter that runs it, perhaps with an argument. Only the
beginning of the file is looked at, and a name that could go on behind it is not trusted.
-/

namespace NoteTemplates

/-- The program that runs a script, and what it is given before the path of the script. -/
structure Interpreter where
  path : Bytes
  argument : Bytes
  deriving DecidableEq, Repr

namespace Interpreter

/-- The most bytes of a script that are looked at. -/
def lookedAt : Nat := 256

/-- Whether a byte separates the words of a first line. -/
def isBlank (b : UInt8) : Bool :=
  b = 32 || b = 9

/-- Whether a byte goes on with the first line; a NUL ends it like a line feed. -/
def isInLine (b : UInt8) : Bool :=
  b ≠ 10 && b ≠ 0

/-- The interpreter that a line names; the name may be empty. -/
def ofLine (line : Bytes) : Interpreter :=
  let words := line.dropWhile isBlank
  let rest := (words.dropWhile fun b => !isBlank b).dropWhile isBlank
  { path := words.takeWhile fun b => !isBlank b
    argument := (rest.reverse.dropWhile isBlank).reverse }

/--
The interpreter that a file names. A line that ends properly must name one; a line that goes
on behind the part looked at must at least have a blank after the name.
-/
def ofBytes (bytes : Bytes) : Option Interpreter :=
  match bytes.take lookedAt with
  | 35 :: 33 :: head =>
    let line := head.takeWhile isInLine
    let interpreter := ofLine line
    match head.dropWhile isInLine with
    | 10 :: _ => if interpreter.path.isEmpty then none else some interpreter
    | _ :: _ => some interpreter
    | [] =>
      let isCut := bytes.length ≥ lookedAt
      if isCut && interpreter.path.length = (line.dropWhile isBlank).length then none
      else some interpreter
  | _ => none

end Interpreter
end NoteTemplates
