import NoteTemplates.Literal.Interpolated

/-!
# The meaning of literals

Numbers, texts and words for values mean themselves; tuples, sets and tables mean what their
parts do. A number may have a sign, and an imaginary number may be added to another. Members
of sets and keys of tables must be neither sets nor tables, nor tuples with such in them.
-/

namespace NoteTemplates
namespace Literal

/--
What an expression means: a value, with the kind of the first part of it that cannot be a
member; nothing, for a reason; or nothing at all, since it is no literal.
-/
inductive Meaning where
  | value (unhashable : Option Text)
  | fault (e : LiteralError)
  | foreign
  deriving DecidableEq, Repr

/-- Numbers, of which those that are not imaginary may be whole. -/
inductive NumberKind where
  | whole (n : Nat)
  | fraction
  | imaginary
  deriving DecidableEq, Repr

/-- The number that an expression is without a sign. -/
def number? (e : Expression) : Option NumberKind :=
  match e.kind with
  | .numeral s =>
    if Numeral.isImaginary s then some .imaginary
    else
      match Numeral.value? s with
      | some n => some (.whole n)
      | none => some .fraction
  | _ => none

/-- The number that an expression is, with a sign or without. -/
def signedNumber? (e : Expression) : Option NumberKind :=
  match e with
  | .of .identity [e] | .of .negation [e] => number? e
  | e => number? e

/-- What a sum or a difference of two numbers means. -/
def meaningOfSum (left right : Expression) : Meaning :=
  match signedNumber? left, number? right with
  | some (.whole n), some .imaginary =>
    if n ≥ Numeral.sumLimit then .fault .overflow else .value none
  | some .fraction, some .imaginary => .value none
  | _, _ => .foreign

mutual

/-- What an expression means. -/
def meaning : Expression → Meaning
  | .of kind parts =>
    match kind, parts with
    | .numeral _, _ | .constant _, _ | .quoted, _ | .ellipsis, _ => .value none
    | .identity, [e] | .negation, [e] =>
      if (number? e).isSome then .value none else .foreign
    | .sum, [left, right] | .difference, [left, right] => meaningOfSum left right
    | .tuple, parts => meaningOfTuple parts
    | .set, parts => meaningOfSet parts
    | .table, parts => meaningOfTable parts
    | .call, [f] => if f.name? = some "set" then .value (some "set") else .foreign
    | _, _ => .foreign

/-- What a tuple of expressions means. -/
def meaningOfTuple : List Expression → Meaning
  | [] => .value none
  | e :: es =>
    match meaning e with
    | .value first =>
      match meaningOfTuple es with
      | .value rest => .value (first.or rest)
      | m => m
    | m => m

/-- What a set of expressions means. -/
def meaningOfSet : List Expression → Meaning
  | [] => .value (some "set")
  | e :: es =>
    match meaning e with
    | .value none => meaningOfSet es
    | .value (some kind) => .fault (.unhashable kind)
    | m => m

/-- What a table of entries means. -/
def meaningOfTable : List Expression → Meaning
  | [] => .value (some "dict")
  | .of kind parts :: es =>
    match kind, parts with
    | .entry, [key, value] =>
      match meaning key, meaning value with
      | .value none, .value _ => meaningOfTable es
      | .value (some kind), .value _ => .fault (.unhashable kind)
      | .value _, m => m
      | m, _ => m
    | .spread, _ => .fault .unpacked
    | _, _ => .foreign

end

/-- How deep a tree may be before it has a meaning. -/
def heightLimit : Nat := 2950

/-- Refuses a text that is no literal; what is an expression but no literal is let pass. -/
def check (s : Text) : Except LiteralError Unit := do
  if s.contains '\x00' then throw .embeddedNull
  let e ← readBy (Interpolated.join s.length) .whole s
  if e.height > heightLimit then throw .treeTooDeep
  match meaning e with
  | .fault e => throw e
  | _ => return ()

end Literal
end NoteTemplates
