import NoteTemplates.Text.Decimal
import NoteTemplates.Text.Quoted

/-!
# UTF-8

Texts as bytes and bytes as texts. Reading refuses everything that writing never produces
(overlong forms, surrogates, numbers beyond the last code point) and tells at which bytes
the trouble lies.
-/

namespace NoteTemplates

/-- Bytes in the order of a file. -/
abbrev Bytes := List UInt8

namespace Utf8

/-- What is wrong with a stretch of bytes. -/
inductive Trouble where
  | badStart
  | badContinuation
  | cutShort
  deriving DecidableEq, Repr

/-- A stretch of bytes that is no UTF-8: its bytes, where it begins, and what is wrong. -/
structure Fault where
  bytes : Bytes
  position : Nat
  trouble : Trouble
  deriving DecidableEq, Repr

/-- The bytes of one character. -/
def encodeChar (c : Char) : Bytes :=
  let n := c.toNat
  if n < 0x80 then [UInt8.ofNat n]
  else if n < 0x800 then
    [UInt8.ofNat (0xC0 + n / 0x40), UInt8.ofNat (0x80 + n % 0x40)]
  else if n < 0x10000 then
    [UInt8.ofNat (0xE0 + n / 0x1000), UInt8.ofNat (0x80 + n / 0x40 % 0x40),
     UInt8.ofNat (0x80 + n % 0x40)]
  else
    [UInt8.ofNat (0xF0 + n / 0x40000), UInt8.ofNat (0x80 + n / 0x1000 % 0x40),
     UInt8.ofNat (0x80 + n / 0x40 % 0x40), UInt8.ofNat (0x80 + n % 0x40)]

/-- The bytes of a text. -/
def encode (s : Text) : Bytes :=
  s.flatMap encodeChar

/-- The shape that a first byte announces: the bits of the character that it holds, and the
range of the byte after it, which is narrower than usual where only part of it is allowed. -/
structure Lead where
  bits : Nat
  low : Nat
  high : Nat
  following : Nat

/-- The shape that a first byte announces, if a character may begin with it. -/
def lead? (b : Nat) : Option Lead :=
  if b < 0x80 then some ⟨b, 0x80, 0xBF, 0⟩
  else if b < 0xC2 then none
  else if b < 0xE0 then some ⟨b - 0xC0, 0x80, 0xBF, 1⟩
  else if b = 0xE0 then some ⟨0, 0xA0, 0xBF, 2⟩
  else if b = 0xED then some ⟨0xD, 0x80, 0x9F, 2⟩
  else if b < 0xF0 then some ⟨b - 0xE0, 0x80, 0xBF, 2⟩
  else if b = 0xF0 then some ⟨0, 0x90, 0xBF, 3⟩
  else if b < 0xF4 then some ⟨b - 0xF0, 0x80, 0xBF, 3⟩
  else if b = 0xF4 then some ⟨4, 0x80, 0x8F, 3⟩
  else none

/--
Reads the `count` bytes that follow a first byte: the number they complete, or how many of
them were good and what came instead.
-/
def readFollowing : Nat → Nat → Nat → Nat → Bytes → Except (Nat × Trouble) Nat
  | 0, _, _, n, _ => .ok n
  | _ + 1, _, _, _, [] => .error (0, .cutShort)
  | count + 1, low, high, n, b :: rest =>
    if low ≤ b.toNat && b.toNat ≤ high then
      match readFollowing count 0x80 0xBF (n * 0x40 + (b.toNat - 0x80)) rest with
      | .ok n => .ok n
      | .error (good, trouble) => .error (good + 1, trouble)
    else .error (0, .badContinuation)

/--
Reads bytes from a position on; `skip` counts the bytes that the character read last still
covers.
-/
def decodeFrom : Nat → Nat → Bytes → Except Fault Text
  | _, _, [] => .ok []
  | position, skip + 1, _ :: rest => decodeFrom (position + 1) skip rest
  | position, 0, b :: rest =>
    match lead? b.toNat with
    | none => .error ⟨[b], position, .badStart⟩
    | some shape =>
      match readFollowing shape.following shape.low shape.high shape.bits rest with
      | .error (good, trouble) => .error ⟨b :: rest.take good, position, trouble⟩
      | .ok n =>
        match decodeFrom (position + 1) shape.following rest with
        | .ok s => .ok (Char.ofNat n :: s)
        | .error fault => .error fault

/-- The text that bytes stand for. -/
def decode (bytes : Bytes) : Except Fault Text :=
  decodeFrom 0 0 bytes

/-- What is wrong, in words. -/
def Trouble.message : Trouble → Text
  | .badStart => "invalid start byte"
  | .badContinuation => "invalid continuation byte"
  | .cutShort => "unexpected end of data"

/-- Where and why bytes are no UTF-8. -/
def Fault.message (fault : Fault) : Text :=
  let place : Text :=
    match fault.bytes with
    | [b] => "byte 0x" ++ Text.hexDigits 2 b.toNat ++ " in position " ++ Text.ofNat fault.position
    | bytes =>
      "bytes in position " ++ Text.ofNat fault.position ++ "-" ++
        Text.ofNat (fault.position + bytes.length - 1)
  "'utf-8' codec can't decode " ++ place ++ ": " ++ fault.trouble.message

end Utf8
end NoteTemplates
