import TagGateway.Text.Quoted

/-!
# Bytes as text

A text is stored as one to four bytes a character. `decode` reads it back, or says at which bytes
it stops and why: a byte begins no character, a byte does not continue the one that is begun, or
the bytes end inside a character. Overlong forms, surrogates and numbers beyond the last character
count as bytes that do not continue.
-/

namespace TagGateway.Text.Utf8

/-- Why bytes are no text. -/
inductive Reason
  | start | continuation | cutOff
deriving DecidableEq, Repr

/-- The wording of a reason. -/
def Reason.message : Reason → String
  | start => "invalid start byte"
  | continuation => "invalid continuation byte"
  | cutOff => "unexpected end of data"

/-- Bytes that are no text: those of the character that was begun, from a position on. -/
structure Flaw where
  position : Nat
  bytes : List UInt8
  reason : Reason
deriving DecidableEq, Repr

/-- The wording of a flaw. -/
def Flaw.message (f : Flaw) : String :=
  "'utf-8' codec can't decode " ++
    (match f.bytes with
      | [b] => "byte 0x" ++ String.ofList (hexDigits 2 b.toNat) ++ " in position " ++
          toString f.position
      | bytes => "bytes in position " ++ toString f.position ++ "-" ++
          toString (f.position + bytes.length - 1)) ++
    ": " ++ f.reason.message

/-- A character that is begun: what its bytes say so far, how many are missing, and the bounds of
the next one. -/
structure Begun where
  value : Nat
  missing : Nat
  least : Nat
  greatest : Nat
  bytes : List UInt8

/-- The character that a byte begins; a byte below 128 is one by itself. -/
def begin? (b : UInt8) : Option Begun :=
  let n := b.toNat
  if n < 0x80 then some ⟨n, 0, 0x80, 0xBF, [b]⟩
  else if n < 0xC2 then none
  else if n < 0xE0 then some ⟨n - 0xC0, 1, 0x80, 0xBF, [b]⟩
  else if n < 0xF0 then
    some ⟨n - 0xE0, 2, if n = 0xE0 then 0xA0 else 0x80, if n = 0xED then 0x9F else 0xBF, [b]⟩
  else if n < 0xF5 then
    some ⟨n - 0xF0, 3, if n = 0xF0 then 0x90 else 0x80, if n = 0xF4 then 0x8F else 0xBF, [b]⟩
  else none

/-- The characters of bytes that begin at a position, or inside a character. -/
def decodeFrom (position : Nat) : Option Begun → List UInt8 → Except Flaw (List Char)
  | none, [] => .ok []
  | some begun, [] => .error ⟨position - begun.bytes.length, begun.bytes, .cutOff⟩
  | none, b :: rest =>
    match begin? b with
    | none => .error ⟨position, [b], .start⟩
    | some begun =>
      if begun.missing = 0 then
        (decodeFrom (position + 1) none rest).map (Char.ofNat begun.value :: ·)
      else decodeFrom (position + 1) (some begun) rest
  | some begun, b :: rest =>
    if begun.least ≤ b.toNat && b.toNat ≤ begun.greatest then
      let value := 64 * begun.value + (b.toNat - 0x80)
      if begun.missing = 1 then
        (decodeFrom (position + 1) none rest).map (Char.ofNat value :: ·)
      else
        decodeFrom (position + 1)
          (some ⟨value, begun.missing - 1, 0x80, 0xBF, begun.bytes ++ [b]⟩) rest
    else .error ⟨position - begun.bytes.length, begun.bytes, .continuation⟩

/-- The text that bytes store. -/
def decode (bs : List UInt8) : Except Flaw String :=
  (decodeFrom 0 none bs).map String.ofList

/-- The bytes that store a text. -/
def encode (s : String) : List UInt8 := s.toUTF8.toList

end TagGateway.Text.Utf8
