import TagGateway.Decimal.Reading

/-!
# Numbers that name their base

A whole number can be written in base sixteen, eight or two after the mark `0x`, `0o` or `0b`, and
in base ten without a mark. In base ten only zero begins with a zero.

* `readNumeral?` reads such a number, with the blanks, signs and underscores of `readInt`.
-/

namespace TagGateway.Decimal

open TagGateway.Text

/-- The base that a letter stands for in a mark. -/
def baseOfMark? (c : Char) : Option Nat :=
  match c with
  | 'x' | 'X' => some 16
  | 'o' | 'O' => some 8
  | 'b' | 'B' => some 2
  | _ => none

/-- The character as a digit of a base, if it is one there. -/
def NumberChar.inBase (base : Nat) : NumberChar → NumberChar
  | .digit d => if d < base then .digit d else .other (Char.ofNat (0x30 + d))
  | .other c =>
    match hexValue? c with
    | some v => if v < base then .digit v else .other c
    | none => .other c

/-- The number that digits of a base write. -/
def ofDigitsIn (base : Nat) (ds : List Nat) : Nat := ds.foldl (fun n d => base * n + d) 0

/-- The number that all of these characters write in a base. -/
def readIn? (base : Nat) (cs : List NumberChar) : Option Nat :=
  match takeDigits (cs.map (·.inBase base)) with
  | ([], _) => none
  | (ds, []) => some (ofDigitsIn base ds)
  | _ => none

/-- The number that characters write in base ten: with no leading zero unless it is zero, and not
with more digits than are converted. -/
def readPlain? (cs : List NumberChar) : Option Nat :=
  match takeDigits cs with
  | ([], _) => none
  | (ds, []) =>
    if digitLimit < ds.length then none
    else if cs.head? == some (.digit 0) && ofDigits ds != 0 then none
    else some (ofDigits ds)
  | _ => none

/-- The number that characters without a sign write in the base that they name. One underscore may
stand between the mark and the digits. -/
def readUnsigned? (cs : List NumberChar) : Option Nat :=
  match cs with
  | .digit 0 :: .other c :: rest =>
    match baseOfMark? c with
    | some base =>
      match rest with
      | .other '_' :: rest => readIn? base rest
      | rest => readIn? base rest
    | none => readPlain? cs
  | cs => readPlain? cs

/-- Read a whole number in the base that it names. -/
def readNumeral? (s : String) : Option Int :=
  let (negative, rest) := takeSign (numberChars s)
  (readUnsigned? rest).map fun n => if negative then -(n : Int) else n

end TagGateway.Decimal
