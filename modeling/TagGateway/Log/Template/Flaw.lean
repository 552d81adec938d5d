import TagGateway.Text.Quoted

/-!
# Flaws of templates

What keeps a template from being filled in.

* `Flaw.message` words a flaw, `Flaw.title` names its class.
-/

namespace TagGateway.Log.Template

/-- What is wrong with a template. -/
inductive Flaw
  /-- A name whose parenthesis is not closed. -/
  | openName
  /-- A template that ends in a directive. -/
  | cutOff
  | unknownName (name : String)
  /-- More places without names than there are values. -/
  | noMoreValues
  /-- A width or a precision is to be taken from a value that is not whole. -/
  | widthNotWhole
  | widthTooBig
  | precisionTooBig
  /-- More digits than a whole number is written with. -/
  | precisionTooLarge
  /-- A width taken from a value that no machine word holds. -/
  | widthRange
  /-- A precision taken from a value that no short machine word holds. -/
  | precisionRange
  /-- A width for which there is no room. -/
  | noRoom
  | unknownLetter (c : Char) (index : Nat)
  /-- A number without end, or none at all, where a whole number is wanted. -/
  | notFinite (isNaN : Bool)
  /-- A value that is no number where one is wanted. -/
  | notReal (letter : Char) (kind : String)
  /-- A value that is not whole where digits of another base are wanted. -/
  | notWhole (letter : Char) (kind : String)
  | notDecimal (kind : String)
  | notCharacter
  | characterRange
  | tooLarge
deriving DecidableEq, Repr

namespace Flaw

/-- The wording of a flaw. -/
def message : Flaw → String
  | openName => "incomplete format key"
  | cutOff => "incomplete format"
  | unknownName name => "Formatting field not found in record: " ++ Text.quoted name
  | noMoreValues => "not enough arguments for format string"
  | widthNotWhole => "* wants int"
  | widthTooBig => "width too big"
  | precisionTooBig => "precision too big"
  | precisionTooLarge => "precision too large"
  | widthRange => "Python int too large to convert to C ssize_t"
  | precisionRange => "Python int too large to convert to C int"
  | noRoom => ""
  | unknownLetter c index =>
    "unsupported format character '" ++
      (if 31 ≤ c.toNat && c.toNat ≤ 126 then c else '?').toString ++ "' (0x" ++
      String.ofList (Nat.toDigits 16 c.toNat) ++ ") at index " ++ toString index
  | notFinite true => "cannot convert float NaN to integer"
  | notFinite false => "cannot convert float infinity to integer"
  | notReal letter kind =>
    "%" ++ letter.toString ++ " format: a real number is required, not " ++ kind
  | notWhole letter kind =>
    "%" ++ letter.toString ++ " format: an integer is required, not " ++ kind
  | notDecimal kind => "must be real number, not " ++ kind
  | notCharacter => "%c requires int or char"
  | characterRange => "%c arg not in range(0x110000)"
  | tooLarge => "int too large to convert to float"

/-- The class of a flaw. -/
def title : Flaw → String
  | openName | cutOff | unknownName _ | unknownLetter .. | widthTooBig | precisionTooBig
  | notFinite true => "ValueError"
  | noRoom => "MemoryError"
  | precisionTooLarge | characterRange | tooLarge | widthRange | precisionRange
  | notFinite false => "OverflowError"
  | _ => "TypeError"

end Flaw

end TagGateway.Log.Template
