import TagGateway.Decimal.Binary
import TagGateway.Text.Blank
import TagGateway.Text.Digit

/-!
# Numbers in text

Whole numbers and decimal numbers as people type them: blanks around, a sign, digits of any
script, and single underscores between digits.

* `readInt` reads a whole number and says why a text is none.
* `readFloat?` reads a decimal number, `inf`, `infinity` or `nan`, rounded to the nearest `Float`.
-/

namespace TagGateway.Decimal

open TagGateway.Text

/-- Why a text is not read as a whole number. -/
inductive IntFault
  /-- The text does not have the form of a whole number. -/
  | malformed
  /-- The text has more digits than are converted. -/
  | tooLong (digits : Nat)
deriving DecidableEq, Repr

/-- The most digits of a whole number that is converted. -/
def digitLimit : Nat := 4300

/-- Blanks that may stand around a number: all but the information separators of ASCII. -/
def isNumberBlank (c : Char) : Bool :=
  isBlank c && !(0x1C ≤ c.toNat && c.toNat ≤ 0x1F)

/-- A character in number texts: a digit with its value, or any other character. -/
inductive NumberChar
  | digit (value : Nat)
  | other (c : Char)
deriving DecidableEq

/-- The character with its value if it is a digit. -/
def NumberChar.of (c : Char) : NumberChar :=
  match decimalDigit? c with
  | some d => .digit d
  | none => .other c

/-- The text without its surrounding blanks, digits valued. -/
def numberChars (s : String) : List NumberChar :=
  (dropWhileEnd isNumberBlank (s.toList.dropWhile isNumberBlank)).map NumberChar.of

/-- The sign of a number, true for minus, and what follows it. -/
def takeSign : List NumberChar → Bool × List NumberChar
  | .other '-' :: rest => (true, rest)
  | .other '+' :: rest => (false, rest)
  | rest => (false, rest)

/-- The longest run of digits at the start, single underscores between them allowed, and what
follows it. An underscore that no digit follows belongs to what follows. -/
def takeDigits : List NumberChar → List Nat × List NumberChar
  | .digit d :: .other '_' :: .digit e :: rest =>
    let (ds, after) := takeDigits (.digit e :: rest)
    (d :: ds, after)
  | .digit d :: rest =>
    let (ds, after) := takeDigits rest
    (d :: ds, after)
  | rest => ([], rest)

/-- The number that a list of digits writes. -/
def ofDigits (ds : List Nat) : Nat := ds.foldl (fun n d => 10 * n + d) 0

/-- Read a whole number. -/
def readInt (s : String) : Except IntFault Int :=
  let (negative, rest) := takeSign (numberChars s)
  let (ds, after) := takeDigits rest
  if ds.isEmpty then .error .malformed
  else if after.head? == some (.other '_') then .error .malformed
  else if digitLimit < ds.length then .error (.tooLong ds.length)
  else if !after.isEmpty then .error .malformed
  else
    let n : Int := ofDigits ds
    .ok (if negative then -n else n)

/-- The nearest value to `digits · 10 ^ e`. Beyond these bounds the result is settled without
forming the power: it is infinite, or nothing. -/
def nearestDecimal (negative : Bool) (digits : Nat) (width : Nat) (e : Int) : Float :=
  if digits == 0 then nearest negative 0 1
  else if e > 400 then (if negative then -infinity else infinity)
  else if e + width < -400 then nearest negative 0 1
  else
    match e with
    | .ofNat k => nearest negative (digits * Nat.pow 10 k) 1
    | .negSucc k => nearest negative digits (Nat.pow 10 (k + 1))

/-- Letters of a word in lower case, to compare words written in ASCII. -/
def lowerWord (cs : List NumberChar) : List Char :=
  cs.map fun
    | .digit d => Char.ofNat (0x30 + d)
    | .other c => c.toLower

/-- The exponent part, if the text has one that is complete. -/
def takeExponent : List NumberChar → Option Int
  | [] => some 0
  | .other c :: rest =>
    if c == 'e' || c == 'E' then
      let (negative, rest) := takeSign rest
      match takeDigits rest with
      | ([], _) => none
      | (ds, []) => some (if negative then -(ofDigits ds : Int) else ofDigits ds)
      | _ => none
    else none
  | .digit _ :: _ => none

/-- Read a decimal number. -/
def readFloat? (s : String) : Option Float :=
  let (negative, rest) := takeSign (numberChars s)
  let word := lowerWord rest
  if word == "inf".toList || word == "infinity".toList then
    some (if negative then -infinity else infinity)
  else if word == "nan".toList then some notANumber
  else
    let (whole, rest) := takeDigits rest
    let (fraction, rest) := match rest with
      | .other '.' :: rest => takeDigits rest
      | rest => ([], rest)
    if whole.isEmpty && fraction.isEmpty then none
    else
      (takeExponent rest).map fun e =>
        nearestDecimal negative (ofDigits (whole ++ fraction)) (whole.length + fraction.length)
          (e - fraction.length)

end TagGateway.Decimal
