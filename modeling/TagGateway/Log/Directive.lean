import TagGateway.Log.Template.Flaw
import TagGateway.Value

/-!
# Directives

A place of a template is a percent sign and a directive: a name in parentheses, flags, a width, a
precision and a letter that says how a field is written.

* `Field` is what stands at a place.
* `Directive.read` reads what follows a percent sign.
* `Directive.write` writes a field as a directive asks.
-/

namespace TagGateway.Log

/-- What stands at a place of a template. -/
inductive Field
  | value (v : Value)
  /-- All named values at once, which a place without a name stands for. -/
  | all

namespace Field

/-- The name of the kind of a field in messages. -/
def kind : Field → String
  | value v => v.kind.name
  | all => Value.Kind.dict.name

/-- The number that a field stands for. -/
def number? : Field → Option Number
  | value v => v.number?
  | all => none

/-- The text of a field inside a collection. -/
def shown : Field → String
  | value v => v.shown
  | all => ""

/-- The text of a field for people. -/
def display : Field → String
  | value v => v.display
  | all => ""

end Field

/-- A width or a precision. -/
inductive Extent
  | unsaid
  | number (n : Nat)
  /-- To be taken from a value of its own. -/
  | star
deriving DecidableEq, Repr

/-- The number of a width or a precision, if it is said. -/
def Extent.number? : Extent → Option Nat
  | number n => some n
  | _ => none

/-- How a value is to be written at a place. -/
structure Directive where
  name : Option String := none
  leftAligned : Bool := false
  signed : Bool := false
  /-- A blank stands for the sign of a number that is not negative. -/
  blank : Bool := false
  alternate : Bool := false
  zeros : Bool := false
  width : Extent := .unsaid
  precision : Extent := .unsaid
  /-- The letter that says how the value is written, unless the template ends before it. -/
  letter? : Option Char
  /-- How many characters the directive has, with its letter. -/
  size : Nat
deriving DecidableEq, Repr

namespace Directive

/-- The characters of a name up to the parenthesis that closes it, and those after it; there may
be parentheses inside. -/
def readName : Nat → List Char → Option (List Char × List Char)
  | _, [] => none
  | depth, ')' :: rest =>
    match depth with
    | 0 => some ([], rest)
    | depth + 1 => (readName depth rest).map fun (name, rest) => (')' :: name, rest)
  | depth, '(' :: rest => (readName (depth + 1) rest).map fun (name, rest) => ('(' :: name, rest)
  | depth, c :: rest => (readName depth rest).map fun (name, rest) => (c :: name, rest)

/-- The flags of directives. -/
def flags : List Char := ['-', '+', ' ', '#', '0']

/-- A width: a number, a star, or nothing; and what follows it. -/
def readWidth : List Char → Extent × List Char
  | '*' :: rest => (.star, rest)
  | cs =>
    match cs.takeWhile Char.isDigit with
    | [] => (.unsaid, cs)
    | digits =>
      (.number (digits.foldl (fun n c => 10 * n + (c.toNat - '0'.toNat)) 0),
        cs.dropWhile Char.isDigit)

/-- A precision after a point; without digits it is zero. -/
def readPrecision : List Char → Extent × List Char
  | '.' :: rest =>
    match readWidth rest with
    | (.unsaid, rest) => (.number 0, rest)
    | (precision, rest) => (precision, rest)
  | cs => (.unsaid, cs)

/-- Read what follows a percent sign. -/
def read (cs : List Char) : Except Template.Flaw (Directive × List Char) := do
  let (name, start) ← match cs with
    | '(' :: rest =>
      match readName 0 rest with
      | some (name, rest) => pure (some (String.ofList name), rest)
      | none => throw .openName
    | cs => pure (none, cs)
  let given := start.takeWhile flags.contains
  let (width, rest) := readWidth (start.dropWhile flags.contains)
  let (precision, rest) := readPrecision rest
  let rest := match rest with
    | c :: more => if ['h', 'l', 'L'].contains c then more else rest
    | [] => []
  let after := rest.drop 1
  return ({
    name, width, precision, letter? := rest.head?
    leftAligned := given.contains '-'
    signed := given.contains '+'
    blank := given.contains ' '
    alternate := given.contains '#'
    zeros := given.contains '0'
    size := cs.length - after.length }, after)

/-- A text with filling up to the width: blanks after it or before it, or, for a number with the
flag for it, zeros between its sign and base and its digits. -/
def pad (d : Directive) (lead body : List Char) (isNumber : Bool) : List Char :=
  let room := d.width.number?.getD 0 - (lead.length + body.length)
  if d.leftAligned then lead ++ body ++ List.replicate room ' '
  else if isNumber && d.zeros then lead ++ List.replicate room '0' ++ body
  else List.replicate room ' ' ++ lead ++ body

/-- The sign of a number. -/
def sign (d : Directive) (negative : Bool) : List Char :=
  if negative then ['-'] else if d.signed then ['+'] else if d.blank then [' '] else []

/-- The digits of a whole number in a base, at least as many as the precision says. -/
def digits (d : Directive) (base n : Nat) : List Char :=
  let ds := Nat.toDigits base n
  List.replicate (d.precision.number?.getD 0 - ds.length) '0' ++ ds

/-- The bound of the digits that a whole number is written with. -/
def digitLimit : Nat := Nat.pow 2 31 - 4

/-- A whole number in a base, after the prefix of the base if that is asked for. -/
def writeWhole (d : Directive) (base : Nat) (upper : Bool) (n : Int) :
    Except Template.Flaw (List Char) :=
  let raise (cs : List Char) : List Char := if upper then cs.map Char.toUpper else cs
  let base? := if d.alternate && base != 10 then ['0', if base == 8 then 'o' else 'x'] else []
  if digitLimit < d.precision.number?.getD 0 then .error .precisionTooLarge
  else .ok (d.pad (d.sign (n < 0) ++ raise base?) (raise (d.digits base n.natAbs)) true)

/-- The exponent of a number in scientific form. -/
def exponent (e : Int) : List Char :=
  let ds := Nat.toDigits 10 e.natAbs
  (if e < 0 then '-' else '+') :: (if ds.length < 2 then '0' :: ds else ds)

/-- The first significant digits of a quotient that is not negative, as many as asked for, and its
decimal exponent. -/
def significant (count num den : Nat) : List Char × Int :=
  if num = 0 then (List.replicate count '0', 0)
  else
    let point := Decimal.pointPlace num den
    let (n, d) := Decimal.scaleTen num den (count - point)
    let rounded := Nat.toDigits 10 (Decimal.roundDiv n d)
    if rounded.length ≤ count then (rounded, point - 1) else (rounded.dropLast, point)

/-- Digits with a point after the first ones; without digits after it the point is left out unless
it is asked for. -/
def pointed (d : Directive) (whole fraction : List Char) : List Char :=
  if fraction.isEmpty && !d.alternate then whole else whole ++ '.' :: fraction

/-- A quotient with so many digits after the point. -/
def fixed (d : Directive) (places num den : Nat) : List Char :=
  let ds := Nat.toDigits 10 (Decimal.roundDiv (num * Nat.pow 10 places) den)
  let ds := List.replicate (places + 1 - ds.length) '0' ++ ds
  d.pointed (ds.take (ds.length - places)) (ds.drop (ds.length - places))

/-- A quotient in scientific form, with so many digits after the point. -/
def scientific (d : Directive) (places num den : Nat) : List Char :=
  let (ds, e) := significant (places + 1) num den
  d.pointed (ds.take 1) (ds.drop 1) ++ 'e' :: exponent e

/-- Digits after a point without the zeros at their end, unless these are asked for. -/
def trimmed (d : Directive) (fraction : List Char) : List Char :=
  if d.alternate then fraction else (fraction.reverse.dropWhile (· == '0')).reverse

/-- A quotient with so many significant digits: in scientific form if not all digits before the
point are among them, or if more than four zeros would lead; else positional. -/
def shorter (d : Directive) (count num den : Nat) : List Char :=
  let (ds, e) := significant count num den
  if e < -4 || count ≤ e then
    d.pointed (ds.take 1) (d.trimmed (ds.drop 1)) ++ 'e' :: exponent e
  else if e < 0 then
    d.pointed ['0'] (d.trimmed (List.replicate (e.natAbs - 1) '0' ++ ds))
  else d.pointed (ds.take (e.toNat + 1)) (d.trimmed (ds.drop (e.toNat + 1)))

/-- The precision that no count of digits after the first one reaches; it counts as none. -/
def precisionLimit : Nat := Nat.pow 2 31 - 1

/-- A bound of the significant digits that a floating point number has: all after them are zeros. -/
def exactDigits : Nat := 1100

/-- A finite number without its sign, as a letter asks. -/
def magnitude (d : Directive) (letter : Char) (v : Decimal.Scaled) : List Char :=
  let (num, den) := Decimal.scaleTwo v.mantissa 1 v.exponent
  let places := d.precision.number?.getD 6
  match letter.toLower with
  | 'e' => d.scientific (if places < precisionLimit then places else 0) num den
  | 'f' => d.fixed places num den
  | _ =>
    let count := max places 1
    d.shorter (if d.alternate then count else min count exactDigits) num den

/-- A floating point number as a letter asks. -/
def writeReal (d : Directive) (letter : Char) (x : Float) : List Char :=
  let (negative, body) := match Decimal.finite? x with
    | some v => (v.negative, d.magnitude letter v)
    | none => if x.isNaN then (false, ['n', 'a', 'n']) else (x < 0, ['i', 'n', 'f'])
  d.pad (d.sign negative) (if letter.isUpper then body.map Char.toUpper else body) true

/-- A text, of which the precision leaves the first characters. -/
def writeText (d : Directive) (cs : List Char) : List Char :=
  d.pad [] (match d.precision.number? with
    | some n => cs.take n
    | none => cs) false

/-- A character of a quoted text in ASCII: any other is spelled out by its number. -/
def inAscii (c : Char) : List Char :=
  let n := c.toNat
  if n < 0x80 then [c]
  else if n < 0x100 then '\\' :: 'x' :: Text.hexDigits 2 n
  else if n < 0x10000 then '\\' :: 'u' :: Text.hexDigits 4 n
  else '\\' :: 'U' :: Text.hexDigits 8 n

/-- The bound of widths for which there is room. -/
def roomLimit : Nat := Nat.pow 2 40

/-- The whole number that a field stands for. -/
def wholeOf (letter : Char) (v : Field) : Except Template.Flaw Int :=
  match v.number? with
  | some (.whole n) => .ok n
  | some (.real x) =>
    match Decimal.finite? x with
    | some v => .ok v.truncate
    | none => .error (.notFinite x.isNaN)
  | none => .error (.notReal letter v.kind)

/-- The whole number that a field is. -/
def exactWholeOf (letter : Char) (v : Field) : Except Template.Flaw Int :=
  match v.number? with
  | some (.whole n) => .ok n
  | _ => .error (.notWhole letter v.kind)

/-- The floating point number that a field stands for. -/
def realOf (v : Field) : Except Template.Flaw Float :=
  match v.number? with
  | none => .error (.notDecimal v.kind)
  | some n =>
    match n.toFloat? with
    | some x => .ok x
    | none => .error .tooLarge

/-- The character that a field stands for. -/
def characterOf (v : Field) : Except Template.Flaw Char :=
  match v, v.number? with
  | .value (.text s), _ =>
    match s.toList with
    | [c] => .ok c
    | _ => .error .notCharacter
  | _, some (.whole n) =>
    if 0 ≤ n && n < 0x110000 then .ok (Char.ofNat n.toNat) else .error .characterRange
  | _, _ => .error .notCharacter

/-- A field as a letter asks. The index is that of the letter in the template. -/
def writeAs (d : Directive) (index : Nat) (letter : Char) (v : Field) :
    Except Template.Flaw (List Char) :=
  match letter with
  | 's' => .ok (d.writeText v.display.toList)
  | 'r' => .ok (d.writeText v.shown.toList)
  | 'a' => .ok (d.writeText (v.shown.toList.flatMap inAscii))
  | 'd' | 'i' | 'u' => wholeOf letter v >>= d.writeWhole 10 false
  | 'o' => exactWholeOf letter v >>= d.writeWhole 8 false
  | 'x' => exactWholeOf letter v >>= d.writeWhole 16 false
  | 'X' => exactWholeOf letter v >>= d.writeWhole 16 true
  | 'c' => (characterOf v).map fun c => d.pad [] [c] false
  | 'e' | 'E' | 'f' | 'F' | 'g' | 'G' => (realOf v).map (d.writeReal letter)
  | c => .error (.unknownLetter c index)

/-- A field as a directive asks, if there is room for it. The room is asked for when the field is
written without it. -/
def write (d : Directive) (index : Nat) (letter : Char) (v : Field) :
    Except Template.Flaw (List Char) :=
  if roomLimit ≤ d.width.number?.getD 0 then
    { d with width := .unsaid }.writeAs index letter v >>= fun _ => .error .noRoom
  else d.writeAs index letter v

end Directive

end TagGateway.Log
