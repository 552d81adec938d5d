import TagGateway.Text.PrintableTable

/-!
# Quoted texts in messages

A text inside a message is put between quotes and what has no glyph is spelled out, so that a
reader sees exactly which characters it holds.

* The quote is the single one, unless the text has a single and no double quote.
* A backslash and the quote in use get a backslash; tab, line feed and carriage return have
  letters; any other character without a glyph is written by its number in hexadecimal, with two,
  four or eight digits.
-/

namespace TagGateway.Text

/-- The single quotation mark. -/
def singleQuote : Char := Char.ofNat 0x27

/-- The double quotation mark. -/
def doubleQuote : Char := Char.ofNat 0x22

/-- A character that is shown as itself. -/
def hasGlyph (c : Char) : Bool :=
  let n := c.toNat
  if n < 0x80 then 0x20 ≤ n && n < 0x7F
  else
    let bounds := glyphlessBasic ++ glyphlessBeyond
    (bounds.foldl (fun passed b => if b ≤ n then passed + 1 else passed) 0) % 2 == 0

/-- The lower-case hexadecimal digit of a number below sixteen. -/
def hexDigit (n : Nat) : Char :=
  if n < 10 then Char.ofNat (0x30 + n) else Char.ofNat (0x57 + n)

/-- The last `width` hexadecimal digits of a number. -/
def hexDigits : Nat → Nat → List Char
  | 0, _ => []
  | width + 1, n => hexDigits width (n / 16) ++ [hexDigit (n % 16)]

/-- One character of a quoted text. -/
def quoteChar (quote : Char) (c : Char) : List Char :=
  if c == '\\' || c == quote then ['\\', c]
  else if c == '\t' then ['\\', 't']
  else if c == '\n' then ['\\', 'n']
  else if c == '\r' then ['\\', 'r']
  else if hasGlyph c then [c]
  else if c.toNat < 0x100 then '\\' :: 'x' :: hexDigits 2 c.toNat
  else if c.toNat < 0x10000 then '\\' :: 'u' :: hexDigits 4 c.toNat
  else '\\' :: 'U' :: hexDigits 8 c.toNat

/-- The quotation mark used for a text with these characters. -/
def quoteMark (cs : List Char) : Char :=
  if cs.contains singleQuote && !cs.contains doubleQuote then doubleQuote else singleQuote

/-- The text between quotation marks, with all it holds made visible. -/
def quoted (s : String) : String :=
  let q := quoteMark s.toList
  String.ofList (q :: s.toList.flatMap (quoteChar q) ++ [q])

/-- One byte of a quoted byte string; only printable ASCII stands for itself. -/
def quoteByte (quote : Char) (b : UInt8) : List Char :=
  let c := Char.ofNat b.toNat
  if b.toNat < 0x80 then quoteChar quote c else '\\' :: 'x' :: hexDigits 2 b.toNat

/-- A byte string between quotation marks, marked by a leading letter. -/
def quotedBytes (bs : List UInt8) : String :=
  let q := quoteMark (bs.map fun b => Char.ofNat b.toNat)
  String.ofList ('b' :: q :: bs.flatMap (quoteByte q) ++ [q])

end TagGateway.Text
