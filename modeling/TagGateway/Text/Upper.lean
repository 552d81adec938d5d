import TagGateway.Text.CaseTable

/-!
# Upper case

The full upper-case form of a text: each character is replaced on its own, some by two or three
characters, so the form can be longer than the text.

* `upperChar` maps one character, ASCII letters directly and all others by the table.
* `upper` maps a text.
-/

namespace TagGateway.Text

/-- The place of a character in a run of the table, moved by the run's distance. -/
def CaseRun.image? (r : CaseRun) (n : Nat) : Option Nat :=
  if r.first ≤ n && n ≤ r.last && (n - r.first) % r.stride == 0 then
    some ((n : Int) + r.shift).toNat
  else none

/-- The upper-case form of a code point outside ASCII. -/
def upperBeyondAscii (n : Nat) : List Nat :=
  match caseExpansions.find? (·.1 == n) with
  | some (_, form) => form
  | none =>
    match caseRuns.findSome? (·.image? n) with
    | some m => [m]
    | none => [n]

/-- The upper-case form of one character. -/
def upperChar (c : Char) : List Char :=
  if c.toNat < 0x80 then [c.toUpper]
  else (upperBeyondAscii c.toNat).map Char.ofNat

/-- The upper-case form of a list of characters. -/
def upperChars (cs : List Char) : List Char := cs.flatMap upperChar

/-- The upper-case form of a text. -/
def upper (s : String) : String :=
  String.ofList (upperChars s.toList)

end TagGateway.Text
