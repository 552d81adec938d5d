/-!
# Lines

Texts from elsewhere end their lines in more than one way. A text that is read from a file has one
character at the end of every line.

* `unifyLines` ends every line of a text the same way.
-/

namespace TagGateway.Text

/-- Characters with one character at the end of every line: a carriage return ends a line too,
alone or with a line feed after it. -/
def unified : List Char → List Char
  | '\r' :: '\n' :: rest => '\n' :: unified rest
  | '\r' :: rest => '\n' :: unified rest
  | c :: rest => c :: unified rest
  | [] => []

/-- The text with one character at the end of every line. -/
def unifyLines (s : String) : String := String.ofList (unified s.toList)

end TagGateway.Text
