import TagGateway.Assoc
import TagGateway.Fault
import TagGateway.Text.Blank
import TagGateway.Text.Lines

/-!
# Files of variables

A file of variables has lines of the form `NAME=value`. A name may follow the word `export` or
stand in single quotes; a name without a value sets nothing. A value is quoted or runs to the end
of its line, where a comment may follow. A line that has another form is skipped.

* `Binding.all` reads the bindings of a file.
* `Piece.all` finds the references to other variables in a value.
* `expanded` resolves the references of all bindings.
* `EnvFile.load` sets the variables that are not set yet, unless a variable forbids it.
-/

namespace TagGateway.EnvFile

open TagGateway.Text

/-- A name with its value, if it has one. -/
structure Binding where
  name : String
  value : Option String
deriving DecidableEq, Repr

/-- A reading step: from the characters at hand to a value and the characters left, or to the
characters at which it stopped. -/
abbrev Scan := StateT (List Char) (Except (List Char))

namespace Scan

/-- Stop here. -/
def stop {α : Type} : Scan α := fun cs => .error cs

/-- Pass over characters of a class. -/
def skip (p : Char → Bool) : Scan Unit := modify (·.dropWhile p)

/-- Take characters of a class. -/
def take (p : Char → Bool) : Scan (List Char) := fun cs => .ok (cs.takeWhile p, cs.dropWhile p)

end Scan

/-- A blank that does not end the line. -/
def isInlineBlank (c : Char) : Bool := isBlank c && c != '\n' && c != '\r'

/-- A character of a name that stands without quotes. -/
def isNameChar (c : Char) : Bool := !isBlank c && c != '=' && c != '#'

/-- Pass over the word `export` and the blanks after it, if blanks follow it. -/
def skipExport : Scan Unit := fun cs =>
  match cs with
  | 'e' :: 'x' :: 'p' :: 'o' :: 'r' :: 't' :: c :: rest =>
    .ok ((), if isInlineBlank c then rest.dropWhile isInlineBlank else cs)
  | _ => .ok ((), cs)

/-- The name of a binding; a comment has none. -/
def scanName : Scan (Option String) := do
  match ← get with
  | '#' :: _ => return none
  | c :: rest =>
    if c == singleQuote then
      match rest.takeWhile (· != singleQuote), rest.dropWhile (· != singleQuote) with
      | n :: name, _ :: after =>
        set after
        return some (String.ofList (n :: name))
      | _, _ => Scan.stop
    else
      match ← Scan.take isNameChar with
      | [] => Scan.stop
      | name => return some (String.ofList name)
  | [] => Scan.stop

/-- The characters up to the quote that closes a value, and those after it. A character after a
backslash belongs to the value. -/
def quotedBody (quote : Char) : List Char → Option (List Char × List Char)
  | [] => none
  | '\\' :: c :: rest =>
    (quotedBody quote rest).map fun (body, after) => ('\\' :: c :: body, after)
  | c :: rest =>
    if c == quote then some ([], rest)
    else (quotedBody quote rest).map fun (body, after) => (c :: body, after)

/-- The character that a letter after a backslash stands for in double quotes. -/
def doubleQuoteEscape? : Char → Option Char
  | '\\' => some '\\'
  | 'a' => some '\x07'
  | 'b' => some '\x08'
  | 'f' => some '\x0c'
  | 'n' => some '\n'
  | 'r' => some '\r'
  | 't' => some '\t'
  | 'v' => some '\x0b'
  | c => if c == singleQuote || c == doubleQuote then some c else none

/-- The character that one after a backslash stands for in single quotes. -/
def singleQuoteEscape? (c : Char) : Option Char :=
  if c == '\\' || c == singleQuote then some c else none

/-- Replace the escapes of a class by the characters that they stand for. -/
def unescape (escape? : Char → Option Char) : List Char → List Char
  | [] => []
  | '\\' :: c :: rest =>
    match escape? c with
    | some d => d :: unescape escape? rest
    | none => '\\' :: unescape escape? (c :: rest)
  | c :: rest => c :: unescape escape? rest

/-- The characters before a comment: a number sign after blanks, with these blanks. -/
def beforeComment : List Char → List Char
  | [] => []
  | c :: rest =>
    if isBlank c && (rest.dropWhile isBlank).head? == some '#' then []
    else c :: beforeComment rest

/-- A value in quotes. -/
def scanQuoted (quote : Char) (escape? : Char → Option Char) : Scan String := do
  match quotedBody quote ((← get).drop 1) with
  | some (body, after) =>
    set after
    return String.ofList (unescape escape? body)
  | none => Scan.stop

/-- A value without quotes: the rest of the line, up to a comment. -/
def scanPlain : Scan String := do
  let line ← Scan.take (fun c => c != '\n' && c != '\r')
  return String.ofList (dropWhileEnd isBlank (beforeComment line))

/-- The value of a binding, after the equals sign. A comment after blanks leaves it empty. -/
def scanValue : Scan String := do
  let blanks ← Scan.take isInlineBlank
  match ← get with
  | [] => return ""
  | '#' :: _ =>
    if blanks.isEmpty then scanPlain else return ""
  | c :: _ =>
    if c == singleQuote then scanQuoted singleQuote singleQuoteEscape?
    else if c == doubleQuote then scanQuoted doubleQuote doubleQuoteEscape?
    else scanPlain

/-- Pass over a comment, blanks and the end of the line; stop at anything else. -/
def scanEnd : Scan Unit := do
  Scan.skip isInlineBlank
  if (← get).head? == some '#' then Scan.skip (· != '\n')
  match ← get with
  | [] => return
  | '\n' :: rest => set rest
  | _ => Scan.stop

/-- A binding at the start of a line; a comment is none. -/
def scanBinding : Scan (Option Binding) := do
  skipExport
  let name ← scanName
  Scan.skip isInlineBlank
  let value ← if (← get).head? == some '=' then
      modify (·.drop 1)
      some <$> scanValue
    else pure none
  scanEnd
  return name.map (⟨·, value⟩)

namespace Binding

/-- The next binding, if there is one, and the characters after it. After anything else the line
is skipped at which reading stopped. -/
def next (cs : List Char) : Option Binding × List Char :=
  match cs.dropWhile isBlank with
  | [] => (none, [])
  | start =>
    match scanBinding.run start with
    | .ok (binding, rest) => (binding, rest)
    | .error rest => (none, (rest.dropWhile (· != '\n')).drop 1)

/-- The bindings in a list of characters. Every step takes at least one character. -/
def all (cs : List Char) : List Binding :=
  if cs.isEmpty then []
  else
    let (binding, rest) := next cs
    if rest.length < cs.length then binding.toList ++ all rest else binding.toList
termination_by cs.length

end Binding

/-- A piece of a value: a character, or a reference to a variable with the text that stands for
it if it is not set. -/
inductive Piece
  | char (c : Char)
  | reference (name fallback : String)
deriving DecidableEq, Repr

namespace Piece

/-- The reference whose name begins the characters, and the characters after it. -/
def reference? (cs : List Char) : Option (Piece × List Char) :=
  let name := String.ofList (cs.takeWhile fun c => c != '}' && c != ':')
  match cs.dropWhile fun c => c != '}' && c != ':' with
  | '}' :: after => some (.reference name "", after)
  | ':' :: '-' :: rest =>
    match rest.dropWhile (· != '}') with
    | '}' :: after => some (.reference name (String.ofList (rest.takeWhile (· != '}'))), after)
    | _ => none
  | _ => none

/-- The pieces of a value: a reference is a name in braces after a dollar sign. -/
def all : List Char → List Piece
  | [] => []
  | '$' :: '{' :: rest =>
    match reference? rest with
    | some (piece, after) =>
      if after.length < rest.length then piece :: all after else [piece]
    | none => .char '$' :: all ('{' :: rest)
  | c :: rest => .char c :: all rest
termination_by cs => cs.length

/-- The text of a piece when the variables have these values. -/
def resolve (lookup : String → Option String) : Piece → String
  | char c => c.toString
  | reference name fallback => (lookup name).getD fallback

end Piece

/-- The value of a reference: the variable that is set already, else an earlier binding of the
file, where a name without a value stands for nothing. -/
def lookup (vars : List (String × String)) (earlier : List (String × Option String))
    (name : String) : Option String :=
  match Assoc.get? name vars with
  | some v => some v
  | none => (Assoc.get? name earlier).map (·.getD "")

/-- The names of a file with their values, references resolved. The last binding of a name
counts. -/
def expanded (vars : List (String × String)) (bindings : List Binding) :
    List (String × Option String) :=
  bindings.foldl (fun earlier b =>
    let value := b.value.map fun text =>
      String.join ((Piece.all text.toList).map (Piece.resolve (lookup vars earlier)))
    Assoc.put b.name value earlier) []

/-- Set a variable. Its name is not empty and has no equals sign, and neither name nor value has a
null character. -/
def set (vars : List (String × String)) (name value : String) :
    Except Fault (List (String × String)) :=
  if name.contains '\x00' || value.contains '\x00' then .error .nullCharacter
  else if name.contains '=' then .error .illegalVariable
  else if name.isEmpty then .error (.system "[Errno 22] Invalid argument")
  else .ok (Assoc.put name value vars)

/-- Set a variable that is not set. -/
def setIfUnset (vars : List (String × String)) (name value : String) :
    Except Fault (List (String × String)) :=
  if Assoc.has name vars then .ok vars else set vars name value

/-- The variable that forbids to load files. -/
def forbidding : String := "PYTHON_DOTENV_DISABLED"

/-- The small letter of one that is compared without regard to case. -/
def folded (c : Char) : Char := if c == 'ſ' then 's' else c.toLower

/-- Whether the variables forbid to load files: by one of five words in any case. -/
def isForbidden (vars : List (String × String)) : Bool :=
  match Assoc.get? forbidding vars with
  | some value => ["1", "true", "t", "yes", "y"].contains (String.ofList (value.toList.map folded))
  | none => false

/-- The text of a file without the mark of its encoding at the start. -/
def withoutMark : List Char → List Char
  | [] => []
  | c :: rest => if c == '\uFEFF' then rest else c :: rest

/-- The variables after those of a file have been set. -/
def load (text : String) (vars : List (String × String)) :
    Except Fault (List (String × String)) :=
  if isForbidden vars then .ok vars
  else
    (expanded vars (Binding.all (Text.unified (withoutMark text.toList)))).foldlM
      (fun vs (name, value) =>
        match value with
        | some v => setIfUnset vs name v
        | none => .ok vs)
      vars

end TagGateway.EnvFile
