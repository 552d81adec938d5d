import TagGateway.CommandLine.Similar
import TagGateway.CommandLine.Usage

/-!
# The words of a command line

The words of a command line are switches with their values, and operands.

* A word that begins with a hyphen holds a switch: by its name, with the value after an equals sign
  or in the next word, or by letters, the value being the rest of the word or the next one.
* After the word `--` all words are operands. So they are after the first operand where a command
  is to follow.
* `Words.read` tells switches and operands apart.
-/

namespace TagGateway.CommandLine

/-- A switch with its value, which is empty for one that takes none. -/
structure Given where
  switch : Switch
  value : String := ""
deriving DecidableEq, Repr

/-- What the words of a command line are. -/
structure Words where
  given : List Given := []
  operands : List String := []
deriving DecidableEq, Repr

/-- What a word gives, and whether the next word is a value in it. -/
abbrev Word := List Given × Bool

namespace Words

/-- The part before an equals sign and the part after it, if there is one. -/
def splitValue (word : String) : String × Option String :=
  let cs := word.toList
  match cs.dropWhile (· != '=') with
  | [] => (word, none)
  | _ :: value => (String.ofList (cs.takeWhile (· != '=')), some (String.ofList value))

/-- A switch with its value: what is attached to its name, or else the next word. -/
def withValue (s : Switch) (name : String) (attached next : Option String) :
    Except UsageFault Word :=
  match attached, next with
  | some value, _ => .ok ([⟨s, value⟩], false)
  | none, some value => .ok ([⟨s, value⟩], true)
  | none, none => .error (.valueMissing name)

/-- The switches that letters stand for. -/
def readLetters (known : List Switch) (next : Option String) :
    List Char → Except UsageFault Word
  | [] => .ok ([], false)
  | c :: rest =>
    let name := "-" ++ String.ofList [c]
    match known.find? (·.letter? == some c) with
    | none => .error (.unknownSwitch name [])
    | some s =>
      if s.takesValue then
        withValue s name (if rest.isEmpty then none else some (String.ofList rest)) next
      else
        (readLetters known next rest).map fun (given, taken) => (⟨s, ""⟩ :: given, taken)

/-- What a word that begins with a hyphen gives. -/
def readSwitch (known : List Switch) (word : String) (next : Option String) :
    Except UsageFault Word :=
  let (name, attached) := splitValue word
  match known.find? (·.name == name) with
  | some s =>
    if s.takesValue then withValue s name attached next
    else if attached.isSome then .error (.valueGiven name)
    else .ok ([⟨s, ""⟩], false)
  | none =>
    match word.toList with
    | '-' :: '-' :: _ => .error (.unknownSwitch name (similar (known.map (·.name)) name))
    | _ :: letters => readLetters known next letters
    | [] => .ok ([], false)

/-- Whether a word holds a switch: it begins with a hyphen, and more follows. -/
def holdsSwitch (word : String) : Bool :=
  match word.toList with
  | '-' :: _ :: _ => true
  | _ => false

/-- What the words are. Switches may stand after operands or not. -/
def read (known : List Switch) (mixed : Bool) : List String → Except UsageFault Words
  | [] => .ok {}
  | word :: rest =>
    if word == "--" then .ok { operands := rest }
    else if holdsSwitch word then
      match readSwitch known word rest.head?, rest with
      | .error e, _ => .error e
      | .ok (given, true), _ :: rest => (read known mixed rest).map (prepend given)
      | .ok (given, _), rest => (read known mixed rest).map (prepend given)
    else if mixed then
      (read known mixed rest).map fun w => { w with operands := word :: w.operands }
    else .ok { operands := word :: rest }
where
  /-- Put switches in front. -/
  prepend (given : List Given) (w : Words) : Words := { w with given := given ++ w.given }

/-- All values of a switch. -/
def values (w : Words) (s : Switch) : List String :=
  (w.given.filter (·.switch == s)).map (·.value)

/-- The value of a switch: the last one that was given. -/
def value? (w : Words) (s : Switch) : Option String := (w.values s).getLast?

/-- Whether a switch is given. -/
def has (w : Words) (s : Switch) : Bool := w.given.any (·.switch == s)

/-- The first switch that is obeyed before all else. -/
def urgent? (w : Words) : Option Switch := (w.given.map (·.switch)).find? (·.isUrgent)

end Words

end TagGateway.CommandLine
