/-!
# Names on the message bus

A message says by names where it goes: to which service, object, interface and member. Each kind of
name has its form.

* `NamePart.accepts` tells whether a text has the form of a name.
-/

namespace TagGateway.Bus

/-- The parts of a message that are names. -/
inductive NamePart
  | service | path | interface | member
deriving DecidableEq, Repr

/-- A letter of a name. -/
def isNameLetter (c : Char) : Bool := c.isAlpha || c == '_'

/-- A letter or digit of a name. -/
def isNameChar (c : Char) : Bool := isNameLetter c || c.isDigit

/-- A letter, digit or hyphen of a name. -/
def isHyphenChar (c : Char) : Bool := isNameChar c || c == '-'

/-- Whether a text is an element of a name: a first character, then others of a class. A line end
after it does not count. -/
def isElement (first other : Char → Bool) (cs : List Char) : Bool :=
  let cs := if cs.getLast? == some '\n' then cs.dropLast else cs
  match cs with
  | [] => false
  | c :: rest => first c && rest.all other

/-- The most characters of a name that is no path. -/
def nameLimit : Nat := 255

/-- Whether a text is a name with two elements or more, separated by points. -/
def isDotted (first other : Char → Bool) (name : String) : Bool :=
  let elements := name.toList.splitOn '.'
  name.length ≤ nameLimit && 2 ≤ elements.length && elements.all (isElement first other)

/-- Whether a text is the path of an object: the root, or elements with a slash before each. -/
def isObjectPath (path : String) : Bool :=
  path == "/" ||
    match path.toList with
    | '/' :: rest => (rest.splitOn '/').all (isElement isNameChar isNameChar)
    | _ => false

/-- Whether a text names a service: by the number of its connection after a colon, or by a name
with points. -/
def isServiceName (name : String) : Bool :=
  (name.startsWith ":" && name.length ≤ nameLimit) ||
    isDotted (fun c => isNameLetter c || c == '-') isHyphenChar name

/-- Whether a text names a member of an interface. -/
def isMemberName (name : String) : Bool :=
  name.length ≤ nameLimit && isElement isNameLetter isHyphenChar name.toList

/-- Whether a text has the form of a name. -/
def NamePart.accepts : NamePart → String → Bool
  | service => isServiceName
  | path => isObjectPath
  | interface => isDotted isNameLetter isNameChar
  | member => isMemberName

/-- The name of a part in messages. -/
def NamePart.title : NamePart → String
  | service => "bus name"
  | path => "object path"
  | interface => "interface name"
  | member => "member name"

end TagGateway.Bus
