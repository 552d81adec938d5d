import TagGateway.EnvFile
import TagGateway.Path
import TagGateway.Value.Access
import TagGateway.Value.Conversion

/-!
# Reading settings

A setting is a value under a key: an override if there is one, else the text of a variable of the
surroundings. It is read as a text, a number, a switch, a path or a list, each with a fallback for
a setting that has no value.

* `Surroundings.ofVariables` starts from variables; `Surroundings.loadFile` takes up a file of
  variables and says whether it was there.
* `Settings.find?` is the value under a key; the other functions read it.
-/

namespace TagGateway

/-- Where the program runs: its directory and its variables. -/
structure Surroundings where
  directory : String
  vars : List (String × String) := []

/-- The surroundings in a directory with some variables, whose values have to be texts. -/
def Surroundings.ofVariables (directory : String) (vars : List (String × Value)) :
    Except Fault Surroundings := do
  let vars ← vars.foldlM (fun vars (name, value) =>
    match value with
    | .text text => EnvFile.set vars name text
    | v => .error (.textWanted v.kind)) []
  return { directory, vars }

/-- Take up a file of variables, if it is there. Variables that are set keep their values. -/
def Surroundings.loadFile (place : Surroundings) (name : String) (content : Option String) :
    Except Fault (Surroundings × Notice) :=
  match content with
  | some text =>
    (EnvFile.load text place.vars).map fun vars =>
      ({ place with vars }, ⟨.info, "Loaded configuration from " ++ name, none⟩)
  | none =>
    .ok (place, ⟨.debug,
      "Environment file " ++ name ++ " not found, using system environment", none⟩)

/-- The settings of a program. -/
structure Settings where
  /-- Values that take precedence over the variables. Those of a command line are texts; others may
  be of any kind. -/
  overrides : List (String × Value) := []
  place : Surroundings

namespace Settings

/-- The key that a value is. -/
def keyOf : Value → Except Fault String
  | .text key => .ok key
  | v => .error (v.keyFault?.getD (.textWanted v.kind))

/-- The value under a key. An override without a value hides the variable. -/
def find? (s : Settings) (key : String) : Option Value :=
  match Assoc.get? key s.overrides with
  | some .null => none
  | some v => some v
  | none => (Assoc.get? key s.place.vars).map .text

/-- A value that must be there. -/
def require {α : Type} (key : String) : Option α → Except Fault α
  | some v => .ok v
  | none => .error (.setting (.missing key))

/-- A setting read by a function, or its fallback. -/
def readWith {α : Type} (s : Settings) (key : String) (fallback : Option α)
    (read : Value → Except Fault α) : Except Fault α :=
  match s.find? key with
  | some value => read value
  | none => require key fallback

/-- A setting as it is written. An override without a value has no fallback. -/
def text (s : Settings) (key : String) (fallback : Option Value := none) : Except Fault Value :=
  s.readWith key (if Assoc.has key s.overrides then none else fallback) .ok

/-- A reading of a setting, with a flaw in place of the fault of a value that writes no number. -/
def orFlaw {α : Type} (flaw : Flaw) (reading : Except Fault α) : Except Fault α :=
  reading.mapError fun f => if f.isMalformed then .setting flaw else f

/-- The whole number that a setting writes. -/
def wholeOf (key : String) (value : Value) : Except Fault Int :=
  orFlaw (.notWhole key value.display) value.whole

/-- A whole number. -/
def whole (s : Settings) (key : String) (fallback : Option Int := none) : Except Fault Int :=
  s.readWith key fallback (wholeOf key)

/-- The number that a setting writes. -/
def realOf (key : String) (value : Value) : Except Fault Float :=
  orFlaw (.notReal key value.display) value.real

/-- A number. -/
def real (s : Settings) (key : String) (fallback : Option Float := none) : Except Fault Float :=
  s.readWith key fallback (realOf key)

/-- Whether a text switches a setting on: one of five words in any case. No character outside
ASCII has a letter of these words as its lower-case form. -/
def isOn (value : String) : Bool :=
  ["true", "1", "yes", "on", "enabled"].contains (String.ofList (value.toList.map Char.toLower))

/-- Whether a value switches a setting on. Bytes are no word. -/
def switchOf : Value → Except Fault Bool
  | .text value => .ok (isOn value)
  | .bytes _ => .ok false
  | v => .error (.noAttribute v.kind "lower")

/-- A switch. -/
def switch (s : Settings) (key : String) (fallback : Option Bool := none) : Except Fault Bool :=
  s.readWith key fallback switchOf

/-- The path that a value writes, read from the directory of the program. -/
def pathOf (s : Settings) : Value → Except Fault String
  | .text value => .ok ((Path.ofText s.place.directory).join (Path.ofText value)).text
  | v => .error (.notPath v.kind)

/-- A path, read from the directory of the program. -/
def path (s : Settings) (key : String) (fallback : Option String := none) :
    Except Fault String := do
  s.pathOf (← s.readWith key (fallback.map .text) .ok)

/-- The items of a list: what stands between commas, trimmed, but for what is blank. -/
def itemsOf (value : String) : List String :=
  ((value.toList.splitOn ',').map fun item => String.ofList (Text.trimChars item)).filter
    fun item => !item.isEmpty

/-- The list that a value writes. -/
def listOf : Value → Except Fault (List String)
  | .text value => .ok (itemsOf value)
  | .bytes _ => .error (.bytesWanted .text)
  | v => .error (.noAttribute v.kind "split")

/-- The items of a list; without a value those of the fallback. -/
def items (s : Settings) (key : String) (fallback : Option Value := none) :
    Except Fault (List Value) :=
  match s.find? key with
  | some value => (listOf value).map (·.map .text)
  | none => fallback.elim (.ok []) Value.elements

/-- A list; without a value the fallback stands as it is. -/
def list (s : Settings) (key : String) (fallback : List String := []) :
    Except Fault (List String) :=
  s.readWith key (some fallback) listOf

end Settings

end TagGateway
