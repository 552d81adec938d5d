import TagGateway.CommandLine.Help
import TagGateway.Fault

/-!
# Command lines that cannot be used

`UsageFault` lists what can be wrong with the words of a command line; `UsageFault.message` is the
complaint. `Failure` is a complaint or a fault on the way.
-/

namespace TagGateway.CommandLine

/-- What is wrong with a command line. -/
inductive UsageFault
  /-- There are no words at all. -/
  | nothingAsked
  /-- There are switches, but no command. -/
  | noCommand
  /-- A word that names no command, with the commands that may have been meant. -/
  | unknownCommand (word : String) (meant : List String)
  /-- A word that names no switch, with the switches that may have been meant. -/
  | unknownSwitch (word : String) (meant : List String)
  /-- A switch without the value that it takes. -/
  | valueMissing (name : String)
  /-- A switch with a value though it takes none. -/
  | valueGiven (name : String)
  /-- A value that is no whole number. -/
  | notInteger (switch : Switch) (value : String)
  /-- A value that names a directory where a file is wanted. -/
  | isDirectory (switch : Switch) (value : String)
  /-- No payload to decode. -/
  | payloadMissing
  /-- A payload that is not written in hexadecimal digits. -/
  | notHexadecimal (value : String)
  /-- A manufacturer that is not a number. -/
  | notNumber (value : String)
  /-- Words that the command has no use for. -/
  | wordsLeft (words : List String)
deriving DecidableEq, Repr

/-- A complaint about a value. -/
def invalidValue (of complaint : String) : String :=
  "Invalid value for " ++ of ++ ": " ++ complaint

/-- A complaint about an unknown word, with the words that may have been meant. -/
def suggesting (complaint : String) : List String → String
  | [] => complaint
  | [one] => complaint ++ " Did you mean " ++ Text.quoted one ++ "?"
  | several =>
    complaint ++ " (Did you mean one of: " ++ ", ".intercalate (several.map Text.quoted) ++ "?)"

/-- The complaint. -/
def UsageFault.message : UsageFault → String
  | nothingAsked => helpText none
  | noCommand => "Missing command."
  | unknownCommand word meant =>
    suggesting ("No such command " ++ Text.quoted word ++ ".") meant
  | unknownSwitch word meant => suggesting ("No such option " ++ Text.quoted word ++ ".") meant
  | valueMissing name => "Option " ++ Text.quoted name ++ " requires an argument."
  | valueGiven name => "Option " ++ Text.quoted name ++ " does not take a value."
  | notInteger switch value =>
    invalidValue switch.hint (Text.quoted value ++ " is not a valid integer.")
  | isDirectory switch value =>
    invalidValue switch.hint ("File " ++ Text.quoted value ++ " is a directory.")
  | payloadMissing => "Missing argument 'PAYLOAD'."
  | notHexadecimal value => invalidValue "PAYLOAD" ("'" ++ value ++ "' is not a hex string")
  | notNumber value => invalidValue "--manufacturer-id" ("'" ++ value ++ "' is not a number")
  | wordsLeft words =>
    "Got unexpected extra argument" ++ (if words.length == 1 then "" else "s") ++ " (" ++
      " ".intercalate words ++ ")"

/-- Why a command line is not carried out. -/
inductive Failure
  | usage (fault : UsageFault)
  | fault (fault : Fault)
deriving DecidableEq, Repr

end TagGateway.CommandLine
