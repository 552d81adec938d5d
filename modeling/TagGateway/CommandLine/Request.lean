import TagGateway.CommandLine.Words
import TagGateway.Decimal.Reading

/-!
# Requests

What a command line asks for.

* `Request.ofWords` reads a command line, or says what is wrong with it. Of several faults that of
  the earliest stage counts: first the form of the switches, then their values, then the operands.
-/

namespace TagGateway.CommandLine

/-- What a run of the gateway is asked to do otherwise than its settings say. -/
structure RunOptions where
  adapter : Option String := none
  port : Option Int := none
  address : Option String := none
  /-- More addresses to ignore. -/
  blacklist : List String := []
  noHostStatistics : Bool := false
  strict : Bool := false
deriving DecidableEq, Repr

/-- What is to be decoded, as it is written. -/
structure DecodeOptions where
  payload : String
  /-- The address of the sender, if it is known. -/
  mac : Option String := none
  manufacturer : String := "0x499"
  signalStrength : Int := 0
  strict : Bool := false
deriving DecidableEq, Repr

/-- A command with its options. -/
inductive Command
  | run (options : RunOptions)
  | decode (options : DecodeOptions)
  | config
  | check (adapter : Option String)
deriving DecidableEq, Repr

/-- What a command line asks for. -/
inductive Request
  | help (scope : Scope)
  | version
  /-- A command, with the file of variables to load before it. -/
  | command (envFile : Option String) (command : Command)
deriving DecidableEq, Repr

/-- The switches that a scope knows. -/
def knownSwitches (scope : Scope) : List Switch := (switchesOf scope).map (·.1)

/-- The whole number that a switch is given. -/
def Words.whole? (w : Words) (s : Switch) : Except UsageFault (Option Int) :=
  match w.value? s with
  | none => .ok none
  | some value =>
    match Decimal.readInt value with
    | .ok n => .ok (some n)
    | .error _ => .error (.notInteger s value)

/-- Refuse operands that nothing is done with. -/
def refuseRest (rest : List String) : Except UsageFault Unit :=
  if rest.isEmpty then .ok () else .error (.wordsLeft rest)

/-- The command that its words ask for. -/
def Command.ofWords (name : CommandName) (w : Words) : Except UsageFault Command :=
  match name with
  | .config => do
    refuseRest w.operands
    return .config
  | .check => do
    refuseRest w.operands
    return .check (w.value? .adapter)
  | .run => do
    let port ← w.whole? .port
    refuseRest w.operands
    return .run {
      adapter := w.value? .adapter, port, address := w.value? .address
      blacklist := w.values .blacklist, noHostStatistics := w.has .noHostStatistics
      strict := w.has .strict }
  | .decode => do
    let signalStrength ← w.whole? .signalStrength
    match w.operands with
    | [] => .error .payloadMissing
    | payload :: rest =>
      refuseRest rest
      return .decode {
        payload, mac := w.value? .mac
        manufacturer := (w.value? .manufacturer).getD "0x499"
        signalStrength := signalStrength.getD 0, strict := w.has .strict }

/-- The file of variables that the words of the program name, unless the name is refused. -/
def envFileOf (refusal? : String → Option Failure) (w : Words) :
    Except Failure (Option String) :=
  match w.value? .envFile with
  | some name =>
    match refusal? name with
    | some failure => .error failure
    | none => .ok (some name)
  | none => .ok none

namespace Request

/-- The request that an urgent switch makes. -/
def ofUrgent (scope : Scope) : Switch → Request
  | .version => .version
  | _ => .help scope

/-- The request for a command with these words after it. -/
def ofCommand (envFile : Option String) (name : CommandName) (words : List String) :
    Except UsageFault Request := do
  let w ← Words.read (knownSwitches (some name)) true words
  match w.urgent? with
  | some s => return ofUrgent (some name) s
  | none => return .command envFile (← Command.ofWords name w)

/-- The words of the program itself, before a command. -/
def readProgram (words : List String) : Except Failure Words :=
  (Words.read (knownSwitches none) false words).mapError .usage

/-- The complaint about a word that names no command. One that holds a switch is read as such
first. -/
def unknownCommand (refusal? : String → Option Failure) (word : String) (rest : List String) :
    Except Failure Request := do
  if word.startsWith "-" then
    let w ← readProgram (word :: rest)
    match w.urgent? with
    | some s => return ofUrgent none s
    | none => discard (envFileOf refusal? w)
  .error (.usage (.unknownCommand word (similar (CommandName.all.map (·.word)) word)))

/-- What a command line asks for, where some names of files are refused. -/
def ofWords (refusal? : String → Option Failure) (words : List String) :
    Except Failure Request := do
  if words.isEmpty then .error (.usage .nothingAsked)
  let w ← readProgram words
  match w.urgent? with
  | some s => return ofUrgent none s
  | none =>
    let envFile ← envFileOf refusal? w
    match w.operands with
    | [] => .error (.usage .noCommand)
    | word :: rest =>
      match CommandName.ofWord? word with
      | some name => (ofCommand envFile name rest).mapError .usage
      | none => unknownCommand refusal? word rest

end Request

end TagGateway.CommandLine
