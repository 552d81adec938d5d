import TagGateway.Fault
import TagGateway.Log.Template
import TagGateway.Value.Conversion

/-!
# Records of the log

What the gateway tells its operator is logged as records. A record has a level, which is a number;
some numbers have names.

* `levelNamed` finds what a name stands for among the levels.
* `Layout` lists the ways in which a record is written; `Layout.line` writes it.
-/

namespace TagGateway.Log

/-- The name of a level; a level that has none is named by what is shown of it. -/
def levelTitle (n : Int) (shown : String) : String :=
  match [Level.debug, .info, .warning, .error, .critical].find? fun l => (l.number : Int) == n with
  | some l => l.name
  | none => if n = 0 then "NOTSET" else "Level " ++ shown

/-- The name of a level. -/
def levelName (n : Int) : String := levelTitle n (toString n)

/-- The text of the plainest layout, which has a name among the levels but is none. -/
def plainLayout : String := "%(levelname)s:%(name)s:%(message)s"

/-- What a name among the levels stands for. -/
inductive Named
  | level (number : Int)
  /-- A layout, which is no level. -/
  | layout (text : String)
  /-- The table of layouts, which is no level either. -/
  | layouts
deriving DecidableEq, Repr

/-- The number of what has a name among the levels. -/
def Named.number : Named → Except Fault Int
  | level number => .ok number
  | layout text => .error (.noLevel text)
  | layouts => .error .noLevels

/-- What a name among the levels stands for, in any letter case. -/
def levelOfText (name : String) : Except Fault Named :=
  match Text.upper name with
  | "CRITICAL" | "FATAL" => .ok (.level 50)
  | "ERROR" => .ok (.level 40)
  | "WARNING" | "WARN" => .ok (.level 30)
  | "INFO" => .ok (.level 20)
  | "DEBUG" => .ok (.level 10)
  | "NOTSET" => .ok (.level 0)
  | "BASIC_FORMAT" => .ok (.layout plainLayout)
  | "_STYLES" => .ok .layouts
  | other => .error (.unknownLevel other)

/-- What a value that is a name among the levels stands for. -/
def levelNamed : Value → Except Fault Named
  | .text name => levelOfText name
  | .bytes _ => .error .bytesForName
  | v => .error (.noAttribute v.kind "upper")

/-- When and where a record arises: the date with the time of day, also as the seconds since the
start of 1970, the milliseconds, and the numbers of the process and the thread. -/
structure Origin where
  date : String
  seconds : Nat
  milliseconds : Nat
  process : Nat
  thread : Nat

/-- A record of the log. -/
structure Record where
  /-- The name of the logger that the record is given to. -/
  logger : String
  level : Int
  message : Value
  /-- The name of the level. -/
  title : String := levelName level

/-- The record that values make: a logger without a name is the root logger, a message is written
as it is. -/
def Record.ofValues (logger level message : Value) : Except Fault Record := do
  let logger ← match logger with
    | .text "" => .ok "root"
    | .text name => .ok name
    | v => if v.isTrue then .error .notLoggerName else .ok "root"
  match level.asInt? with
  | some n => return { logger, level := n, message, title := levelTitle n level.display }
  | none => throw .notRecordLevel

/-- A number with at least three digits. -/
def threeDigits (n : Nat) : String :=
  let digits := toString n
  String.ofList (List.replicate (3 - digits.length) '0') ++ digits

/-- A text with blanks in front, so that it has at least eight characters. -/
def inEight (s : String) : String := String.ofList (List.replicate (8 - s.length) ' ') ++ s

/-- The sequence that sets attributes of the characters after it on a terminal. -/
def escape (attributes : Nat) : String := "\x1b[" ++ toString attributes ++ "m"

/-- The colour of a level on a terminal. -/
def colour (level : String) : String :=
  match level with
  | "DEBUG" => escape 36
  | "INFO" => escape 32
  | "WARNING" => escape 33
  | "ERROR" => escape 31
  | "CRITICAL" => escape 31 ++ escape 47
  | _ => ""

/-- The ways to write a record. -/
inductive Layout
  /-- In colour, for people at a terminal. -/
  | terminal
  /-- For the file of all records. -/
  | general
  /-- For the file of a component, with its tag. -/
  | component (tag : String)
  /-- For the log of the system, with the name of the program. -/
  | system (app : String)
deriving DecidableEq, Repr

/-- A text with the sequence behind it that ends all attributes, unless it ends so already. -/
def withReset (s : String) : String := if s.endsWith (escape 0) then s else s ++ escape 0

/-- The date of a record with the milliseconds. -/
def Origin.moment (o : Origin) : String := o.date ++ "," ++ threeDigits o.milliseconds

/-- The moment of a record in seconds since the start of 1970. -/
def Origin.time (o : Origin) : Float :=
  Decimal.nearest false (1000 * o.seconds + o.milliseconds) 1000

/-- The named values of a record, for a template. -/
def fieldsOf (o : Origin) (r : Record) : List (String × Value) :=
  [("name", .text r.logger), ("levelname", .text r.title), ("levelno", .int r.level),
    ("process", .int o.process), ("processName", .text "MainProcess"),
    ("thread", .int o.thread), ("threadName", .text "MainThread"),
    ("message", .text r.message.display), ("msg", r.message), ("args", .struct []),
    ("exc_info", .null), ("exc_text", .null), ("stack_info", .null),
    ("asctime", .text o.moment), ("created", .float o.time),
    ("msecs", .float (Decimal.nearest false o.milliseconds 1))]

/-- The template of a line for the log of the system. The name of the program is part of it, so
that a name with percent signs is a template itself. -/
def systemTemplate (app : String) : String :=
  app ++ "[%(process)d]: %(levelname)s - %(message)s"

/-- A record as it is written, without the end of the line. -/
def Layout.line (o : Origin) (r : Record) : Layout → Except Fault String
  | terminal =>
    .ok <| withReset (colour r.title ++ o.date ++ " [" ++ inEight r.title ++ "] " ++ r.logger ++
      ": " ++ r.message.display)
  | general =>
    .ok <| o.date ++ " [" ++ inEight r.title ++ "] " ++ r.logger ++ " [" ++
      toString o.process ++ ":" ++ toString o.thread ++ "] " ++ r.message.display
  | component tag =>
    .ok <| o.moment ++ " [" ++ r.title ++ "] " ++ tag ++
      ": " ++ r.logger ++ ": " ++ r.message.display
  | system app => (Template.fill (systemTemplate app) (fieldsOf o r)).mapError Fault.template

end TagGateway.Log
