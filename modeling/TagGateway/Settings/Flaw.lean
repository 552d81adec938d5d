import TagGateway.Level

/-!
# What can be wrong with the settings

`Settings.Flaw` is a single thing that is wrong; `Settings.report` lists several of them.
-/

namespace TagGateway.Settings

/-- A thing that is wrong with the settings. -/
inductive Flaw
  /-- A setting that has no value and must have one. -/
  | missing (key : String)
  /-- A setting whose value writes no whole number. -/
  | notWhole (key value : String)
  /-- A setting whose value writes no number. -/
  | notReal (key value : String)
  | emptyAdapter
  | negativeAttempts
  | negativeDelay
  /-- An item of the blacklist that writes no address. -/
  | badAddress (item : String)
  | portRange
  | unknownLevel
  | negativeBackups
deriving DecidableEq, Repr

/-- The names of the levels that the log can be cut at. -/
def levelNames : List String :=
  [Level.debug, .info, .warning, .error, .critical].map Level.name

/-- The wording of a flaw. -/
def Flaw.message : Flaw → String
  | missing key => "Required configuration key '" ++ key ++ "' not found"
  | notWhole key value =>
    "Configuration key '" ++ key ++ "' must be an integer, got '" ++ value ++ "'"
  | notReal key value => "Configuration key '" ++ key ++ "' must be a float, got '" ++ value ++ "'"
  | emptyAdapter => "BLE_ADAPTER cannot be empty"
  | negativeAttempts => "BLE_RETRY_ATTEMPTS cannot be negative"
  | negativeDelay => "BLE_RETRY_DELAY cannot be negative"
  | badAddress item => "BLE_BLACKLIST contains an invalid MAC address '" ++ item ++ "'"
  | portRange => "EXPOSER_PORT must be between 1 and 65535"
  | unknownLevel =>
    "LOG_LEVEL must be one of [" ++
      ", ".intercalate (levelNames.map fun name => "'" ++ name ++ "'") ++ "]"
  | negativeBackups => "LOG_BACKUP_COUNT cannot be negative"

/-- The report of all flaws, one a line. -/
def report (flaws : List Flaw) : String :=
  "Configuration validation failed:\n" ++ "\n".intercalate (flaws.map fun f => "- " ++ f.message)

end TagGateway.Settings
