import TagGateway.CommandLine.Switch

/-!
# Help

`helpText` explains the program or one of its commands.
-/

namespace TagGateway.CommandLine

/-- The name of the program. -/
def programName : String := "ruuvi-gateway"

/-- The version of the program. -/
def programVersion : String := "1.0.0"

/-- The answer to the question for the version. -/
def versionText : String := programName ++ ", version " ++ programVersion ++ "\n"

/-- Two columns under a heading. -/
def columns (heading : String) (rows : List (String × String)) : String :=
  let width := rows.foldl (fun n r => max n r.1.length) 0
  let line (r : String × String) :=
    "  " ++ r.1 ++ String.ofList (List.replicate (width - r.1.length + 2) ' ') ++ r.2 ++ "\n"
  heading ++ ":\n" ++ String.join (rows.map line)

/-- A switch as help shows it. -/
def Switch.shown (s : Switch) : String :=
  String.join (s.letter?.toList.map fun c => "-" ++ String.ofList [c] ++ ", ") ++ s.name ++
    String.join (s.takes?.toList.map (" " ++ ·))

/-- The form of a command line in a scope. -/
def usageLine : Scope → String
  | none => "Usage: " ++ programName ++ " [OPTIONS] COMMAND [ARGS]...\n"
  | some c =>
    "Usage: " ++ programName ++ " " ++ c.word ++ " [OPTIONS]" ++
      (if c = .decode then " PAYLOAD" else "") ++ "\n"

/-- What the program or a command is for. -/
def purposeOf : Scope → String
  | none => "Ruuvi Gateway - Ruuvitag BLE advertisements to Prometheus metrics."
  | some c => c.purpose

/-- The commands under their heading, where there are any. -/
def commandColumns : Scope → String
  | none => "\n" ++ columns "Commands" (CommandName.all.map fun c => (c.word, c.purpose))
  | some _ => ""

/-- The explanation of the program or of a command. -/
def helpText (scope : Scope) : String :=
  usageLine scope ++ "\n  " ++ purposeOf scope ++ "\n\n" ++
    columns "Options" ((switchesOf scope).map fun (s, purpose) => (s.shown, purpose)) ++
    commandColumns scope

end TagGateway.CommandLine
