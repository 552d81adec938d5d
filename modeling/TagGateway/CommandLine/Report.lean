import TagGateway.Settings.Lookup

/-!
# Reports

What a command shows: lines in a tone, and tables. A tone is a color on the terminal.

* `Phrase.markup` marks the tone of a text by names of colors in brackets.
-/

namespace TagGateway.CommandLine

/-- The tones of a text. -/
inductive Tone
  | neutral | good | doubtful | bad
deriving DecidableEq, Repr

/-- The color of a tone. -/
def Tone.color? : Tone → Option String
  | neutral => none
  | good => some "green"
  | doubtful => some "yellow"
  | bad => some "red"

/-- A text with its tone. -/
structure Phrase where
  text : String
  tone : Tone := .neutral
deriving DecidableEq, Repr

/-- A text with the names of colors around it. -/
def Phrase.markup (p : Phrase) : String :=
  match p.tone.color? with
  | none => p.text
  | some color => "[" ++ color ++ "]" ++ p.text ++ "[/" ++ color ++ "]"

/-- A table. -/
structure Table where
  title : String
  columns : List String
  rows : List (List Phrase)
deriving DecidableEq, Repr

/-- A thing that a command shows. -/
inductive Shown
  | line (phrase : Phrase)
  | table (table : Table)
deriving DecidableEq, Repr

/-- How a command ends. -/
inductive Ending
  | exit (code : Int)
  /-- The gateway runs with these settings; its exit code is that of the command. -/
  | launch (settings : Settings)

/-- What a command prints and shows, and how it ends. -/
structure Report where
  printed : String := ""
  shown : List Shown := []
  ending : Ending := .exit 0

/-- The report of a failure, after what has been shown before. -/
def Report.failure (shown : List Shown) (message : String) (tone : Tone := .bad) : Report :=
  { shown := shown ++ [.line ⟨message, tone⟩], ending := .exit 1 }

end TagGateway.CommandLine
