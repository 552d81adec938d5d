import TagGateway.CommandLine.Report

/-!
# Reports on a terminal

* `Report.text` is a report as it is shown on a terminal: what is printed, then the lines and
  tables, with tones as colors.
-/

namespace TagGateway.CommandLine

/-- The number that a terminal knows a tone's color by. -/
def Tone.code? : Tone → Option Nat
  | neutral => none
  | good => some 32
  | doubtful => some 33
  | bad => some 31

/-- A text in the color of its tone. -/
def Phrase.painted (p : Phrase) : String :=
  match p.tone.code? with
  | none => p.text
  | some code => "\x1b[" ++ toString code ++ "m" ++ p.text ++ "\x1b[0m"

/-- A phrase with blanks after it, so that it has a width. -/
def Phrase.padded (width : Nat) (p : Phrase) : String :=
  p.painted ++ String.ofList (List.replicate (width - p.text.length) ' ')

/-- The widths of columns that hold all cells of some rows. -/
def widths (rows : List (List Phrase)) : List Nat :=
  rows.foldl
    (fun ws row => (List.range (max ws.length row.length)).map fun i =>
      max (ws.getD i 0) ((row[i]?.map (·.text.length)).getD 0))
    []

/-- The lines of a table: its title, its heads and its rows. -/
def Table.lines (t : Table) : List String :=
  let rows := t.columns.map (⟨·, .neutral⟩) :: t.rows
  let ws := widths rows
  t.title :: rows.map fun row => "  ".intercalate (List.zipWith Phrase.padded ws row)

/-- The lines of a thing that a command shows. -/
def Shown.lines : Shown → List String
  | line p => [p.painted]
  | table t => t.lines

/-- A report as it is shown on a terminal. -/
def Report.text (r : Report) : String :=
  r.printed ++ String.join ((r.shown.flatMap Shown.lines).map (· ++ "\n"))

end TagGateway.CommandLine
