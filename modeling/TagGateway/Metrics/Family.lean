import TagGateway.Value.Conversion

/-!
# Metric families and their exposition

A family is a named metric with its samples; each sample has labels and a value.

* `Family.exposition` writes a family in the text format that scrapers read.
* `numberText` is the notation of values in it: shortest digits, in exponent form already from a
  million on.
-/

namespace TagGateway.Metrics

/-- The labels of a sample, by name. -/
abbrev Labels := List (String × String)

/-- One sample of a metric. -/
structure Sample where
  name : String
  labels : Labels
  value : Value

/-- Whether a metric can go down. -/
inductive Kind
  | gauge | counter
deriving DecidableEq, Repr

/-- The name of a kind. -/
def Kind.name : Kind → String
  | gauge => "gauge"
  | counter => "counter"

/-- A metric with its samples. -/
structure Family where
  name : String
  documentation : String
  kind : Kind := .gauge
  samples : List Sample := []

/-- Labels in ascending order of their names. -/
def sortLabels (labels : Labels) : Labels := labels.mergeSort fun a b => !(b.1 < a.1)

/-- A character of a label value in the exposition. -/
def escapeChar (c : Char) : List Char :=
  if c = '\\' then ['\\', '\\']
  else if c = '\n' then ['\\', 'n']
  else if c = Text.doubleQuote then ['\\', c]
  else [c]

/-- A label value in the exposition. -/
def escape (s : String) : String := String.ofList (s.toList.flatMap escapeChar)

/-- The text without zeros and points at its end. -/
def stripZeros (cs : List Char) : List Char := Text.dropWhileEnd (fun c => c = '0' || c = '.') cs

/-- A positional text of at least seven digits before the point in exponent form. -/
def scientific (whole fraction : List Char) : List Char :=
  let mantissa := stripZeros (whole.take 1 ++ '.' :: (whole.drop 1 ++ fraction))
  let e := Decimal.digitChars (whole.length - 1)
  mantissa ++ 'e' :: '+' :: (if e.length < 2 then '0' :: e else e)

/-- A value in the exposition. -/
def numberText (x : Float) : String :=
  match Decimal.finite? x with
  | none => if x != x then "NaN" else if x < 0 then "-Inf" else "+Inf"
  | some _ =>
    let cs := (Decimal.text x).toList
    let whole := cs.takeWhile (· ≠ '.')
    if 0 < x && 6 < whole.length && whole.length < cs.length then
      String.ofList (scientific whole (cs.drop (whole.length + 1)))
    else Decimal.text x

/-- The labels of a sample in the exposition. -/
def labelText (labels : Labels) : String :=
  if labels.isEmpty then ""
  else
    "\x7b" ++ ",".intercalate ((sortLabels labels).map fun (name, value) =>
      name ++ "=" ++ String.ofList [Text.doubleQuote] ++ escape value ++
        String.ofList [Text.doubleQuote]) ++ "\x7d"

/-- The line of a sample. -/
def Sample.line (s : Sample) : Except Fault String := do
  let x ← Value.real s.value
  return s.name ++ labelText s.labels ++ " " ++ numberText x ++ "\n"

/-- A sample as complaints show it, with the parts that are always missing here. -/
def Sample.shown (s : Sample) : String :=
  let labels := Value.dict (s.labels.map fun (name, value) => (.text name, .text value))
  "Sample(name=" ++ Text.quoted s.name ++ ", labels=" ++ labels.shown ++ ", value=" ++
    s.value.shown ++ ", timestamp=None, exemplar=None, native_histogram=None)"

/-- A family as complaints show it. It has no unit. -/
def Family.shown (f : Family) : String :=
  "Metric(" ++ f.name ++ ", " ++ f.documentation ++ ", " ++ f.kind.name ++ ", , [" ++
    ", ".intercalate (f.samples.map Sample.shown) ++ "])"

/-- A family in the text format. -/
def Family.exposition (f : Family) : Except Fault String := do
  let lines ← (f.samples.mapM Sample.line).mapError (.unwritable · f.shown)
  return "# HELP " ++ f.name ++ " " ++ f.documentation ++ "\n# TYPE " ++ f.name ++ " " ++
    f.kind.name ++ "\n" ++ String.join lines

/-- Families in the text format, one after the other. -/
def exposition (fs : List Family) : Except Fault String := do
  return String.join (← fs.mapM Family.exposition)

/-- Whether one list of labels comes before another. -/
def labelsBefore : Labels → Labels → Bool
  | [], _ => true
  | _ :: _, [] => false
  | (k, v) :: a, (k', v') :: b =>
    if k < k' then true else if k' < k then false
    else if v < v' then true else if v' < v then false
    else labelsBefore a b

/-- Samples in ascending order of their names and labels, labels sorted. -/
def sortSamples (ss : List Sample) : List Sample :=
  let ss := ss.map fun s => { s with labels := sortLabels s.labels }
  ss.mergeSort fun a b => a.name < b.name || (a.name = b.name && labelsBefore a.labels b.labels)

/-- Whether two samples are the same one with the same value. -/
def Sample.same (a b : Sample) : Bool :=
  a.name = b.name && a.labels = b.labels &&
    (match Value.real a.value, Value.real b.value with
      | .ok x, .ok y => x.toBits = y.toBits
      | _, _ => false)

/-- The samples that are new or have another value than before. -/
def changedSamples (before after : List Sample) : List Sample :=
  let before := sortSamples before
  (sortSamples after).filter fun s => !before.any s.same

end TagGateway.Metrics
