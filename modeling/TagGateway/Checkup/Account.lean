import TagGateway.Text.Blank

/-!
# The account of the user

Who runs the program, as the host tells in its text files: the status of the process, with a line
of user numbers and one of group numbers, and the list of groups.

* `effectiveUser?` and `groupsOf` read the status, `groupNumber?` reads the list of groups.
-/

namespace TagGateway.Checkup

/-- The fields of the line of a status that begins with a label. -/
def statusFields (label status : String) : List String :=
  match (status.splitOn "\n").find? (label.isPrefixOf ·) with
  | some line => ((line.splitOn "\t").drop 1).flatMap fun s => (s.splitOn " ").filter (· != "")
  | none => []

/-- The number of the user whose rights the process has: the second of its user numbers. -/
def effectiveUser? (status : String) : Option Int :=
  ((statusFields "Uid:" status)[1]?.bind String.toNat?).map Int.ofNat

/-- The numbers of the groups that the process belongs to. -/
def groupsOf (status : String) : List Int :=
  ((statusFields "Groups:" status).filterMap String.toNat?).map Int.ofNat

/-- The number of the group with a name. -/
def groupNumber? (name listing : String) : Option Int :=
  (listing.splitOn "\n").findSome? fun line =>
    match line.splitOn ":" with
    | group :: _ :: number :: _ =>
      if group == name then number.toNat?.map Int.ofNat else none
    | _ => none

end TagGateway.Checkup
