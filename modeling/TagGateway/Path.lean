/-!
# Paths

The text of a path, tidied: repeated slashes and parts that name the directory itself count for
nothing. A path that begins with exactly two slashes keeps both. Parent parts are kept, because
what they mean depends on links.

* `Path.ofText` tidies, `Path.text` writes.
* `Path.join` reads a path from a directory: an absolute path stands for itself.
-/

namespace TagGateway

/-- A tidied path. -/
structure Path where
  /-- How many slashes it begins with: none, one or two. -/
  slashes : Nat
  /-- The names between the slashes. -/
  parts : List String
deriving DecidableEq, Repr

namespace Path

/-- How many of the slashes at the start of a path are kept. -/
def leadingSlashes (text : List Char) : Nat :=
  match (text.takeWhile (· == '/')).length with
  | 0 => 0
  | 2 => 2
  | _ => 1

/-- Whether a part counts: it is not empty and does not name the directory itself. -/
def isStep (part : String) : Bool := part != "" && part != "."

/-- The path that a text writes. -/
def ofText (text : String) : Path :=
  ⟨leadingSlashes text.toList, ((text.toList.splitOn '/').map String.ofList).filter isStep⟩

/-- The steps of a path as it is written: all parts but empty ones, and one to the directory itself
for a slash at the end. -/
def writtenSteps (text : String) : List String :=
  let parts := (text.toList.splitOn '/').map String.ofList
  parts.filter (· != "") ++ (if parts.getLast? == some "" then ["."] else [])

/-- Whether a path does not depend on a directory. -/
def isAbsolute (p : Path) : Bool := p.slashes != 0

/-- The text of a path. -/
def text (p : Path) : String :=
  match p.slashes, p.parts with
  | 0, [] => "."
  | n, parts => String.ofList (List.replicate n '/') ++ "/".intercalate parts

/-- A path as it is read from a directory. -/
def join (directory p : Path) : Path :=
  if p.isAbsolute then p else ⟨directory.slashes, directory.parts ++ p.parts⟩

/-- The paths that a path leads through, itself last. -/
def prefixes (p : Path) : List Path :=
  (List.range p.parts.length).map fun i => ⟨p.slashes, p.parts.take (i + 1)⟩

/-- The last part of a path, empty if there is none. -/
def lastPart (p : Path) : String := p.parts.getLastD ""

/-- The path of the directory that holds what a path leads to. -/
def parent (p : Path) : Path := ⟨p.slashes, p.parts.dropLast⟩

/-- The parts that are left when each step up takes away the step before it, given those so far
from the last one backwards. No step leads above the root. -/
def collapse (fromRoot : Bool) : List String → List String → List String
  | done, [] => done.reverse
  | done, part :: rest =>
    if part = ".." then
      match done with
      | [] => collapse fromRoot (if fromRoot then [] else [part]) rest
      | last :: before =>
        collapse fromRoot (if last = ".." then part :: done else before) rest
    else collapse fromRoot (part :: done) rest

/-- The path without steps up, as far as they can be taken away. -/
def collapsed (p : Path) : Path := ⟨p.slashes, collapse p.isAbsolute [] p.parts⟩

end Path

end TagGateway
