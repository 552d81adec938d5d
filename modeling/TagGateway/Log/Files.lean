import TagGateway.Assoc
import TagGateway.Text.Lines

/-!
# Log files

A log file that is full gives way to a new one. The old ones are kept as backups with numbers;
the newest has number one, and beyond the number of backups they are lost.

A writer that has a file open keeps writing to that file under whatever name it has by then, so a
name stands for a file that has a number of its own.

* `Files.openAppend` opens a file, `Files.append` writes a line to an open one.
* `RotatingFile.write` makes room, if the line would fill the file, and then writes it.
-/

namespace TagGateway.Log

/-- The place of a file: its directory and its name. -/
abbrev Place := String × String

/-- The files, by place, and the content of each. -/
structure Files where
  names : List (Place × Nat) := []
  contents : List String := []

namespace Files

/-- The content of a file. -/
def content (fs : Files) (file : Nat) : String := (fs.contents[file]?).getD ""

/-- Open a file for writing at its end; a new one is empty. -/
def openAppend (fs : Files) (place : Place) : Files × Nat :=
  match Assoc.get? place fs.names with
  | some file => (fs, file)
  | none =>
    let file := fs.contents.length
    ({ names := Assoc.put place file fs.names, contents := fs.contents ++ [""] }, file)

/-- Write text at the end of a file. -/
def append (fs : Files) (file : Nat) (text : String) : Files :=
  { fs with contents := fs.contents.modify file (· ++ text) }

/-- Give a file that is there another name, in place of the file that had it. -/
def rename (fs : Files) (source target : Place) : Files :=
  match Assoc.get? source fs.names with
  | none => fs
  | some file =>
    { fs with names := Assoc.put target file (Assoc.erase source fs.names) }

/-- The files in a directory with the texts that are read from them. -/
def inDirectory (fs : Files) (directory : String) : List (String × String) :=
  fs.names.filterMap fun (place, file) =>
    if place.1 = directory then some (place.2, Text.unifyLines (fs.content file)) else none

end Files

/-- A file that gives way when it is full. -/
structure RotatingFile where
  place : Place
  /-- The size at which it is full; one that is not positive is never reached. -/
  limit : Int
  /-- How many backups are kept, if that is a number. Without any, a full file just grows on. -/
  backups : Option Int
  /-- The file that is open. -/
  file : Nat
deriving DecidableEq, Repr

namespace RotatingFile

/-- The place of a backup. -/
def backup (f : RotatingFile) (i : Nat) : Place := (f.place.1, f.place.2 ++ "." ++ toString i)

/-- Give the backups up to a number the next higher one, from the highest down. -/
def shift (f : RotatingFile) (fs : Files) : Nat → Files
  | 0 => fs
  | i + 1 => shift f (fs.rename (f.backup (i + 1)) (f.backup (i + 2))) i

/-- The files once there is room under the first number. The last backup is lost. -/
def makeRoom (f : RotatingFile) (backups : Int) (fs : Files) : Files :=
  if backups ≤ 0 then fs
  else
    let fs := f.shift fs (backups.toNat - 1)
    { fs with names := Assoc.erase (f.backup 1) fs.names }.rename f.place (f.backup 1)

/-- Open a file. -/
def opened (place : Place) (limit : Int) (backups : Option Int) (fs : Files) :
    RotatingFile × Files :=
  let (fs, file) := fs.openAppend place
  ({ place, limit, backups, file }, fs)

/-- Whether a line would fill the file: the bytes in it and the characters of the line, with its
end, reach the limit. -/
def isFullWith (f : RotatingFile) (fs : Files) (line : String) : Bool :=
  decide (0 < f.limit ∧ f.limit ≤ (fs.content f.file).utf8ByteSize + (line.length + 1))

/-- Write a line; a file that it would fill gives way first. If nobody knows how many backups are
kept, such a line is lost. -/
def write (f : RotatingFile) (fs : Files) (line : String) : RotatingFile × Files :=
  let append (f : RotatingFile) (fs : Files) := (f, fs.append f.file (line ++ "\n"))
  if f.isFullWith fs line then
    match f.backups with
    | none => (f, fs)
    | some n =>
      let (f, fs) := opened f.place f.limit f.backups (f.makeRoom n fs)
      append f fs
  else append f fs

end RotatingFile

end TagGateway.Log
