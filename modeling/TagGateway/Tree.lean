import TagGateway.Fault
import TagGateway.Path

/-!
# Trees of files

A part of a file system: directories of files, as far as they matter.

* `Tree.walkFrom` follows steps from a directory, as the host follows them: a step that leads
  nowhere ends the walk, and so does a name that is longer than names of files are.
* `Tree.standard` are the directories that every host has.
* `Disk.walk` follows a path, from the root or from the directory of the program.
* `Tree.readText` and `Tree.entries` read a file and list a directory, or fail as the host does.
-/

namespace TagGateway

/-- A file with its bytes, a file that cannot be read, or a directory with its entries. -/
inductive Tree
  | file (bytes : List UInt8)
  /-- A file that is there, with the fault of everyone who reads it. -/
  | barred (fault : Fault)
  | directory (entries : List (String × Tree))
deriving Inhabited

namespace Tree

/-- Where a walk leads. -/
inductive Found
  | tree (t : Tree)
  | nothing
  /-- A name on the way, or the path, is longer than the host allows. -/
  | tooLong

/-- The entry of a directory; a file has none. -/
def child? (name : String) : Tree → Option Tree
  | file _ | barred _ => none
  | directory entries => Assoc.get? name entries

/-- The most bytes of the name of a file. -/
def nameLimit : Nat := 255

/-- The most bytes of a path. -/
def pathLimit : Nat := 4095

/-- Where steps lead from a place inside directories, given from the innermost outwards. A step up
leads to the directory around, and outside all of them to what is above. -/
def walkFrom (above : Tree) : List Tree → Tree → List String → Found
  | _, here, [] => .tree here
  | _, file _, _ :: _ | _, barred _, _ :: _ => .nothing
  | around, directory entries, step :: steps =>
    if step = "." then walkFrom above around (directory entries) steps
    else if step = ".." then
      match around with
      | [] => walkFrom above [] above steps
      | outer :: more => walkFrom above more outer steps
    else if nameLimit < step.utf8ByteSize then .tooLong
    else
      match Assoc.get? step entries with
      | some inner => walkFrom above (directory entries :: around) inner steps
      | none => .nothing

/-- A directory in which nothing is known. -/
def blank : Tree := directory []

/-- A directory with such directories in it, and such files, whose content does not matter. -/
def directoryWith (names files : List String) : Tree :=
  directory (names.map (·, blank) ++ files.map (·, file []))

/-- The directories that every host has, with some of the files that are always in them. -/
def standard : Tree :=
  directory <|
    [("bin", directoryWith [] ["sh", "ls", "cat"]),
      ("dev", directoryWith ["pts", "shm"] ["full", "null", "random", "tty", "urandom", "zero"]),
      ("etc", directoryWith [] ["group", "hostname", "hosts", "passwd", "resolv.conf", "shadow"]),
      ("proc", directoryWith ["1", "self", "sys"] ["cpuinfo", "meminfo", "uptime", "version"]),
      ("sys", directoryWith ["block", "bus", "class", "devices", "fs", "kernel", "module"] []),
      ("usr", directoryWith ["bin", "lib", "local", "sbin", "share"] []),
      ("var", directoryWith ["cache", "lib", "log", "tmp"] [])] ++
    ["boot", "home", "lib", "media", "mnt", "opt", "root", "run", "sbin", "srv", "tmp"].map
      (·, blank)

/-- The tree with the directories that a path leads through, as far as no file is in their place. -/
def grow : List String → Tree → Tree
  | [], t => t
  | _ :: _, file bytes => file bytes
  | _ :: _, barred fault => barred fault
  | name :: rest, directory entries =>
    directory (Assoc.put name (grow rest ((Assoc.get? name entries).getD blank)) entries)

/-- The text of a file. -/
def readText (path : String) : Tree → Except Fault String
  | directory _ => .error (.isDirectory path)
  | barred fault => .error fault
  | file bytes =>
    match Text.Utf8.decode bytes with
    | .ok text => .ok text
    | .error flaw => .error (.notText flaw)

/-- The entries of a directory. -/
def entries (path : String) : Tree → Except Fault (List (String × Tree))
  | directory entries => .ok entries
  | file _ | barred _ => .error (.notDirectory path)

end Tree

/-- The files of a host: those below its root, and those below the directory of the program. -/
structure Disk where
  root : Tree := .standard
  here : Tree := .blank

namespace Disk

open TagGateway.Tree (Found)

/-- Where the steps of a text lead, from the root or from the directory of the program. No name has
a null character. -/
def follow (d : Disk) (text : String) (steps : List String) : Found :=
  if text.toList.contains '\x00' then .nothing
  else if Tree.pathLimit < text.utf8ByteSize then .tooLong
  else if text.startsWith "/" then Tree.walkFrom d.root [] d.root steps
  else Tree.walkFrom .blank [] d.here steps

/-- Where a path leads. -/
def walk (d : Disk) (path : Path) : Found := d.follow path.text path.parts

/-- Where a path leads as it is written: a part that names the directory itself, or a slash at the
end, has to follow a directory. -/
def walkText (d : Disk) (text : String) : Found := d.follow text (Path.writtenSteps text)

/-- Whether a path leads out of the directory of the program, to where nothing is known. -/
def leavesHere (path : Path) : Bool := !path.isAbsolute && path.collapsed.parts.head? == some ".."

/-- The disk with the directories of a path that has no steps up, as far as they matter. -/
def grow (d : Disk) (path : Path) : Disk :=
  if path.isAbsolute then { d with root := d.root.grow path.parts }
  else if leavesHere path then d
  else { d with here := d.here.grow path.parts }

/-- Whether a path leads to a directory. -/
def isDirectory (d : Disk) (path : Path) : Bool :=
  match d.walk path with
  | .tree (.directory _) => true
  | _ => false

/-- Whether nothing can be made in a directory, since the host keeps its account of processes
there. -/
def isSealed (path : Path) : Bool :=
  path.isAbsolute && path.collapsed.parts.head? == some "proc"

/-- Whether paths lead to directories, or can be made to do so one after the other. -/
def checkEach (d : Disk) : List Path → Except Fault Unit
  | [] => .ok ()
  | p :: rest =>
    match d.walk p with
    | .tree (.directory _) => checkEach d rest
    | .tree _ => .error (.fileExists p.text)
    | .tooLong => .error (.nameTooLong p.text)
    | .nothing =>
      if isSealed p.parent then .error (.noSuchFile p.text)
      else if Tree.nameLimit < p.lastPart.utf8ByteSize then .error (.nameTooLong p.text)
      else checkEach (d.grow p.collapsed) rest

/-- Whether the missing directories of a path can be made. What is wrong with the first one that is
missing is noticed at once, and what is wrong with others when their turn has come. -/
def checkDirectories (d : Disk) (path : Path) : Except Fault Unit :=
  if path.parts.any (·.toList.contains '\x00') then .error .nullCharacter
  else if Tree.pathLimit < path.text.utf8ByteSize then .error (.nameTooLong path.text)
  else
    match path.prefixes.find? fun p => !d.isDirectory p with
    | none => .ok ()
    | some p =>
      match d.walk p with
      | .tree _ => .error (if p = path then .fileExists path.text else .notDirectory path.text)
      | .tooLong =>
        .error (if isSealed p.parent then .noSuchFile p.text else .nameTooLong path.text)
      | .nothing => d.checkEach path.prefixes

/-- Whether a file can be written at a path, in a directory that is there. -/
def checkFile (d : Disk) (path : Path) : Except Fault Unit :=
  if path.parts.any (·.toList.contains '\x00') then .error .nullCharacter
  else
    match d.walk path.parent with
    | .nothing =>
      if !leavesHere path.parent then .error (.noSuchFile path.text)
      else if Tree.nameLimit < path.lastPart.utf8ByteSize then .error (.nameTooLong path.text)
      else .ok ()
    | .tooLong => .error (.nameTooLong path.text)
    | .tree (.file _) | .tree (.barred _) => .error (.notDirectory path.text)
    | .tree (.directory _) =>
      match d.walk path with
      | .tree (.directory _) => .error (.isDirectory path.text)
      | .tree (.file _) => .ok ()
      | .tree (.barred fault) => .error fault
      | found =>
        if isSealed path.parent then .error (.noSuchFile path.text)
        else
          match found with
          | .tooLong => .error (.nameTooLong path.text)
          | _ => .ok ()

end Disk

end TagGateway
