import BufferedStreams.OpenMode
import BufferedStreams.Sizing

/-!
# Disks

A disk is a tree of named files and folders, and what POSIX says about opening one of them.  A
path is resolved from the working folder, or from the root if it starts with a slash.  The working
folder has folders above it; nothing is known to be in those and in the root but what is put there.

* `Disk.walk`     the place that names lead to;
* `Disk.openAt`   opens what a path names.
-/

namespace BufferedStreams

namespace Errno

def missing : Errno := 2
/-- a part of a path is not a folder -/
def notFolder : Errno := 20
/-- a folder where a file is needed -/
def isFolder : Errno := 21
def tooLarge : Errno := 27
def nameTooLong : Errno := 36

end Errno

/-- what a name on a disk stands for -/
inductive Node where
  | file (bytes : Bytes)
  | folder
  deriving DecidableEq, Repr

/-- the names on the way from the working folder; a way up is a run of `..` in front, and a way from
the root starts with a slash -/
abbrev Place := List String

/-- the files and folders with known places, in the order in which they were made -/
structure Disk where
  nodes : List (Place × Node) := []
  deriving DecidableEq, Repr

namespace Disk

/-- the place of the root -/
def root : Place := ["/"]

/-- is the place that of the working folder, of one above it or of the root? -/
def isGiven (p : Place) : Bool := p == root || p.all (· == "..")

/-- what stands at a place -/
def find? (d : Disk) (p : Place) : Option Node :=
  if isGiven p then some .folder else (d.nodes.find? fun e => e.1 == p).map Prod.snd

def content (d : Disk) (p : Place) : Bytes :=
  match d.find? p with
  | some (.file bytes) => bytes
  | _ => []

/-- puts a node at a place, in the stead of what stood there -/
def put (d : Disk) (p : Place) (n : Node) : Disk :=
  if d.nodes.any fun e => e.1 == p then
    ⟨d.nodes.map fun e => if e.1 == p then (p, n) else e⟩
  else ⟨d.nodes ++ [(p, n)]⟩

/-- the folder above a place; the root has none and stays -/
def above (here : Place) : Place :=
  if here = root then root
  else if isGiven here then here ++ [".."]
  else here.dropLast

/-- one step of a path: stay, go up, or go down to a name -/
def step (here : Place) (name : String) : Place :=
  if name = "." ∨ name = "" then here
  else if name = ".." then above here
  else here ++ [name]

/-- walks down a path; every name before the last has to be a folder -/
def walk (d : Disk) (here : Place) : List String → Except Errno Place
  | [] => .ok here
  | name :: rest =>
    if 255 < name.utf8ByteSize then .error Errno.nameTooLong
    else
      match rest with
      | [] => .ok (step here name)
      | rest =>
        match d.find? (step here name) with
        | none => .error Errno.missing
        | some (.file _) => .error Errno.notFolder
        | some .folder => walk d (step here name) rest

/-- the names between the slashes of a path; a path may not be empty nor too long -/
def namesOf (path : String) : Except Errno (List String) :=
  if path.isEmpty then .error Errno.missing
  else if 4096 ≤ path.utf8ByteSize then .error Errno.nameTooLong
  else .ok (path.splitOn "/")

/-- where the names of a path lead from: an empty name in front stands for a slash -/
def startOf (names : List String) : Place := if names.head? = some "" then root else []

/-- the names without the empty ones that slashes at the end of a path leave -/
def withoutSlashes (names : List String) : List String :=
  (names.reverse.dropWhile (· == "")).reverse

/-- do the names end in a slash behind a name of its own, which can only be the name of a folder? -/
def nameFolder (names : List String) : Bool :=
  names.getLast? == some "" &&
    (match (withoutSlashes names).getLast? with
      | some name => name != "." && name != ".."
      | none => false)

/-- the names of the folder that holds what the names stand for -/
def holder (names : List String) : List String := (withoutSlashes names).dropLast ++ ["."]

/-- opens what stands at a place, or makes a file there -/
def openPlace (d : Disk) (p : Place) (m : OpenMode) : Except Errno (Place × Disk) :=
  match d.find? p with
  | none => if m.create then .ok (p, d.put p (.file [])) else .error Errno.missing
  | some .folder =>
    if m.create && m.exclusive then .error Errno.fileExists
    else if m.isWritable then .error Errno.isFolder
    else .ok (p, d)
  | some (.file _) =>
    if m.create && m.exclusive then .error Errno.fileExists
    else .ok (p, if m.truncate then d.put p (.file []) else d)

/-- opens what the names stand for; a mode that makes files refuses the name of a folder without
looking it up, once the folder that would hold it is found -/
def openNames (d : Disk) (names : List String) (m : OpenMode) : Except Errno (Place × Disk) :=
  if m.create && nameFolder names then
    match d.walk (startOf names) (holder names) with
    | .error e => .error e
    | .ok _ => .error Errno.isFolder
  else
    match d.walk (startOf names) names with
    | .error e => .error e
    | .ok p => d.openPlace p m

/-- opens what a path names: the place, and the disk with a file made or emptied as the mode asks -/
def openAt (d : Disk) (path : String) (m : OpenMode) : Except Errno (Place × Disk) :=
  match namesOf path with
  | .error e => .error e
  | .ok names => d.openNames names m

end Disk

end BufferedStreams
