import Switchboard.Bytes
import Switchboard.Host.FilePath
import Switchboard.Host.OsError
import Switchboard.Text.Utf8

/-!
# Files

The files and directories of a host, as far as they matter. An operation fails with the error of
the operating system; a failed one changes nothing, except that directories made on the way stay.
-/

namespace Switchboard

/-- The names that lead to a file or directory: from the working directory, or, behind a slash
that stands for it, from the outermost directory. -/
abbrev Place : Type :=
  List String

namespace Place

/-- The working directory. -/
def working : Place :=
  []

/-- The outermost directory. -/
def outermost : Place :=
  ["/"]

end Place

/-- What is found at a place. -/
inductive FileEntry
  | file (content : Bytes)
  | directory
  deriving DecidableEq, Repr

/-- Files and directories. The two that paths start from are always there and not listed. -/
structure FileTree where
  entries : List (Place × FileEntry)
  deriving Repr

namespace FileTree

def empty : FileTree :=
  ⟨[]⟩

/-- What is at a place. -/
def get? (t : FileTree) (place : Place) : Option FileEntry :=
  if place = .working ∨ place = .outermost then some .directory else t.entries.lookup place

/-- Puts a file or directory at a place, instead of what was there. -/
def set (t : FileTree) (place : Place) (e : FileEntry) : FileTree :=
  ⟨(place, e) :: t.entries.filter fun old => old.1 ≠ place⟩

/-! ## Following a path -/

/-- The longest name, in bytes. -/
def nameLimit : Nat :=
  255

/-- The length in bytes that a path cannot reach. -/
def pathLimit : Nat :=
  4096

/-- The place that names lead to from another one. There must be a directory in front of every
name; nothing has to be there in the end. -/
def walk (t : FileTree) (start : Place) : List String → Except OsError Place
  | [] => .ok start
  | name :: rest =>
    match t.get? start with
    | none => .error .noSuchFile
    | some (.file _) => .error .notADirectory
    | some .directory =>
      if name = "." then t.walk start rest
      else if name = ".." then t.walk (if start = .outermost then start else start.dropLast) rest
      else if nameLimit < name.utf8ByteSize then .error .nameTooLong
      else t.walk (start ++ [name]) rest

/-- The place that a path leads to. -/
def locate (t : FileTree) (p : FilePath) : Except IoError Place :=
  if p.names.any fun n => n.contains '\x00' then .error .zeroInPath
  else if pathLimit ≤ p.size then .error (.os .nameTooLong)
  else if p.isEmpty then .error (.os .noSuchFile)
  else (t.walk (if p.absolute then .outermost else .working) p.names).mapError .os

/-- What a path leads to. -/
def find (t : FileTree) (p : FilePath) : Except IoError FileEntry := do
  match t.get? (← t.locate p) with
  | none => .error (.os .noSuchFile)
  | some .directory => return .directory
  | some (.file content) => if p.slash then .error (.os .notADirectory) else return .file content

/-- Whether a path leads to a file or directory. -/
def isPresent (t : FileTree) (p : FilePath) : Bool :=
  (t.find p).isOk

/-- Whether a path leads to a directory. -/
def isDirectory (t : FileTree) (p : FilePath) : Bool :=
  match t.find p with
  | .ok .directory => true
  | _ => false

/-! ## Reading -/

/-- The content of a file. -/
def read (t : FileTree) (p : FilePath) : Except IoError Bytes := do
  match ← t.find p with
  | .file content => return content
  | .directory => .error (.os .isADirectory)

/-- The content of a file that holds a text. -/
def readText (t : FileTree) (p : FilePath) : Except IoError String := do
  match Utf8.toString? (← t.read p) with
  | .ok s => return s
  | .error _ => .error .notText

/-! ## Writing -/

/-- The last name of a path, if it names something new or old in a directory. -/
def newName? (p : FilePath) : Option String :=
  match p.names.getLast? with
  | none => none
  | some name => if name = "." ∨ name = ".." then none else some name

/-- The place of a file that is opened for writing, new or old. -/
def openFile (t : FileTree) (p : FilePath) : Except IoError Place := do
  let place ← t.locate p
  if p.slash || (newName? p).isNone || t.get? place = some .directory then
    .error (.os .isADirectory)
  else return place

/-- Writes a file; an old one is replaced. -/
def write (t : FileTree) (p : FilePath) (content : Bytes) : Except IoError FileTree := do
  return t.set (← t.openFile p) (.file content)

/-- Adds to the end of a file, which may be new. -/
def append (t : FileTree) (place : Place) (content : Bytes) : FileTree :=
  match t.get? place with
  | some (.file old) => t.set place (.file (old ++ content))
  | _ => t.set place (.file content)

/-- Opens a file to add to its end. -/
def openToAppend (t : FileTree) (p : FilePath) : Except IoError (Place × FileTree) := do
  let place ← t.openFile p
  return (place, t.append place [])

/-! ## Directories -/

/-- Makes a directory in one that exists. -/
def makeDirectory (t : FileTree) (p : FilePath) : Except IoError FileTree := do
  let place ← t.locate p
  if (newName? p).isNone || (t.get? place).isSome then .error (.os .fileExists)
  else return t.set place .directory

/-- Makes a directory and all those around it that do not exist. -/
def makeDirectories (t : FileTree) (p : FilePath) : Except IoError Unit × FileTree :=
  let finish (t : FileTree) : Except IoError Unit × FileTree :=
    match t.makeDirectory p with
    | .ok t => (.ok (), t)
    | .error e => if t.isDirectory p then (.ok (), t) else (.error e, t)
  if p.isEmpty then (.ok (), t)
  else
    match t.makeDirectory p with
    | .error (.os .noSuchFile) =>
      match _h : p.parent? with
      | none => finish t
      | some parent =>
        match t.makeDirectories parent with
        | (.ok (), t) => finish t
        | failed => failed
    | _ => finish t
termination_by p.names.length
decreasing_by exact FilePath.length_parent _h

/-- Makes the directory that is to hold what a path leads to. -/
def makeParents (t : FileTree) (p : FilePath) : Except IoError Unit × FileTree :=
  match p.parent? with
  | none => (.ok (), t)
  | some parent => t.makeDirectories parent

end FileTree

end Switchboard
