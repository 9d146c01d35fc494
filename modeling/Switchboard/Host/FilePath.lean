/-!
# Paths of files

A path is a sequence of names, outermost first.
-/

namespace Switchboard

/-- A path. -/
structure FilePath where
  /-- Whether the path starts at the outermost directory of the host. -/
  absolute : Bool
  /-- The names without empty ones; a `.` only in front, where it stands for the directory itself. -/
  names : List String
  /-- Whether a separator follows the last name, which must then be a directory. -/
  slash : Bool
  deriving DecidableEq, Repr

namespace FilePath

/-- The names between separators, empty ones included. -/
def split (s : String) : List String :=
  (s.toList.splitOnP (· = '/')).map String.ofList

/-- The path that a text gives. -/
def ofString (s : String) : FilePath :=
  let absolute := s.startsWith "/"
  let parts := split s
  let plain (names : List String) := names.filter fun n => n ≠ "" && n ≠ "."
  { absolute := absolute
    names := if parts.head? = some "." then "." :: plain parts.tail else plain parts
    slash := 1 < parts.length && (parts.getLast? = some "" || parts.getLast? = some ".") }

/-- The directory that holds what a path leads to; none for the outermost one. -/
def parent? (p : FilePath) : Option FilePath :=
  if p.names = [] then none else some ⟨p.absolute, p.names.dropLast, false⟩

/-- Whether this is the empty path. -/
def isEmpty (p : FilePath) : Bool :=
  !p.absolute && p.names.isEmpty

/-- The number of bytes of a path, one for each separator included. -/
def size (p : FilePath) : Nat :=
  p.names.foldl (fun n name => n + name.utf8ByteSize + 1) 0 + p.absolute.toNat + p.slash.toNat - 1

theorem length_parent {p q : FilePath} (h : p.parent? = some q) :
    q.names.length < p.names.length := by
  unfold parent? at h
  split at h
  · cases h
  · next hne =>
    cases h
    have := List.length_pos_iff.2 hne
    simp
    omega

end FilePath

end Switchboard
