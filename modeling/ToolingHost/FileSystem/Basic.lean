import ToolingHost.FilePath

/-! # File systems

A file system is a finite map from locations to entries. A location is the list of names that lead
from the root to an entry; the root itself is always a directory. Entries are directories, regular
files with their permission bits, special files and symbolic links. `FileSystem.lookup` is the view
through which every operation is described.

What a process may do with an entry hangs on its owner, its bits, the process and more. All that is
kept of it are the rights that the process at hand has not got (`FileSystem.denies`); a privileged
process has all of them. -/

namespace ToolingHost

/-- The names that lead from the root to an entry. -/
abbrev Location := List Bytes

/-- What is at a location. -/
inductive Entry where
  /-- A directory. -/
  | dir
  /-- A regular file with its content and its permission bits. -/
  | file (content : Bytes) (mode : Nat)
  /-- A device, a pipe or a socket, with what is read from it if it can be opened at all. What is
  written to it leaves no trace. -/
  | special (content : Option Bytes)
  /-- A symbolic link to a path. -/
  | link (target : Bytes)
  deriving DecidableEq, Repr

/-- What a process may have the right to do with an entry. -/
inductive Right where
  /-- To read what is in it. -/
  | read
  /-- To write to it, and in the case of a directory to make entries in it. -/
  | write
  /-- To execute it, and in the case of a directory to look for names in it. -/
  | execute
  deriving DecidableEq, Repr

/-- A file system as a process sees it. -/
structure FileSystem where
  /-- The entries below the root. -/
  entries : List (Location × Entry)
  /-- Where relative paths start. -/
  workingDir : Location
  /-- The rights that the process has not got. -/
  denied : List (Location × Right)
  deriving DecidableEq, Repr

namespace FileSystem

/-- What is at a location. -/
def lookup (fs : FileSystem) (location : Location) : Option Entry :=
  if location.isEmpty then some .dir else fs.entries.lookup location

/-- The file system with an entry put at a location, in place of what was there. -/
def put (fs : FileSystem) (location : Location) (entry : Entry) : FileSystem :=
  { fs with entries := (location, entry) :: fs.entries.filter fun e => e.1 != location }

/-- Whether the process has not got a right on what is at a location. -/
def denies (fs : FileSystem) (right : Right) (location : Location) : Bool :=
  fs.denied.contains (location, right)

/-- The file system as seen by a process without one more right. -/
def deny (fs : FileSystem) (right : Right) (location : Location) : FileSystem :=
  { fs with denied := (location, right) :: fs.denied }

/-- The root is a directory. -/
@[simp] theorem lookup_root (fs : FileSystem) : fs.lookup [] = some .dir := rfl

/-- What was put is found. -/
@[simp] theorem lookup_put_self (fs : FileSystem) (location : Location) (entry : Entry)
    (h : location ≠ []) : (fs.put location entry).lookup location = some entry := by
  cases location with
  | nil => exact absurd rfl h
  | cons name rest => simp [lookup, put]

/-- Nothing else changes when an entry is put. -/
theorem lookup_put_of_ne (fs : FileSystem) {location other : Location} (entry : Entry)
    (h : other ≠ location) : (fs.put location entry).lookup other = fs.lookup other := by
  have skip : ∀ entries : List (Location × Entry),
      (entries.filter fun e => e.1 != location).lookup other = entries.lookup other := by
    intro entries
    induction entries with
    | nil => rfl
    | cons e rest ih =>
      obtain ⟨place, value⟩ := e
      by_cases he : place = location
      · have apart : (other == place) = false := by simp [he, h]
        rw [List.filter_cons_of_neg (by simp [he]), ih, List.lookup_cons, apart]
      · rw [List.filter_cons_of_pos (by simp [he]), List.lookup_cons, List.lookup_cons, ih]
  have apart : (other == location) = false := by simp [h]
  by_cases hr : other.isEmpty
  · simp [lookup, hr]
  · simp only [lookup, put, hr, List.lookup_cons, apart, skip]

/-- Rights hang on the location, and stay when an entry is put. -/
@[simp] theorem denies_put (fs : FileSystem) (location : Location) (entry : Entry) (right : Right)
    (other : Location) : (fs.put location entry).denies right other = fs.denies right other := rfl

/-- The path of a location. -/
def pathOf (location : Location) : FilePath :=
  if location.isEmpty then ⟨[FilePath.separator]⟩
  else ⟨location.flatMap fun name => FilePath.separator :: name⟩

/-- The entries below a location, with the names that lead to each from there. -/
def below (fs : FileSystem) (location : Location) : List (Location × Entry) :=
  fs.entries.filterMap fun (place, entry) =>
    if location.isPrefixOf place ∧ location.length < place.length then
      some (place.drop location.length, entry)
    else none

end FileSystem

end ToolingHost
