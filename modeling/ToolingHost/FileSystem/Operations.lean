import ToolingHost.FileSystem.Basic
import ToolingHost.IoError

/-! # What can be done with paths

A path is resolved to what is there, if the process may see it. From that come the questions that
the program asks about a path, and the few changes that it makes. -/

/-! ## Resolving paths

A path is resolved name by name. Names can be looked for only in a directory that the process may
search. A `..` leads to the directory above, a symbolic link on the way is replaced by its target,
and every name but the last must lead to a directory. At most `maxLinks` links are followed. The
last name may be missing; then the result says in which directory. -/

namespace ToolingHost.FileSystem

/-- How many symbolic links are followed for one path. -/
def maxLinks : Nat := 40

/-- The greatest length of a name. -/
def maxName : Nat := 255

/-- The length at which a path is too long. -/
def maxPath : Nat := 4096

/-- The name for the directory itself. -/
def hereName : Bytes := [46]

/-- The name for the directory above. -/
def aboveName : Bytes := [46, 46]

/-- The empty name, which stands for a separator at the end: there must be a directory, but nothing
is looked for in it. -/
def endName : Bytes := []

/-- Where a walk over names ends. -/
inductive Walk where
  /-- At a directory. -/
  | dir (location : Location)
  /-- At a regular file. -/
  | file (location : Location) (content : Bytes) (mode : Nat)
  /-- At a special file. -/
  | special (location : Location) (content : Option Bytes)
  /-- At a last name that is missing in a directory. -/
  | missing (parent : Location) (name : Bytes)
  /-- At a symbolic link as the last name that is not to be followed. -/
  | unfollowed (location : Location) (target : Bytes)
  /-- At a symbolic link in a directory that has to be followed, with the names after it. -/
  | link (parent : Location) (target : Bytes) (rest : List Bytes)
  /-- Nowhere. -/
  | failed (cause : IoError)
  deriving DecidableEq, Repr

/-- Walks over names from a directory up to the first symbolic link. `follow` says whether a link as
the last name is followed. -/
def walk (fs : FileSystem) (follow : Bool) : Location → List Bytes → Walk
  | location, [] => .dir location
  | location, name :: rest =>
    if name = endName then walk fs follow location rest
    else if fs.denies .execute location then .failed .permissionDenied
    else if name = hereName then walk fs follow location rest
    else if name = aboveName then walk fs follow location.dropLast rest
    else if maxName < name.length then .failed .nameTooLong
    else
      let next := location ++ [name]
      match fs.lookup next with
      | none => if rest.isEmpty then .missing location name else .failed .notFound
      | some .dir => walk fs follow next rest
      | some (.file content mode) =>
        if rest.isEmpty then .file next content mode else .failed .notADirectory
      | some (.special content) =>
        if rest.isEmpty then .special next content else .failed .notADirectory
      | some (.link target) =>
        if rest.isEmpty && !follow then .unfollowed next target else .link location target rest

/-- The names of a path. -/
def namesOf (path : Bytes) : List Bytes :=
  (Bytes.cut FilePath.separator path).filter fun name => !name.isEmpty

/-- Whether a path ends in a separator, and so can only mean a directory. -/
def endsInSeparator (path : Bytes) : Bool := path.getLast? == some FilePath.separator

/-- The names of a path; a separator at the end counts as one more name. -/
def stepsOf (path : Bytes) : List Bytes :=
  namesOf path ++ if endsInSeparator path then [endName] else []

/-- Where the names of a path start. -/
def startOf (path : Bytes) (here : Location) : Location :=
  if path.head? = some FilePath.separator then [] else here

/-- Walks on through at most `links` symbolic links. -/
def follow (fs : FileSystem) (followLast : Bool) : (links : Nat) → Location → List Bytes → Walk
  | 0, location, names =>
    match walk fs followLast location names with
    | .link .. => .failed .linkLoop
    | result => result
  | links + 1, location, names =>
    match walk fs followLast location names with
    | .link parent target rest =>
      let steps := if rest.isEmpty then stepsOf target else namesOf target ++ rest
      follow fs followLast links (startOf target parent) steps
    | result => result

/-- Why a path is refused before any of it is resolved. -/
def refusal? (path : FilePath) : Option IoError :=
  if path.bytes.contains 0 then some .nulInPath
  else if path.bytes.isEmpty then some .notFound
  else if maxPath ≤ path.bytes.length then some .nameTooLong
  else none

/-- Resolves a path, symbolic links included. -/
def resolve (fs : FileSystem) (path : FilePath) : Walk :=
  match refusal? path with
  | some cause => .failed cause
  | none => follow fs true maxLinks (startOf path.bytes fs.workingDir) (stepsOf path.bytes)

/-- What a path leads to: the location and the entry there, which is no link. -/
def stat? (fs : FileSystem) (path : FilePath) : Except IoError (Location × Entry) :=
  match resolve fs path with
  | .dir location => .ok (location, .dir)
  | .file location content mode => .ok (location, .file content mode)
  | .special location content => .ok (location, .special content)
  | .missing .. => .error .notFound
  | .unfollowed location target => .ok (location, .link target)
  | .link .. => .error .linkLoop
  | .failed cause => .error cause

/-- Whether a path leads to something. That nothing is there is an answer; any other failure to look
is none. -/
def exists? (fs : FileSystem) (path : FilePath) : Except IoError Bool :=
  match fs.stat? path with
  | .ok _ => .ok true
  | .error .notFound => .ok false
  | .error cause => .error cause

/-- Whether a path can be seen to lead to something. -/
def reaches (fs : FileSystem) (path : FilePath) : Bool := (fs.stat? path).toBool

/-- Whether a path leads to a directory. -/
def isDir (fs : FileSystem) (path : FilePath) : Bool :=
  match fs.stat? path with
  | .ok (_, .dir) => true
  | _ => false

/-- The permission bits of the regular file that a path leads to. -/
def fileMode? (fs : FileSystem) (path : FilePath) : Option Nat :=
  match fs.stat? path with
  | .ok (_, .file _ mode) => some mode
  | _ => none

/-- Whether permission bits let anyone execute the file. -/
def isExecutableMode (mode : Nat) : Bool := mode &&& 0o111 != 0

/-- Whether the process may execute the regular file at a location with these permission bits. Bits
that let nobody execute it bind a privileged process too. -/
def mayExecute (fs : FileSystem) (location : Location) (mode : Nat) : Bool :=
  isExecutableMode mode && !fs.denies .execute location

/-- Whether a path leads to a regular file that the process may execute. -/
def isExecutable (fs : FileSystem) (path : FilePath) : Bool :=
  match fs.stat? path with
  | .ok (location, .file _ mode) => fs.mayExecute location mode
  | _ => false

/-- What is read from an entry that the process may read. -/
def contentOf? : Entry → Except IoError Bytes
  | .file content _ => .ok content
  | .special (some content) => .ok content
  | .special none => .error .noDevice
  | .dir | .link _ => .error .isADirectory

/-- The content of what a path leads to. -/
def read? (fs : FileSystem) (path : FilePath) : Except IoError Bytes :=
  match fs.stat? path with
  | .error cause => .error cause
  | .ok (location, entry) =>
    if fs.denies .read location then .error .permissionDenied else contentOf? entry

/-- The path of what a path leads to, without links and without `.` and `..`. Whoever may look at
what is there may know where it is. -/
def canonical? (fs : FileSystem) (path : FilePath) : Except IoError FilePath :=
  (fs.stat? path).map fun (location, _) => pathOf location

/-! ## Changing a file system

Making directories and appending to files. An operation on a single entry that fails leaves the
file system as it was. -/

/-- Resolves the path of a directory to be made: a link as the last name is not followed, and a
separator at the end means nothing. -/
def resolveNew (fs : FileSystem) (path : FilePath) : Walk :=
  match refusal? path with
  | some cause => .failed cause
  | none => follow fs false maxLinks (startOf path.bytes fs.workingDir) (namesOf path.bytes)

/-- Makes one directory in a directory that is there and may be written to. -/
def makeDir? (fs : FileSystem) (path : FilePath) : Except IoError FileSystem :=
  match fs.resolveNew path with
  | .missing parent name =>
    if fs.denies .write parent then .error .permissionDenied
    else .ok (fs.put (parent ++ [name]) .dir)
  | .failed cause => .error cause
  | _ => .error .alreadyExists

/-- Makes the first of these directories, each the parent of the one before, and those of the others
that are missing. Directories that were made before a failure stay. -/
def makeDirsAlong (fs : FileSystem) : List FilePath → FileSystem × Except IoError Unit
  | [] => (fs, .ok ())
  | path :: above =>
    if path.isEmpty then (fs, .ok ())
    else
      match fs.makeDir? path with
      | .ok made => (made, .ok ())
      | .error .notFound =>
        match makeDirsAlong fs above with
        | (left, .error cause) => (left, .error cause)
        | (ready, .ok ()) =>
          match ready.makeDir? path with
          | .ok made => (made, .ok ())
          | .error cause => (ready, if ready.isDir path then .ok () else .error cause)
      | .error cause => (fs, if fs.isDir path then .ok () else .error cause)

/-- Makes a directory and all that are missing above it. -/
def makeDirs (fs : FileSystem) (path : FilePath) : FileSystem × Except IoError Unit :=
  makeDirsAlong fs path.ancestors

/-- The permission bits of a new file. -/
def newFileMode : Nat := 0o644

/-- Opens what is at a location to append to it, if the process may write to it. -/
def openThere? (fs : FileSystem) (location : Location) : Except IoError (FileSystem × Location) :=
  if fs.denies .write location then .error .permissionDenied else .ok (fs, location)

/-- Opens a file to append to, and makes it if it is missing; gives its location. -/
def openAppend? (fs : FileSystem) (path : FilePath) : Except IoError (FileSystem × Location) :=
  match fs.resolve path with
  | .file location _ _ => fs.openThere? location
  | .special location content =>
    match fs.openThere? location with
    | .error cause => .error cause
    | .ok opened => if content.isNone then .error .noDevice else .ok opened
  | .missing parent name =>
    let location := parent ++ [name]
    if fs.denies .write parent then .error .permissionDenied
    else .ok (fs.put location (.file [] newFileMode), location)
  | .failed cause => .error cause
  | _ => .error .isADirectory

/-- Appends to the file at a location. In a special file nothing is kept. -/
def append (fs : FileSystem) (location : Location) (bytes : Bytes) : FileSystem :=
  match fs.lookup location with
  | some (.file content mode) => fs.put location (.file (content ++ bytes) mode)
  | _ => fs

end ToolingHost.FileSystem
