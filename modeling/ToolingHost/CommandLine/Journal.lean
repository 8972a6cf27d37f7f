import ToolingHost.Config.Load
import ToolingHost.FileSystem.Operations
import ToolingHost.Log.Filter
import ToolingHost.Log.Record

/-! # The journal of a run

While it runs, the program appends to a log file and writes to its error stream. The log file is the
first of two candidates that can be opened; where neither can, the log goes to the error stream as
well. A failure to open a candidate is itself written into the log. -/

namespace ToolingHost.CommandLine

/-- A log file that has been opened. -/
structure LogFile where
  /-- The path under which it was opened. -/
  path : FilePath
  /-- Where it is. -/
  location : Location
  deriving DecidableEq, Repr

/-- The part of the program that the command line logs as. -/
def logTarget : String := "kide"

/-- The name of the log file, below the directory of the program's files. -/
def logName : FilePath := .ofString "logs/kide.log"

/-- The directory of the program's files where the user has no home. -/
def localDir : FilePath := .ofString ".kide"

/-- The log files to try, in order. -/
def logCandidates (home? : Option FilePath) : List FilePath :=
  ((Config.programDir? home?).toList ++ [localDir]).map fun dir => dir.join logName

/-- Opens a log file, and makes the directories above it. A failure comes with its text. -/
def openLogFile (fs : FileSystem) (path : FilePath) : FileSystem × Except String LogFile :=
  let dir := path.parent?.getD ⟨[]⟩
  match fs.makeDirs dir with
  | (fs, .error cause) =>
    (fs, .error ("Failed to create log dir " ++ dir.display ++ ": " ++ cause.message))
  | (fs, .ok ()) =>
    match fs.openAppend? path with
    | .error cause =>
      (fs, .error ("Failed to open log file " ++ path.display ++ ": " ++ cause.message))
    | .ok (fs, location) => (fs, .ok ⟨path, location⟩)

/-- Opens the first log file that can be opened; also gives the texts of the failures before it. -/
def openFirstLogFile (fs : FileSystem) : List FilePath → FileSystem × Option LogFile × List String
  | [] => (fs, none, [])
  | path :: rest =>
    match openLogFile fs path with
    | (fs, .ok file) => (fs, some file, [])
    | (fs, .error failure) =>
      let (fs, file, failures) := openFirstLogFile fs rest
      (fs, file, failure :: failures)

/-- What a run has written so far. -/
structure Journal where
  /-- The file system. -/
  fs : FileSystem
  /-- The log file, if one could be opened. -/
  file : Option LogFile
  /-- Which records are kept. -/
  filter : Log.Filter
  /-- The time stamp of the lines. -/
  stamp : String
  /-- The lines of the error stream. -/
  errors : List String
  deriving Repr

namespace Journal

/-- Writes a line to the error stream. -/
def complain (j : Journal) (line : String) : Journal := { j with errors := j.errors ++ [line] }

/-- Writes a record into the log, if it is kept. -/
def log (j : Journal) (r : Log.Record) : Journal :=
  if j.filter.keeps r then
    let line := r.line j.stamp
    match j.file with
    | some file => { j with fs := j.fs.append file.location (Bytes.ofString (line ++ "\n")) }
    | none => j.complain line
  else j

/-- Writes records into the log. -/
def logAll (j : Journal) (rs : List Log.Record) : Journal := rs.foldl log j

/-- Opens the log, and writes about it. -/
def start (fs : FileSystem) (home? : Option FilePath) (filter : Log.Filter) (stamp : String) :
    Journal :=
  let (fs, file, failures) := openFirstLogFile fs (logCandidates home?)
  let opened := file.toList.map fun file =>
    ⟨.info, logTarget, "Logging initialized", [("path", .shown file.path.display)]⟩
  let warnings := failures.map fun failure => ⟨.warn, logTarget, failure, []⟩
  logAll ⟨fs, file, filter, stamp, []⟩ (opened ++ warnings)

/-- Writing to the error stream leaves the file system alone. -/
@[simp] theorem fs_complain (j : Journal) (line : String) : (j.complain line).fs = j.fs := rfl

/-- What is filtered out leaves no trace. -/
theorem log_of_not_keeps {j : Journal} {r : Log.Record} (h : j.filter.keeps r = false) :
    j.log r = j := by
  simp [log, h]

end Journal

end ToolingHost.CommandLine
