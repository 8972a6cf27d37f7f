import ToolingHost.FileSystem.Operations
import ToolingHost.Log.Record

/-! # The storage directory

What is installed and cached lies in one directory. Before anything is started it is made, unless
something is there already; the directories above it are not made. -/

namespace ToolingHost.Storage

/-- What was found in place of the storage directory. -/
inductive Outcome where
  /-- Something was there. -/
  | existing
  /-- Nothing was there, and the directory was made. -/
  | created
  deriving DecidableEq, Repr

/-- The part of the program that log records of this module come from. -/
def logTarget : String := "kide_core::storage"

/-- The record that tells of a new directory. -/
def createdRecord (path : FilePath) : Log.Record :=
  ⟨.debug, logTarget, "Created global storage directory", [("path", .shown path.display)]⟩

/-- Makes the storage directory unless something is there. -/
def ensure (fs : FileSystem) (path : FilePath) : FileSystem × Except IoError Outcome :=
  match fs.exists? path with
  | .error cause => (fs, .error cause)
  | .ok true => (fs, .ok .existing)
  | .ok false =>
    match fs.makeDir? path with
    | .error cause => (fs, .error cause)
    | .ok made => (made, .ok .created)

/-- The log records of a call with a given result. -/
def records (path : FilePath) : Except IoError Outcome → List Log.Record
  | .ok .created => [createdRecord path]
  | _ => []

/-- A call that fails, or that finds something, changes nothing. -/
theorem ensure_fst_of_ne_created (fs : FileSystem) (path : FilePath)
    (h : (ensure fs path).2 ≠ .ok .created) : (ensure fs path).1 = fs := by
  unfold ensure at h ⊢
  split
  · rfl
  · rfl
  · split <;> simp_all

end ToolingHost.Storage
