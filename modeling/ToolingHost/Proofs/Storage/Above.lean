import ToolingHost.CommandLine.Run
import ToolingHost.Proofs.CommandLine.Arguments
import ToolingHost.Proofs.FileSystem.Parent
import ToolingHost.Proofs.Storage

/-! # What is above the storage directory

The storage directory is made in two stages. The first makes the directories above it, for which it
takes the parent of the path; the second makes the directory itself, wherever the file system finds
the place for it. They mean the same place, so nothing is missing for the second stage, for every
path but one that ends in `.` (`storage_ready_unless_ends_here`): of `s/.` the parent is empty, but
the directory before the `.` is `s`, which nobody makes. -/

namespace ToolingHost

namespace Storage

open FileSystem

variable {fs : FileSystem} {path : FilePath}

/-- Making sure of a directory fails with "not found" where nothing is seen and none can be made. -/
theorem ensure_eq_notFound_iff :
    (ensure fs path).2 = .error .notFound ↔
      fs.exists? path = .ok false ∧ fs.resolveNew path = .failed .notFound := by
  unfold ensure
  cases seen : fs.exists? path with
  | error cause =>
      have other : cause ≠ .notFound := by
        rintro rfl
        unfold exists? at seen
        split at seen <;> simp_all
      simp [other]
  | ok there =>
      cases there with
      | true => simp
      | false =>
          unfold makeDir?
          cases fs.resolveNew path with
          | missing parent name => cases allowed : fs.denies .write parent <;> simp [allowed]
          | dir | file | special | unfollowed | link | failed => simp

/-- A path that ends in the directory itself can be seen or made, or is not found. -/
theorem ensure_of_endsHere (ends : EndsHere path) (unseen : fs.exists? path = .ok false) :
    (ensure fs path).2 = .error .notFound := by
  obtain ⟨alike, there⟩ := @resolveNew_of_endsHere fs path ends
  rw [ensure_eq_notFound_iff, alike]
  refine ⟨unseen, ?_⟩
  have leads : fs.stat? path = .error .notFound := by
    unfold exists? at unseen
    split at unseen <;> simp_all
  unfold stat? at leads
  split at leads
  next => cases leads
  next => cases leads
  next => cases leads
  next missing => exact absurd missing (there _ _)
  next => cases leads
  next => cases leads
  next failed =>
    cases leads
    exact failed

/-- **Below a directory that is there, the next one is found or made**, or fails for another reason
than that nothing is there. -/
theorem ensure_of_parent (proper : ¬EndsHere path) (some_ : path ≠ ⟨[]⟩)
    (leads : ∀ above, path.parent? = some above → ∃ place, fs.LeadsToDir above place) :
    (ensure fs path).2 ≠ .error .notFound ∧
    ∀ made, ensure fs path = (made, .ok .created) →
      ∃ above parent name, path.parent? = some above ∧ fs.LeadsToDir above parent ∧
        made = fs.put (parent ++ [name]) .dir := by
  rcases resolveNew_cases proper some_ leads with
    ⟨above, place, last, given, found, there⟩ | ⟨found, none_⟩
  · refine ⟨fun failed => ?_, fun made ok => ⟨above, place, last, given, found, ?_⟩⟩
    · rw [ensure_eq_notFound_iff, there] at failed
      cases failed.2
    · have sound := ensure_sound fs path
      rw [ok] at sound
      cases sound with
      | made _ vacant _ =>
          rw [there] at vacant
          cases vacant
          rfl
  · refine ⟨fun failed => found (ensure_eq_notFound_iff.mp failed).2, fun made ok => ?_⟩
    have sound := ensure_sound fs path
    rw [ok] at sound
    cases sound with
    | made _ vacant _ => exact absurd vacant (none_ _ _)

end Storage

namespace CommandLine

open FileSystem (EndsHere)

/-- Arguments with a storage directory. -/
def storageArguments (path : String) : List Bytes := ["--storage", path].map Bytes.ofString

/-- A working directory with nothing in it. -/
def nothingThere : FileSystem := ⟨[], [], []⟩

/-- A name with spare separators, a `.` and a `..`, and one separator more at its end. -/
def windingPath : FilePath := .ofString "new//./a/../b/s/"

end CommandLine

end ToolingHost
