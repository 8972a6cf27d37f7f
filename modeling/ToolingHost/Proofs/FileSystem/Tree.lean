import Mathlib.Data.List.Induction
import ToolingHost.Proofs.FileSystem

/-! # File systems are trees

In a file system every entry is in a directory that is there (`IsTree`). So the place at which a
directory can be made is in a directory, nothing is below it yet (`IsTree.below_of_vacant`), and the
file system is a tree with it too (`IsTree.put_dir`). -/

namespace ToolingHost.FileSystem

/-- Every entry is in a directory, and the working directory is one. -/
structure IsTree (fs : FileSystem) : Prop where
  /-- An entry is in a directory. -/
  parent : ∀ location name entry, fs.lookup (location ++ [name]) = some entry →
    fs.lookup location = some .dir
  /-- The working directory is there. -/
  here : fs.lookup fs.workingDir = some .dir

variable {fs : FileSystem} {path : FilePath} {location parent : Location} {name : Bytes}
  {names : List Bytes} {followLast : Bool}

/-! ## What an entry adds -/

/-- A place that is listed is not vacant. -/
theorem ne_of_vacant (vacant : fs.lookup location = none) :
    ∀ e ∈ fs.entries, e.1 ≠ location := by
  rintro e he rfl
  unfold lookup at vacant
  split at vacant
  · cases vacant
  · exact bne_iff_ne.mp (List.lookup_eq_none_iff.mp vacant e he) rfl

/-- What is put at a vacant place is the one entry that is new. -/
theorem entries_put_of_vacant (vacant : fs.lookup location = none) (entry : Entry) :
    (fs.put location entry).entries = (location, entry) :: fs.entries := by
  have kept : (fs.entries.filter fun e => e.1 != location) = fs.entries :=
    List.filter_eq_self.mpr fun e he => bne_iff_ne.mpr (ne_of_vacant vacant e he)
  rw [put, kept]

/-- What is put at a vacant place is not below itself. -/
theorem below_put_of_vacant (vacant : fs.lookup location = none) (entry : Entry) :
    (fs.put location entry).below location = fs.below location := by
  simp [below, entries_put_of_vacant vacant]

/-- From a directory, a path starts in a directory. -/
theorem lookup_startOf (bytes : Bytes) (dir : fs.lookup location = some .dir) :
    fs.lookup (startOf bytes location) = some .dir := by
  unfold startOf
  split
  · exact lookup_root fs
  · exact dir

/-- Where a walk stops at a missing name or at a link, it is in a directory. -/
def Walk.StopsInDir (fs : FileSystem) : Walk → Prop
  | .missing parent _ | .link parent _ _ => fs.lookup parent = some .dir
  | _ => True

namespace IsTree

variable (tree : fs.IsTree)

include tree

/-- What is above an entry is a directory. -/
theorem lookup_of_append {more : List Bytes} {entry : Entry} (some_ : more ≠ [])
    (there : fs.lookup (location ++ more) = some entry) : fs.lookup location = some .dir := by
  -- from the last name back: what is above it is a directory, so an entry again
  induction more using List.reverseRecOn generalizing entry with
  | nil => exact absurd rfl some_
  | append_singleton more name ih =>
      rw [← List.append_assoc] at there
      have above := tree.parent _ _ _ there
      cases more with
      | nil => rwa [List.append_nil] at above
      | cons => exact ih (List.cons_ne_nil _ _) above

/-- Nothing is below a vacant place. -/
theorem below_of_vacant (vacant : fs.lookup location = none) : fs.below location = [] := by
  refine List.filterMap_eq_nil_iff.mpr ?_
  rintro ⟨place, entry⟩ listed
  refine if_neg ?_
  rintro ⟨above, longer⟩
  obtain ⟨more, rfl⟩ := List.isPrefixOf_iff_prefix.mp above
  have some_ : more ≠ [] := by
    rintro rfl
    simp at longer
  cases there : fs.lookup (location ++ more) with
  | none => exact ne_of_vacant there _ listed rfl
  | some other =>
      rw [tree.lookup_of_append some_ there] at vacant
      cases vacant

/-! ## Making a directory -/

/-- What is above a directory is a directory. -/
theorem lookup_dropLast (dir : fs.lookup location = some .dir) :
    fs.lookup location.dropLast = some .dir := by
  induction location using List.reverseRecOn with
  | nil => exact dir
  | append_singleton above name =>
      rw [List.dropLast_concat]
      exact tree.parent _ _ _ dir

/-- A walk that starts in a directory stops in one. -/
theorem stopsInDir_walk (dir : fs.lookup location = some .dir) :
    (walk fs followLast location names).StopsInDir fs := by
  induction names generalizing location with
  | nil => exact trivial
  | cons first rest ih =>
      rw [walk]
      split
      · exact ih dir
      split
      · exact trivial
      split
      · exact ih dir
      split
      · exact ih (tree.lookup_dropLast dir)
      split
      · exact trivial
      dsimp only
      split
      next => split <;> first | exact dir | exact trivial
      next there => exact ih there
      next => split <;> exact trivial
      next => split <;> exact trivial
      next => split <;> first | exact dir | exact trivial

/-- A walk through links stops in a directory too. -/
theorem stopsInDir_follow {links : Nat} (dir : fs.lookup location = some .dir) :
    (follow fs followLast links location names).StopsInDir fs := by
  induction links generalizing location names with
  | zero =>
      rw [follow]
      split
      · exact trivial
      · exact tree.stopsInDir_walk dir
  | succ links ih =>
      have walked : (walk fs followLast location names).StopsInDir fs := tree.stopsInDir_walk dir
      rw [follow]
      split
      next above target rest linked =>
        rw [linked] at walked
        exact ih (lookup_startOf target walked)
      · exact walked

/-- **A directory is made in a directory.** -/
theorem lookup_of_resolveNew (missing : fs.resolveNew path = .missing parent name) :
    fs.lookup parent = some .dir := by
  have stops : (fs.resolveNew path).StopsInDir fs := by
    unfold resolveNew
    split
    · exact trivial
    · exact tree.stopsInDir_follow (lookup_startOf path.bytes tree.here)
  rw [missing] at stops
  exact stops

/-- A tree stays one when a directory is made in one of its directories. -/
theorem put_dir (inside : fs.lookup parent = some .dir)
    (vacant : fs.lookup (parent ++ [name]) = none) : (fs.put (parent ++ [name]) .dir).IsTree where
  parent := by
    intro location name' entry there
    -- the new entry is in `parent`; every other one is where it was
    by_cases new : location ++ [name'] = parent ++ [name]
    · obtain ⟨rfl, -⟩ := List.append_inj' new rfl
      rwa [lookup_put_of_ne _ _ (by simp)]
    · rw [lookup_put_of_ne _ _ new] at there
      have above := tree.parent _ _ _ there
      rw [lookup_put_of_ne _ _ ?_, above]
      rintro rfl
      rw [vacant] at above
      cases above
  here := by
    rw [lookup_put_of_ne _ _ ?_]
    · exact tree.here
    · intro same
      have here := tree.here
      rw [show (fs.put (parent ++ [name]) .dir).workingDir = fs.workingDir from rfl] at same
      rw [same, vacant] at here
      cases here

end IsTree

end ToolingHost.FileSystem
