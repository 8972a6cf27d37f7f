import ToolingHost.Proofs.FileSystem.Tree
import ToolingHost.Proofs.Storage

/-! # What making sure of the storage directory changes

At most one thing: a new directory at the place that the path names, with nothing in it (`AddsDir`).
Nothing is made above it, nothing that was there is replaced, and a call that does not report a new
directory leaves the file system alone. A second call finds what the first has left. -/

namespace ToolingHost.Storage

/-- `fs'` is `fs` with a new directory at `location`, to which the path leads. -/
structure AddsDir (fs : FileSystem) (path : FilePath) (location : Location) (fs' : FileSystem) :
    Prop where
  /-- Nothing was there, not even a link. -/
  vacant : fs.lookup location = none
  /-- The path leads to the directory. -/
  leads : fs'.stat? path = .ok (location, .dir)
  /-- Its entry is the only one that is new. -/
  entries : fs'.entries = (location, .dir) :: fs.entries
  /-- Every other place holds what it held. -/
  others : ∀ other, other ≠ location → fs'.lookup other = fs.lookup other
  /-- Relative paths start where they did. -/
  here : fs'.workingDir = fs.workingDir
  /-- The process has the rights that it had. -/
  rights : fs'.denied = fs.denied
  /-- The directory that it is in was there. -/
  inside : fs.IsTree → fs.lookup location.dropLast = some .dir
  /-- Nothing is in it. -/
  empty : fs.IsTree → fs'.below location = []

variable {fs : FileSystem} {path : FilePath} {parent : Location} {name : Bytes}

/-- A directory that is made where the last name of a path is missing is all that is new. -/
theorem AddsDir.of_resolveNew (missing : fs.resolveNew path = .missing parent name) :
    AddsDir fs path (parent ++ [name]) (fs.put (parent ++ [name]) .dir) :=
  have vacant := FileSystem.lookup_of_resolveNew missing
  { vacant
    leads := FileSystem.stat?_of_resolveNew missing
    entries := FileSystem.entries_put_of_vacant vacant .dir
    others := fun _ other => FileSystem.lookup_put_of_ne fs .dir other
    here := rfl
    rights := rfl
    inside := fun tree => by
      rw [List.dropLast_concat]
      exact tree.lookup_of_resolveNew missing
    empty := fun tree => by
      rw [FileSystem.below_put_of_vacant vacant]
      exact tree.below_of_vacant vacant }

/-- A file system with a new directory is another one. -/
theorem AddsDir.irrefl {location : Location} : ¬AddsDir fs path location fs := by
  intro adds
  have longer := congrArg List.length adds.entries
  simp at longer

/-- Where a path leads to something, making sure of it changes nothing. -/
theorem ensure_of_exists? (there : fs.exists? path = .ok true) :
    ensure fs path = (fs, .ok .existing) := by
  rw [ensure, there]

/-- **What a success has left is found again.** -/
theorem ensure_again {fs' : FileSystem} {outcome : Outcome}
    (made : ensure fs path = (fs', .ok outcome)) : ensure fs' path = (fs', .ok .existing) := by
  have sound := ensure_sound fs path
  rw [made] at sound
  cases sound with
  | found dir =>
      obtain ⟨place, leads⟩ := FileSystem.stat?_of_isDir dir
      exact ensure_of_exists? (FileSystem.exists?_of_stat? leads)
  | mistaken file => exact ensure_of_file file
  | made nothing vacant allowed =>
      exact ensure_of_exists? (FileSystem.exists?_of_stat? (FileSystem.stat?_of_resolveNew vacant))

/-- **At most the directory is made.** Making sure of the storage directory reports a new directory
exactly if it has added one, which is empty, at the place that the path leads to from then on, and
nothing else; in every other case, found or failed, the file system is as it was. After a success
another call finds the directory and changes nothing. A tree stays a tree. -/
theorem at_most_the_directory_is_made (fs : FileSystem) (path : FilePath) :
    ((ensure fs path).2 = .ok .created ↔
        ∃ location, AddsDir fs path location (ensure fs path).1) ∧
      ((ensure fs path).2 ≠ .ok .created → (ensure fs path).1 = fs) ∧
      (∀ outcome, (ensure fs path).2 = .ok outcome →
        ensure (ensure fs path).1 path = ((ensure fs path).1, .ok .existing)) ∧
      (fs.IsTree → (ensure fs path).1.IsTree) := by
  have sound := ensure_sound fs path
  have again : ∀ outcome, (ensure fs path).2 = .ok outcome →
      ensure (ensure fs path).1 path = ((ensure fs path).1, .ok .existing) :=
    fun outcome ok => ensure_again (Prod.ext rfl ok)
  refine ⟨?_, ensure_fst_of_ne_created fs path, again, ?_⟩
  · constructor
    · intro created
      rw [created] at sound
      generalize (ensure fs path).1 = made at sound ⊢
      cases sound with
      | made nothing missing allowed => exact ⟨_, .of_resolveNew missing⟩
    · rintro ⟨location, adds⟩
      -- had nothing been made, the directory would be new beside itself
      by_contra other
      rw [ensure_fst_of_ne_created fs path other] at adds
      exact AddsDir.irrefl adds
  · intro tree
    generalize (ensure fs path).1 = made, (ensure fs path).2 = result at sound ⊢
    cases sound with
    | found | mistaken | failed => exact tree
    | made nothing missing allowed =>
        exact tree.put_dir (tree.lookup_of_resolveNew missing)
          (FileSystem.lookup_of_resolveNew missing)

/-- In a directory that is there a new one is made, once; below a place where nothing is, none. -/
theorem at_most_the_directory_is_made_twice :
    let fs : FileSystem := ⟨[([Bytes.ofString "a"], .dir)], [], []⟩
    fs.IsTree ∧
      (∃ location, AddsDir fs (.ofString "/a/s") location (ensure fs (.ofString "/a/s")).1 ∧
        (ensure fs (.ofString "/a/s")).1.below location = []) ∧
      ensure (ensure fs (.ofString "/a/s")).1 (.ofString "/a/s") =
        ((ensure fs (.ofString "/a/s")).1, .ok .existing) ∧
      (ensure fs (.ofString "/b/s")).1 = fs := by
  intro fs
  have tree : fs.IsTree := by
    refine ⟨fun location name entry there => ?_, rfl⟩
    cases location with
    | nil => rfl
    | cons above rest =>
        have longer : (rest ++ [name]).isEmpty = false := by simp
        simp [fs, FileSystem.lookup, List.lookup_cons, longer] at there
  obtain ⟨made, -, again, -⟩ := at_most_the_directory_is_made fs (.ofString "/a/s")
  obtain ⟨-, left, -⟩ := at_most_the_directory_is_made fs (.ofString "/b/s")
  obtain ⟨location, adds⟩ := made.mp rfl
  refine ⟨tree, ⟨location, adds, adds.empty tree⟩, again .created rfl, left ?_⟩
  intro created
  cases created

end ToolingHost.Storage
