import ToolingHost.Executable.Locate
import ToolingHost.Executable.Start
import ToolingHost.Proofs.FileSystem
import ToolingHost.Proofs.FileSystem.Places

/-! # What locating an executable comes to

`Answers` lists what a search may come to: the path of the settings is final, the installed
executable is next, and the search path is last. There is no other answer, and each of them hangs on
nothing but what was looked at before it was given, so what is of lower priority can come and go
unnoticed (`located_in_order`).

A search asks whether something is there, and not what. What it finds is a regular file, or a
directory or a special file; the warning tells of the regular files that no one may execute, and not
of what is no regular file, which cannot be started either (`silent_iff_program_or_no_file`). -/

namespace ToolingHost.Executable

open FileSystem (Agree)
open SearchPath (candidates)

variable {fs fs' : FileSystem} {env env' : Environment} {e : Executable} {custom : Option FilePath}
  {storage storage' path : FilePath} {found : Located} {answer : Except LocateError Located}

/-! ## The order of the search -/

/-- What a search may come to. -/
inductive Answers (fs : FileSystem) (env : Environment) (e : Executable) (storage : FilePath) :
    Option FilePath → Except LocateError Located → Prop where
  /-- Something is at the path of the settings. -/
  | custom {path : FilePath} (there : fs.exists? path = .ok true) :
      Answers fs env e storage (some path) (.ok ⟨path, .custom⟩)
  /-- Nothing is at the path of the settings. -/
  | customMissing {path : FilePath} (absent : fs.exists? path = .ok false) :
      Answers fs env e storage (some path) (.error (.customPathMissing e.displayName path))
  /-- The path of the settings cannot be looked at. -/
  | customUnseen {path : FilePath} {cause : IoError} (unseen : fs.exists? path = .error cause) :
      Answers fs env e storage (some path) (.error (.io path cause))
  /-- The executable is installed. -/
  | installed (there : fs.exists? (e.installedPath storage) = .ok true) :
      Answers fs env e storage none (.ok ⟨e.installedPath storage, .installed⟩)
  /-- It cannot be seen whether it is installed. -/
  | installedUnseen {cause : IoError}
      (unseen : fs.exists? (e.installedPath storage) = .error cause) :
      Answers fs env e storage none (.error (.io (e.installedPath storage) cause))
  /-- It is not installed, and this is the first match of the search path. -/
  | onPath {before after : List FilePath} {path : FilePath}
      (absent : fs.exists? (e.installedPath storage) = .ok false)
      (listed : candidates fs env e.fileName = before ++ path :: after)
      (passed : ∀ p ∈ before, fs.isExecutable p = false) (fits : fs.isExecutable path = true) :
      Answers fs env e storage none (.ok ⟨path, .systemPath⟩)
  /-- It is not installed, and nothing on the search path matches. -/
  | nowhere (absent : fs.exists? (e.installedPath storage) = .ok false)
      (passed : ∀ p ∈ candidates fs env e.fileName, fs.isExecutable p = false) :
      Answers fs env e storage none
        (.error (.notFound e.displayName e.binaryName (e.installedPath storage)))

/-- Every search comes to one of the answers. -/
theorem answers_locate (fs : FileSystem) (env : Environment) (e : Executable)
    (custom : Option FilePath) (storage : FilePath) :
    Answers fs env e storage custom (locate fs env e custom storage) := by
  unfold locate useIfThere
  cases custom with
  | some path =>
      dsimp only
      split
      next unseen => exact .customUnseen unseen
      next there => exact .custom there
      next absent => exact .customMissing absent
  -- without a path of the settings, the search path counts only if nothing is installed
  | none =>
      dsimp only
      split
      next unseen => exact .installedUnseen unseen
      next there => exact .installed there
      next absent =>
        split
        next path matched =>
          obtain ⟨fits, before, after, listed, passed⟩ := List.find?_eq_some_iff_append.mp matched
          exact .onPath absent listed (fun p hp => by simpa using passed p hp) fits
        next missed =>
          refine .nowhere absent fun p hp => ?_
          simpa using List.find?_eq_none.mp missed p hp

/-- An answer is what the search comes to. -/
theorem Answers.locate_eq (answers : Answers fs env e storage custom answer) :
    locate fs env e custom storage = answer := by
  cases answers with
  | custom seen | customMissing seen | customUnseen seen | installed seen | installedUnseen seen =>
      simp only [locate, useIfThere, seen]
  | onPath absent listed passed fits =>
      have matched : SearchPath.find? fs env e.fileName = some _ :=
        List.find?_eq_some_iff_append.mpr ⟨fits, _, _, listed, fun p hp => by simp [passed p hp]⟩
      simp only [locate, useIfThere, absent, matched]
  | nowhere absent passed =>
      have missed : SearchPath.find? fs env e.fileName = none :=
        List.find?_eq_none.mpr fun p hp => by simp [passed p hp]
      simp only [locate, useIfThere, absent, missed]

/-- A path leads to a regular file that someone may execute. -/
def LeadsToProgram (fs : FileSystem) (path : FilePath) : Prop :=
  ∃ location content mode, fs.stat? path = .ok (location, .file content mode) ∧ mode &&& 0o111 ≠ 0

/-- A path leads to a regular file that no one may execute. -/
def LeadsToIdleFile (fs : FileSystem) (path : FilePath) : Prop :=
  ∃ location content mode, fs.stat? path = .ok (location, .file content mode) ∧ mode &&& 0o111 = 0

/-- A path leads to something that is no regular file: a directory or a special file. -/
def LeadsToNoFile (fs : FileSystem) (path : FilePath) : Prop :=
  ∃ location entry, fs.stat? path = .ok (location, entry) ∧
    ∀ content mode, entry ≠ .file content mode

/-- A path leads to something that the process has no right to execute. -/
def LeadsToForbidden (fs : FileSystem) (path : FilePath) : Prop :=
  ∃ location entry, fs.stat? path = .ok (location, entry) ∧ fs.denies .execute location = true

/-- What can be executed is a program. -/
theorem LeadsToProgram.of_isExecutable (fits : fs.isExecutable path = true) :
    LeadsToProgram fs path := by
  unfold FileSystem.isExecutable at fits
  split at fits
  next location content mode leads =>
    obtain ⟨executable, -⟩ := Bool.and_eq_true_iff.mp fits
    exact ⟨location, content, mode, leads, bne_iff_ne.mp executable⟩
  next => cases fits

/-- **What is found is there.** -/
theorem exists?_of_locate (located : locate fs env e custom storage = .ok found) :
    fs.exists? found.path = .ok true := by
  have answers := answers_locate fs env e custom storage
  rw [located] at answers
  cases answers with
  | custom there | installed there => exact there
  | onPath _ _ _ fits =>
      obtain ⟨location, content, mode, leads, -⟩ := LeadsToProgram.of_isExecutable fits
      exact FileSystem.exists?_of_stat? leads

/-- With a path of the settings, a search hangs on what is on the way of that path. -/
theorem locate_custom_congr {e' : Executable} (agree : Agree fs fs' path)
    (name : e'.displayName = e.displayName) :
    locate fs' env' e' (some path) storage' = locate fs env e (some path) storage := by
  simp only [locate, useIfThere, agree.exists?, name]

/-- Where the installed executable decides, a search hangs on what is on the way to it. -/
theorem locate_installed_congr (decides : fs.exists? (e.installedPath storage) ≠ .ok false)
    (agree : Agree fs fs' (e.installedPath storage)) :
    locate fs' env' e none storage = locate fs env e none storage := by
  simp only [locate, useIfThere, agree.exists?]
  split
  · rfl
  · rfl
  next absent => exact absurd absent decides

/-- **A search keeps its order.** It comes to exactly what `Answers` says: the path of the settings
decides alone if it is given; then the installed executable, unless it is absent; then the first
match of the search path. What is found was there. What is of lower priority never changes an
answer: with a path of the settings neither the storage directory, nor the environment, nor anything
in the file system off the way of that path; and where the installed executable decides, neither the
environment nor anything off the way to it. -/
theorem located_in_order (fs : FileSystem) (env : Environment) (e : Executable)
    (custom : Option FilePath) (storage : FilePath) :
    (∀ answer, locate fs env e custom storage = answer ↔
        Answers fs env e storage custom answer) ∧
      (∀ found, locate fs env e custom storage = .ok found →
        fs.exists? found.path = .ok true) ∧
      (∀ path, custom = some path → ∀ fs', Agree fs fs' path → ∀ env' storage' e',
        e'.displayName = e.displayName →
          locate fs' env' e' custom storage' = locate fs env e custom storage) ∧
      (custom = none → fs.exists? (e.installedPath storage) ≠ .ok false →
        ∀ fs', Agree fs fs' (e.installedPath storage) → ∀ env',
          locate fs' env' e custom storage = locate fs env e custom storage) := by
  refine ⟨fun answer => ⟨?_, Answers.locate_eq⟩, fun found => exists?_of_locate, ?_, ?_⟩
  · rintro rfl
    exact answers_locate fs env e custom storage
  · rintro path rfl fs' agree env' storage' e' name
    exact locate_custom_congr agree name
  · rintro rfl decides fs' agree env'
    exact locate_installed_congr decides agree

/-- An executable. -/
def tool : Executable := ⟨"Tool", "t", "d"⟩

/-- A file system with a file at `/k` and a place to install the executable in. -/
def shelf : FileSystem :=
  ⟨[([Bytes.ofString "k"], .file [] 0o644), (["s"].map Bytes.ofString, .dir),
    (["s", "d"].map Bytes.ofString, .dir), (["s", "d", "bin"].map Bytes.ofString, .dir)], [], []⟩

/-- The file system of `shelf` with the executable installed. -/
def fullShelf : FileSystem :=
  shelf.put (["s", "d", "bin", "t"].map Bytes.ofString) (.file [] 0o755)

/-- What is installed later does not change the answer of a path of the settings, and what is
installed is found whatever the search path says. -/
theorem located_in_order_installed_later :
    (∀ env storage, locate fullShelf env tool (some (.ofString "/k")) storage =
        .ok ⟨.ofString "/k", .custom⟩) ∧
      ∀ env, locate fullShelf env tool none (.ofString "/s") =
        .ok ⟨.ofString "/s/d/bin/t", .installed⟩ := by
  obtain ⟨-, -, custom, -⟩ :=
    located_in_order shelf ⟨[]⟩ tool (some (.ofString "/k")) (.ofString "/s")
  obtain ⟨-, -, -, installed⟩ := located_in_order fullShelf ⟨[]⟩ tool none (.ofString "/s")
  have there : fullShelf.exists? (tool.installedPath (.ofString "/s")) = .ok true := rfl
  constructor
  · intro env storage
    exact custom _ rfl fullShelf (Agree.of_put _ (by decide)) env storage tool rfl
  · intro env
    have agree : Agree fullShelf fullShelf (tool.installedPath (.ofString "/s")) :=
      ⟨rfl, fun _ _ => rfl, fun _ _ => rfl⟩
    exact installed rfl (by rw [there]; nofun) fullShelf agree env

/-! ## What is found, and what is told of it -/

/-- What is there is a program, a file that no one may execute, or no regular file. -/
theorem program_or_idle_or_no_file (there : fs.exists? path = .ok true) :
    LeadsToProgram fs path ∨ LeadsToIdleFile fs path ∨ LeadsToNoFile fs path := by
  rcases FileSystem.leads_of_exists? there with
    ⟨location, leads⟩ | ⟨location, content, mode, leads⟩ | ⟨location, content, leads⟩
  · exact .inr (.inr ⟨location, _, leads, nofun⟩)
  · by_cases idle : mode &&& 0o111 = 0
    · exact .inr (.inl ⟨location, content, mode, leads, idle⟩)
    · exact .inl ⟨location, content, mode, leads, idle⟩
  · exact .inr (.inr ⟨location, _, leads, nofun⟩)

/-- **What is found** is a program, or, at the path of the settings or the installed path, a file
that no one may execute or no regular file. -/
theorem leads_of_locate (located : locate fs env e custom storage = .ok found) :
    LeadsToProgram fs found.path ∨
      found.source ≠ .systemPath ∧
        (LeadsToIdleFile fs found.path ∨ LeadsToNoFile fs found.path) := by
  have answers := answers_locate fs env e custom storage
  rw [located] at answers
  cases answers with
  -- only the search path looks at what kind of thing it has found
  | custom there | installed there =>
      rcases program_or_idle_or_no_file there with program | other
      · exact .inl program
      · exact .inr ⟨by simp, other⟩
  | onPath _ _ _ fits => exact .inl (.of_isExecutable fits)

/-- A program is not told of. -/
theorem LeadsToProgram.warnings (program : LeadsToProgram fs found.path) :
    found.warnings fs = [] := by
  obtain ⟨location, content, mode, leads, executable⟩ := program
  have fits : FileSystem.isExecutableMode mode = true := bne_iff_ne.mpr executable
  unfold Located.warnings FileSystem.fileMode?
  rw [leads]
  cases found.source <;> simp [fits]

/-- A file that no one may execute is told of, unless it is from the search path. -/
theorem LeadsToIdleFile.warnings (idle : LeadsToIdleFile fs found.path)
    (looked : found.source ≠ .systemPath) :
    found.warnings fs = [notExecutableRecord found.path] := by
  obtain ⟨location, content, mode, leads, none_⟩ := idle
  have unfit : FileSystem.isExecutableMode mode = false := by
    rw [FileSystem.isExecutableMode, none_]
    rfl
  unfold Located.warnings FileSystem.fileMode?
  rw [leads]
  cases source : found.source with
  | systemPath => exact absurd source looked
  | custom | installed => simp [unfit]

/-- What is no regular file has no permission bits to look at. -/
theorem LeadsToNoFile.fileMode? (other : LeadsToNoFile fs path) : fs.fileMode? path = none := by
  obtain ⟨location, entry, leads, other⟩ := other
  unfold FileSystem.fileMode?
  rw [leads]
  cases entry with
  | file content mode => exact absurd rfl (other content mode)
  | dir | special | link => rfl

/-- What is no regular file is not told of. -/
theorem LeadsToNoFile.warnings (other : LeadsToNoFile fs found.path) : found.warnings fs = [] := by
  unfold Located.warnings
  rw [other.fileMode?]
  cases found.source <;> rfl

/-- A program is a file that someone may execute. -/
theorem LeadsToProgram.not_idle (program : LeadsToProgram fs path) : ¬LeadsToIdleFile fs path := by
  obtain ⟨location, content, mode, leads, executable⟩ := program
  rintro ⟨_, _, _, leads', idle⟩
  rw [leads] at leads'
  cases leads'
  exact executable idle

/-- A program is a regular file. -/
theorem LeadsToProgram.not_noFile (program : LeadsToProgram fs path) : ¬LeadsToNoFile fs path := by
  obtain ⟨location, content, mode, leads, -⟩ := program
  rintro ⟨_, _, leads', other⟩
  rw [leads] at leads'
  cases leads'
  exact other content mode rfl

/-- A file that no one may execute is a regular file. -/
theorem LeadsToIdleFile.not_noFile (idle : LeadsToIdleFile fs path) : ¬LeadsToNoFile fs path := by
  obtain ⟨location, content, mode, leads, -⟩ := idle
  rintro ⟨_, _, leads', other⟩
  rw [leads] at leads'
  cases leads'
  exact other content mode rfl

/-- A program may be opened for execution unless the process has no right to execute it. -/
theorem LeadsToProgram.openFile?_eq_denied_iff (program : LeadsToProgram fs path) :
    Program.openFile? fs path = .error .permissionDenied ↔ LeadsToForbidden fs path := by
  obtain ⟨location, content, mode, leads, executable⟩ := program
  have fits : FileSystem.isExecutableMode mode = true := bne_iff_ne.mpr executable
  unfold Program.openFile? LeadsToForbidden FileSystem.mayExecute
  rw [leads]
  cases denied : fs.denies .execute location <;> simp [fits, denied]

/-- What no one may execute may not be opened for execution. -/
theorem LeadsToIdleFile.openFile? (idle : LeadsToIdleFile fs path) :
    Program.openFile? fs path = .error .permissionDenied := by
  obtain ⟨location, content, mode, leads, none_⟩ := idle
  have unfit : FileSystem.isExecutableMode mode = false := by
    rw [FileSystem.isExecutableMode, none_]
    rfl
  unfold Program.openFile? FileSystem.mayExecute
  simp [leads, unfit]

/-- What is no regular file may not be opened for execution. -/
theorem LeadsToNoFile.openFile? (other : LeadsToNoFile fs path) :
    Program.openFile? fs path = .error .permissionDenied := by
  obtain ⟨location, entry, leads, other⟩ := other
  unfold Program.openFile?
  rw [leads]
  cases entry with
  | file content mode => exact absurd rfl (other content mode)
  | dir | special | link => rfl

/-- **A search is silent about programs and about what is no regular file.** It writes no warning
exactly if what it found is a regular file that someone may execute, or, at the path of the settings
or the installed path, no regular file but a directory or a special file. A regular file that no one
may execute is told of by one warning, which names it; so what may not be opened for execution is
told of, unless it is no regular file, or the process has no right to execute it. -/
theorem silent_iff_program_or_no_file (located : locate fs env e custom storage = .ok found) :
    (warnings fs (.ok found) = [] ↔
        LeadsToProgram fs found.path ∨
          found.source ≠ .systemPath ∧ LeadsToNoFile fs found.path) ∧
      (warnings fs (.ok found) = [notExecutableRecord found.path] ↔
        LeadsToIdleFile fs found.path) ∧
      (Program.openFile? fs found.path = .error .permissionDenied ↔
        warnings fs (.ok found) ≠ [] ∨ LeadsToNoFile fs found.path ∨
          LeadsToForbidden fs found.path) := by
  rw [show warnings fs (.ok found) = found.warnings fs from rfl]
  rcases leads_of_locate located with program | ⟨looked, idle | other⟩
  · simp [program, program.warnings, program.not_idle, program.not_noFile,
      program.openFile?_eq_denied_iff]
  · have unfit : ¬LeadsToProgram fs found.path := fun program => program.not_idle idle
    simp [unfit, idle, idle.warnings looked, idle.not_noFile, idle.openFile?]
  · have unfit : ¬LeadsToProgram fs found.path := fun program => program.not_noFile other
    have busy : ¬LeadsToIdleFile fs found.path := fun idle => idle.not_noFile other
    simp [unfit, busy, looked, other, other.warnings, other.openFile?]

/-- A file that no one may execute is used, with a warning, and cannot be started. -/
theorem silent_iff_program_or_no_file_idle :
    locate shelf ⟨[]⟩ tool (some (.ofString "/k")) (.ofString "/s") =
        .ok ⟨.ofString "/k", .custom⟩ ∧
      warnings shelf (.ok ⟨.ofString "/k", .custom⟩) = [notExecutableRecord (.ofString "/k")] ∧
      Program.openFile? shelf (.ofString "/k") = .error .permissionDenied := by
  have located : locate shelf ⟨[]⟩ tool (some (.ofString "/k")) (.ofString "/s") =
      .ok ⟨.ofString "/k", .custom⟩ := rfl
  obtain ⟨-, told, unopened⟩ := silent_iff_program_or_no_file located
  have warned := told.mpr ⟨_, _, _, rfl, rfl⟩
  exact ⟨located, warned, unopened.mpr (.inl (by rw [warned]; nofun))⟩

/-- **A directory is taken for an executable**, without a warning. -/
theorem directory_taken_for_executable :
    locate shelf ⟨[]⟩ tool (some (.ofString "/s")) (.ofString "/s") =
        .ok ⟨.ofString "/s", .custom⟩ ∧
      warnings shelf (.ok ⟨.ofString "/s", .custom⟩) = [] ∧
      shelf.isDir (.ofString "/s") = true ∧
      ¬LeadsToProgram shelf (.ofString "/s") := by
  refine ⟨rfl, rfl, rfl, ?_⟩
  rintro ⟨location, content, mode, leads, -⟩
  cases leads

end ToolingHost.Executable
