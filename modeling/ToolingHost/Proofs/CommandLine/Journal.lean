import Mathlib.Logic.Relation
import ToolingHost.CommandLine.Journal
import ToolingHost.Proofs.FileSystem
import ToolingHost.Proofs.FileSystem.Growth

/-! # What the log leaves behind

Opening the log makes directories for the candidates, opens one of them, and writes into it. Every
change that is made to the file system on the way is one of three (`LogStep`): a directory above a
candidate is made where nothing was, a candidate is made where nothing was, or something is appended
to a candidate. So the file system only grows (`LogSteps.grows`), and what is at any place but those
that the candidates and the directories above them lead to is left alone (`LogSteps.kept`). -/

namespace ToolingHost.CommandLine

open FileSystem (Grows newFileMode)

/-- The directories that may be made for the log: that of each candidate, and those above it. -/
def logDirs (home? : Option FilePath) : List FilePath :=
  (logCandidates home?).flatMap fun path => (path.parent?.getD ⟨[]⟩).ancestors

/-- A change to the file system for the sake of the log. -/
inductive LogStep (home? : Option FilePath) : FileSystem → FileSystem → Prop where
  /-- A directory above a candidate is made. -/
  | dir {fs : FileSystem} {path : FilePath} {parent : Location} {name : Bytes}
    (listed : path ∈ logDirs home?) (missing : fs.resolveNew path = .missing parent name) :
    LogStep home? fs (fs.put (parent ++ [name]) .dir)
  /-- A candidate is made. -/
  | file {fs : FileSystem} {path : FilePath} {parent : Location} {name : Bytes}
    (listed : path ∈ logCandidates home?) (missing : fs.resolve path = .missing parent name) :
    LogStep home? fs (fs.put (parent ++ [name]) (.file [] newFileMode))
  /-- Something is appended to a candidate. -/
  | write {fs : FileSystem} {path : FilePath} {location : Location} {content : Bytes} {mode : Nat}
    (listed : path ∈ logCandidates home?)
    (leads : fs.stat? path = .ok (location, .file content mode)) (bytes : Bytes) :
    LogStep home? fs (fs.append location bytes)

/-- Changes to the file system for the sake of the log, one after the other. -/
abbrev LogSteps (home? : Option FilePath) : FileSystem → FileSystem → Prop :=
  Relation.ReflTransGen (LogStep home?)

/-- A place that a candidate for the log, or a directory above one, leads to. -/
inductive LogPlace (home? : Option FilePath) (fs : FileSystem) (location : Location) : Prop where
  /-- That of a directory. -/
  | dir (path : FilePath) (listed : path ∈ logDirs home?)
    (leads : fs.stat? path = .ok (location, .dir))
  /-- That of a candidate. -/
  | file (path : FilePath) (listed : path ∈ logCandidates home?) (content : Bytes) (mode : Nat)
    (leads : fs.stat? path = .ok (location, .file content mode))

variable {home? : Option FilePath} {fs fs' : FileSystem} {location : Location}

/-! ## Changes for the log -/

/-- A path to a file goes on leading to it. -/
theorem leads_of_grows {path : FilePath} {content : Bytes} {mode : Nat} (grows : Grows fs fs')
    (leads : fs.stat? path = .ok (location, .file content mode)) :
    ∃ content', fs'.stat? path = .ok (location, .file content' mode) := by
  obtain ⟨entry, leads', alike⟩ := grows.stat? leads
  cases entry with
  | file content' mode' =>
      cases alike
      exact ⟨content', leads'⟩
  | dir | special | link => cases alike

/-- A place for the log stays one. -/
theorem LogPlace.of_grows (grows : Grows fs fs') (h : LogPlace home? fs location) :
    LogPlace home? fs' location := by
  cases h with
  | dir path listed leads =>
      obtain ⟨entry, leads', alike⟩ := grows.stat? leads
      cases entry with
      | dir => exact .dir path listed leads'
      | file | special | link => cases alike
  | file path listed content mode leads =>
      obtain ⟨content', leads'⟩ := leads_of_grows grows leads
      exact .file path listed content' mode leads'

/-- A change for the log keeps every entry. -/
theorem LogStep.grows (step : LogStep home? fs fs') : Grows fs fs' := by
  cases step with
  | dir _ missing => exact .put (FileSystem.lookup_of_resolveNew missing) _
  | file _ missing => exact .put (FileSystem.lookup_of_resolve missing) _
  | write _ _ bytes => exact .append _ _ bytes

/-- Changes for the log keep every entry. -/
theorem LogSteps.grows (steps : LogSteps home? fs fs') : Grows fs fs' := by
  induction steps with
  | refl => exact .refl fs
  | tail _ step ih => exact ih.trans step.grows

/-- A change for the log is made at a place for it. -/
theorem LogStep.kept (step : LogStep home? fs fs') (location : Location) :
    LogPlace home? fs' location ∨ fs'.lookup location = fs.lookup location := by
  -- every step changes one location, which is a place for the log
  cases step with
  | @dir path parent name listed missing =>
      by_cases spot : location = parent ++ [name]
      · left
        rw [spot]
        exact .dir path listed (FileSystem.stat?_of_resolveNew missing)
      · exact .inr (FileSystem.lookup_put_of_ne _ _ spot)
  | @file path parent name listed missing =>
      by_cases spot : location = parent ++ [name]
      · left
        rw [spot]
        exact .file path listed _ _ (FileSystem.stat?_of_resolve missing _ _)
      · exact .inr (FileSystem.lookup_put_of_ne _ _ spot)
  | @write path place content mode listed leads bytes =>
      by_cases spot : location = place
      · left
        rw [spot]
        obtain ⟨content', leads'⟩ := leads_of_grows (.append fs place bytes) leads
        exact .file path listed content' mode leads'
      · right
        unfold FileSystem.append
        split
        · exact FileSystem.lookup_put_of_ne _ _ spot
        · rfl

/-- **What changes for the log changes at the places for it**: any other place is as it was. -/
theorem LogSteps.kept (steps : LogSteps home? fs fs') (location : Location) :
    LogPlace home? fs' location ∨ fs'.lookup location = fs.lookup location := by
  -- a place for the log is still one after later steps, since they keep what leads there
  induction steps with
  | refl => exact .inr rfl
  | tail _ step ih =>
      rcases step.kept location with place | same
      · exact .inl place
      · rw [same]
        exact ih.imp_left (.of_grows step.grows)

/-! ## Opening the log -/

/-- Directories are made one by one. -/
theorem makeDirsAlong_steps {paths : List FilePath}
    (listed : ∀ path ∈ paths, path ∈ logDirs home?) :
    LogSteps home? fs (fs.makeDirsAlong paths).1 := by
  induction paths with
  | nil => exact .refl
  | cons path above ih =>
      obtain ⟨here, later⟩ := List.forall_mem_cons.mp listed
      have makes {fs made : FileSystem} (h : fs.makeDir? path = .ok made) :
          LogStep home? fs made := by
        obtain ⟨parent, name, missing, -, rfl⟩ := FileSystem.makeDir?_eq_ok_iff.mp h
        exact .dir here missing
      rcases FileSystem.makeDirsAlong_cases fs path above with
        ⟨-, done⟩ | ⟨ready, before, outcome⟩
      · rw [done]
      · -- the directories above are made first, if they are wanted
        have up : LogSteps home? fs ready := by
          rcases before with rfl | rfl
          · exact .refl
          · exact ih later
        rcases outcome with ⟨made, new, done⟩ | ⟨-, done⟩ | ⟨cause, failed⟩
        · rw [done]
          exact up.tail (makes new)
        · rwa [done]
        · rwa [failed]

/-- A log file is a candidate, and its path leads to it; it may be a special file. -/
def LogFile.Opened (home? : Option FilePath) (fs : FileSystem) (file : LogFile) : Prop :=
  file.path ∈ logCandidates home? ∧
    ∃ entry, fs.stat? file.path = .ok (file.location, entry) ∧ entry ≠ .dir

/-- A log file stays one while the file system grows. -/
theorem LogFile.Opened.of_grows {file : LogFile} (grows : Grows fs fs')
    (opened : file.Opened home? fs) : file.Opened home? fs' := by
  obtain ⟨listed, entry, leads, other⟩ := opened
  obtain ⟨entry', leads', alike⟩ := grows.stat? leads
  refine ⟨listed, entry', leads', ?_⟩
  rintro rfl
  cases entry with
  | dir => exact other rfl
  | file | special | link => cases alike

/-- Opening a candidate changes the file system for the log only; if it succeeds, it is open. -/
theorem openLogFile_steps {path : FilePath} (listed : path ∈ logCandidates home?) :
    LogSteps home? fs (openLogFile fs path).1 ∧
      ∀ file, (openLogFile fs path).2 = .ok file → file.Opened home? (openLogFile fs path).1 := by
  have above : LogSteps home? fs (fs.makeDirs (path.parent?.getD ⟨[]⟩)).1 :=
    makeDirsAlong_steps fun dir on => List.mem_flatMap.mpr ⟨path, listed, on⟩
  unfold openLogFile
  dsimp only
  split
  next failed =>
    rw [failed] at above
    exact ⟨above, nofun⟩
  next ready made =>
    rw [made] at above
    split
    next => exact ⟨above, nofun⟩
    next opened =>
      rcases FileSystem.openAppend?_cases opened with
        ⟨entry, rfl, leads, other, -⟩ | ⟨parent, name, missing, -, rfl, rfl⟩
      · refine ⟨above, ?_⟩
        rintro file ⟨⟩
        exact ⟨listed, entry, leads, other⟩
      · refine ⟨above.tail (.file listed missing), ?_⟩
        rintro file ⟨⟩
        exact ⟨listed, _, FileSystem.stat?_of_resolve missing _ _, nofun⟩

/-- Opening the first candidate that can be opened changes the file system for the log only; if one
can be, it is open. -/
theorem openFirstLogFile_steps {paths : List FilePath}
    (listed : ∀ path ∈ paths, path ∈ logCandidates home?) :
    LogSteps home? fs (openFirstLogFile fs paths).1 ∧
      ∀ file, (openFirstLogFile fs paths).2.1 = some file →
        file.Opened home? (openFirstLogFile fs paths).1 := by
  induction paths generalizing fs with
  | nil => exact ⟨.refl, nofun⟩
  | cons path rest ih =>
      obtain ⟨here, later⟩ := List.forall_mem_cons.mp listed
      obtain ⟨steps, opened⟩ := @openLogFile_steps home? fs path here
      rw [openFirstLogFile]
      split
      next first =>
        rw [first] at steps opened
        refine ⟨steps, ?_⟩
        rintro file ⟨⟩
        exact opened _ rfl
      next failed =>
        rw [failed] at steps
        obtain ⟨steps', opened'⟩ := ih later
        exact ⟨steps.trans steps', opened'⟩

/-! ## Writing into it -/

namespace Journal

variable {j : Journal}

/-- The log file of a journal, if it has one, is open. -/
def Sound (home? : Option FilePath) (j : Journal) : Prop :=
  ∀ file, j.file = some file → file.Opened home? j.fs

/-- Writing a record into the log changes the file system for the log only, and leaves it open. -/
theorem log_steps (sound : j.Sound home?) (r : Log.Record) :
    LogSteps home? j.fs (j.log r).fs ∧ (j.log r).Sound home? := by
  unfold log
  split
  · dsimp only
    split
    next file open_ =>
      obtain ⟨listed, entry, leads, other⟩ := sound file open_
      refine ⟨?_, fun file' same => (sound file' same).of_grows (.append _ _ _)⟩
      have there := FileSystem.lookup_of_stat? leads other
      rcases FileSystem.stat?_cases leads with rfl | ⟨content, mode, rfl⟩ | ⟨content, rfl⟩
      · exact absurd rfl other
      · exact .single (.write listed leads _)
      · rw [FileSystem.append_of_special there]
    next => exact ⟨.refl, sound⟩
  · exact ⟨.refl, sound⟩

/-- Writing records into the log changes the file system for the log only, and leaves it open. -/
theorem logAll_steps (sound : j.Sound home?) (rs : List Log.Record) :
    LogSteps home? j.fs (j.logAll rs).fs ∧ (j.logAll rs).Sound home? := by
  unfold logAll
  induction rs generalizing j with
  | nil => exact ⟨.refl, sound⟩
  | cons r rest ih =>
      obtain ⟨steps, sound'⟩ := log_steps sound r
      obtain ⟨steps', last⟩ := ih sound'
      exact ⟨steps.trans steps', last⟩

/-- **Starting the log changes the file system for it only**, and leaves its file open. -/
theorem start_steps (fs : FileSystem) (home? : Option FilePath) (filter : Log.Filter)
    (stamp : String) :
    LogSteps home? fs (start fs home? filter stamp).fs ∧
      (start fs home? filter stamp).Sound home? := by
  obtain ⟨steps, opened⟩ := @openFirstLogFile_steps home? fs (logCandidates home?) fun _ => id
  unfold start
  dsimp only
  have sound : Sound home? ⟨(openFirstLogFile fs (logCandidates home?)).1,
      (openFirstLogFile fs (logCandidates home?)).2.1, filter, stamp, []⟩ := opened
  obtain ⟨steps', last⟩ := logAll_steps sound _
  exact ⟨steps.trans steps', last⟩

end Journal

end ToolingHost.CommandLine
