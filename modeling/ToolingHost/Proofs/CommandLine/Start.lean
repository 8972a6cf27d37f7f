import ToolingHost.CommandLine.Run
import ToolingHost.Proofs.CommandLine.Journal

/-! # Runs that fail before anything is started

Before anything is started, a run loads its settings, opens its log, and looks for the workspace. If
the settings cannot be loaded or the workspace cannot be found, it ends there: nothing has been
activated, the file system has changed for the log only, and the storage directory has played no
part (`ends_early_unless_found_by_log`). As the log is opened before the workspace is looked for, a
directory that has been made for the log can be the workspace, or lead to it; then the run goes on
(`runs_in_log_directory`). -/

namespace ToolingHost.CommandLine

open FileSystem (Grows)

/-- The path at which the workspace is looked for. -/
def Arguments.workspacePath (a : Arguments) : FilePath := a.workspace.getD usualWorkspace

/-- The journal of a run when its log has been opened. -/
def openedJournal (m : Machine) (a : Arguments) : Journal :=
  Journal.start m.fs m.home? (chooseFilter m (loadSettings m a)) m.stamp

/-- A run that ended before anything was started. -/
structure EndsEarly (m : Machine) (r : Report) : Prop where
  /-- It failed. -/
  failed : r.exitCode = failure
  /-- It did not wait for an interrupt. -/
  unwaiting : r.interrupted = false
  /-- Nothing was activated: there is no process, no language configuration, no status item. -/
  inactive : r.activation = none
  /-- What was there is still there; files may have got longer. -/
  grows : Grows m.fs r.fs
  /-- What is at no place for the log is as it was. -/
  kept : ∀ location, LogPlace m.home? r.fs location ∨ r.fs.lookup location = m.fs.lookup location

/-- The workspace can be found when the log has been opened, and on the way to it is a place that
was vacant, at which a file or a directory has been made for the log. -/
structure FoundByLog (m : Machine) (a : Arguments) : Prop where
  /-- It is found. -/
  found : ∃ workspace, (openedJournal m a).fs.canonical? a.workspacePath = .ok workspace
  /-- Something on the way is new. -/
  made : ∃ place ∈ m.fs.places a.workspacePath, m.fs.lookup place = none ∧
    (openedJournal m a).fs.lookup place ≠ none ∧ LogPlace m.home? (openedJournal m a).fs place

variable {m : Machine} {a : Arguments}

/-- Opening the log changes the file system for the log only. -/
theorem openedJournal_steps (m : Machine) (a : Arguments) :
    LogSteps m.home? m.fs (openedJournal m a).fs ∧ (openedJournal m a).Sound m.home? :=
  Journal.start_steps ..

/-- **A workspace that cannot be found is found with the log open only by what was made for it.** -/
theorem foundByLog_of_unresolved {cause : IoError} {workspace : FilePath}
    (astray : m.fs.canonical? a.workspacePath = .error cause)
    (found : (openedJournal m a).fs.canonical? a.workspacePath = .ok workspace) :
    FoundByLog m a := by
  refine ⟨⟨workspace, found⟩, ?_⟩
  obtain ⟨steps, -⟩ := openedJournal_steps m a
  cases before : m.fs.stat? a.workspacePath with
  | ok there =>
      rw [FileSystem.canonical?, before] at astray
      cases astray
  | error cause =>
      -- a look-up that has changed has met a new entry, and new entries are at places for the log
      rcases steps.grows.stat?_error before with after | ⟨place, on, vacant, new⟩
      · rw [FileSystem.canonical?, after] at found
        cases found
      · refine ⟨place, on, vacant, new, ?_⟩
        rcases steps.kept place with made | same
        · exact made
        · exact absurd (same.trans vacant) new

/-- A failure before activation leaves what the log left, and a record of itself. -/
theorem endsEarly_failWith {j : Journal} (steps : LogSteps m.home? m.fs j.fs)
    (sound : j.Sound m.home?)
    (message : String) (record : Log.Record) : EndsEarly m (failWith j message record none) := by
  obtain ⟨steps', -⟩ := Journal.log_steps sound record
  have all : LogSteps m.home? m.fs (failWith j message record none).fs := steps.trans steps'
  exact ⟨rfl, rfl, rfl, all.grows, all.kept⟩

/-- Why a run ends before anything is started, with the record of it. -/
def earlyFailure? (m : Machine) (a : Arguments) : Option (String × Log.Record) :=
  match loadSettings m a with
  | .error e => some (e.message, loadFailureRecord e)
  | .ok _ =>
    match workspace? (openedJournal m a).fs a with
    | .error message => some (message, failureRecord message)
    | .ok _ => none

/-- A run that fails early ends as soon as its log is open. -/
theorem runWith_of_earlyFailure {message : String} {record : Log.Record}
    (fails : earlyFailure? m a = some (message, record)) :
    runWith m a = failWith (openedJournal m a) message record none := by
  unfold earlyFailure? openedJournal at fails
  unfold runWith openedJournal
  cases loaded : loadSettings m a with
  | error e =>
      rw [loaded] at fails
      cases fails
      rfl
  | ok settings =>
      rw [loaded] at fails
      dsimp only at fails ⊢
      generalize Journal.start m.fs m.home? (chooseFilter m (.ok settings)) m.stamp = j at fails ⊢
      cases found : workspace? j.fs a with
      | error why =>
          rw [found] at fails
          cases fails
          rfl
      | ok workspace =>
          rw [found] at fails
          cases fails

/-- The storage directory is no reason, nor is anything else but the settings and the workspace. -/
theorem runWith_congr_of_earlyFailure {a' : Arguments} (fails : (earlyFailure? m a).isSome)
    (workspace : a'.workspace = a.workspace) (config : a'.config = a.config) :
    runWith m a' = runWith m a := by
  have settings : loadSettings m a' = loadSettings m a := by
    unfold loadSettings
    rw [config]
  have journal : openedJournal m a' = openedJournal m a := by
    unfold openedJournal
    rw [settings]
  have same : earlyFailure? m a' = earlyFailure? m a := by
    unfold earlyFailure? workspace?
    rw [settings, journal, workspace]
  obtain ⟨⟨message, record⟩, why⟩ := Option.isSome_iff_exists.mp fails
  rw [runWith_of_earlyFailure why, runWith_of_earlyFailure (same.trans why), journal]

/-- Settings that cannot be loaded are a reason, and so is a workspace that cannot be found, unless
it is found by what has been made for the log. -/
theorem earlyFailure?_isSome
    (fails : (∃ e, loadSettings m a = .error e) ∨
      (∃ cause, m.fs.canonical? a.workspacePath = .error cause) ∧ ¬FoundByLog m a) :
    (earlyFailure? m a).isSome := by
  unfold earlyFailure?
  cases loaded : loadSettings m a with
  | error e => rfl
  | ok settings =>
      rcases fails with ⟨e, unloaded⟩ | ⟨⟨cause, astray⟩, unfound⟩
      · rw [loaded] at unloaded
        cases unloaded
      · cases found : (openedJournal m a).fs.canonical? a.workspacePath with
        | ok workspace => exact absurd (foundByLog_of_unresolved astray found) unfound
        | error cause' =>
            unfold Arguments.workspacePath at found
            unfold workspace?
            dsimp only
            rw [found]
            rfl

/-- **A run without settings or without a workspace ends early**, and alike for every storage
directory, unless the workspace is found by what has been made for the log. -/
theorem ends_early_unless_found_by_log {arguments : List Bytes}
    (accepted : Request.ofArguments arguments = .run a)
    (fails : (∃ e, loadSettings m a = .error e) ∨
      (∃ cause, m.fs.canonical? a.workspacePath = .error cause) ∧ ¬FoundByLog m a) :
    EndsEarly m (run m arguments) ∧
    ∀ arguments' a', Request.ofArguments arguments' = .run a' → a'.workspace = a.workspace →
      a'.config = a.config → run m arguments' = run m arguments := by
  have early := earlyFailure?_isSome fails
  have same {arguments : List Bytes} {a : Arguments}
      (accepted : Request.ofArguments arguments = .run a) : run m arguments = runWith m a := by
    unfold run
    rw [accepted]
  rw [same accepted]
  constructor
  · obtain ⟨⟨message, record⟩, why⟩ := Option.isSome_iff_exists.mp early
    rw [runWith_of_earlyFailure why]
    obtain ⟨steps, sound⟩ := openedJournal_steps m a
    exact endsEarly_failWith steps sound message record
  · intro arguments' a' accepted' workspace config
    rw [same accepted']
    exact runWith_congr_of_earlyFailure early workspace config

/-- The arguments of a run for a workspace, with a storage directory. -/
def startArguments (workspace storage : String) : List Bytes :=
  ["--workspace", workspace, "--storage", storage].map Bytes.ofString

/-- The values of the options in these arguments. -/
def startOptions (workspace storage : String) : Arguments :=
  ⟨some (.ofString workspace), none, some (.ofString storage)⟩

/-- A home directory, and the executables in a directory of the search path; no more. -/
def freshMachine : Machine where
  fs :=
    ⟨([Bytes.ofString "h"], .dir) :: ([Bytes.ofString "p"], .dir) :: Subsystem.all.map fun s =>
      (["p", (Executable.ofSubsystem s).binaryName].map Bytes.ofString, .file [] 0o755), [], []⟩
  env := ⟨[("HOME", "/h"), ("PATH", "/p")].map fun v => (Bytes.ofString v.1, Bytes.ofString v.2)⟩
  account := none
  isProgram := fun _ => true
  dialogue := fun _ _ => ⟨[], none, []⟩
  stamp := ""

/-- Without the directory `/w`, a run for it ends early, and alike for two storage directories. -/
theorem ends_early_unless_found_by_log_nowhere :
    EndsEarly freshMachine (run freshMachine (startArguments "/w" "/d/s")) ∧
      run freshMachine (startArguments "/w" "/e/t") =
        run freshMachine (startArguments "/w" "/d/s") := by
  have missing : ((openedJournal freshMachine (startOptions "/w" "/d/s")).fs.canonical?
      (.ofString "/w")).toBool = false := by decide +kernel
  have unfound : ¬FoundByLog freshMachine (startOptions "/w" "/d/s") := by
    rintro ⟨⟨workspace, found⟩, -⟩
    rw [show (startOptions "/w" "/d/s").workspacePath = .ofString "/w" from rfl] at found
    rw [found] at missing
    cases missing
  obtain ⟨early, alike⟩ := @ends_early_unless_found_by_log freshMachine (startOptions "/w" "/d/s")
    (startArguments "/w" "/d/s") rfl (.inr ⟨⟨.notFound, rfl⟩, unfound⟩)
  exact ⟨early, alike (startArguments "/w" "/e/t") (startOptions "/w" "/e/t") rfl rfl rfl⟩

/-- **The directory of the log can be the workspace** though it was not there: opening the log makes
it, and the run goes on, and makes the directory above the storage directory. -/
theorem runs_in_log_directory :
    ∃ a, Request.ofArguments (startArguments "/h/.kide/logs" "/d/s") = .run a ∧
      freshMachine.fs.canonical? a.workspacePath = .error .notFound ∧
      (run freshMachine (startArguments "/h/.kide/logs" "/d/s")).exitCode = success ∧
      (run freshMachine (startArguments "/h/.kide/logs" "/d/s")).fs.isDir (.ofString "/d") = true ∧
      freshMachine.fs.isDir (.ofString "/d") = false :=
  ⟨_, rfl, rfl, by decide +kernel, by decide +kernel, rfl⟩

end ToolingHost.CommandLine
