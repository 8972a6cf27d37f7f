import ToolingHost.Proofs.Activation.Beginning
import ToolingHost.Proofs.FileSystem

/-! # What is there in place of the storage directory

Making sure of the storage directory asks whether something is there, and not what. `Ensures` lists
what may come of it. Where a directory is there, or one is made, the path leads to a directory
afterwards; where something else is there, a regular file or a special one, that is taken for the
directory. There is no other success (`storage_is_dir_unless_file`), and since nothing else in a run
changes the file system, the activators find what the storage step has left. -/

namespace ToolingHost

namespace Storage

variable {fs : FileSystem} {path : FilePath}

/-- A path leads to a file, of whatever kind: something is there, and it is no directory. -/
def LeadsToFile (fs : FileSystem) (path : FilePath) : Prop :=
  ∃ location entry, fs.stat? path = .ok (location, entry) ∧ entry ≠ .dir

/-- What is a file is no directory. -/
theorem LeadsToFile.isDir (file : LeadsToFile fs path) : fs.isDir path = false := by
  obtain ⟨location, entry, there, other⟩ := file
  rw [FileSystem.isDir, there]
  cases entry with
  | dir => exact absurd rfl other
  | file | special | link => rfl

/-- What may come of making sure of the storage directory. -/
inductive Ensures (fs : FileSystem) (path : FilePath) :
    FileSystem → Except IoError Outcome → Prop where
  /-- It is there. -/
  | found (dir : fs.isDir path = true) : Ensures fs path fs (.ok .existing)
  /-- A file is there. -/
  | mistaken (file : LeadsToFile fs path) : Ensures fs path fs (.ok .existing)
  /-- Nothing is there, not even a link, in a directory that is and may be written to; and it is
  made. -/
  | made {parent : Location} {name : Bytes} (nothing : fs.exists? path = .ok false)
      (vacant : fs.resolveNew path = .missing parent name)
      (allowed : fs.denies .write parent = false) :
      Ensures fs path (fs.put (parent ++ [name]) .dir) (.ok .created)
  /-- It cannot be seen or made. -/
  | failed {cause : IoError} (unseen : fs.exists? path ≠ .ok true) :
      Ensures fs path fs (.error cause)

/-- A path that leads to something leads to a directory or to a file. -/
theorem dir_or_file (there : fs.exists? path = .ok true) :
    fs.isDir path = true ∨ LeadsToFile fs path := by
  rcases FileSystem.leads_of_exists? there with
    ⟨location, led⟩ | ⟨location, content, mode, led⟩ | ⟨location, content, led⟩
  · exact .inl (by rw [FileSystem.isDir, led])
  · exact .inr ⟨location, _, led, by simp⟩
  · exact .inr ⟨location, _, led, by simp⟩

/-- **Every attempt is in the list.** -/
theorem ensure_sound (fs : FileSystem) (path : FilePath) :
    Ensures fs path (ensure fs path).1 (ensure fs path).2 := by
  unfold ensure
  cases seen : fs.exists? path with
  | error cause => exact .failed (by simp [seen])
  | ok there =>
      cases there with
      | true =>
          rcases dir_or_file seen with dir | file
          · exact .found dir
          · exact .mistaken file
      | false =>
          dsimp only
          cases made : fs.makeDir? path with
          | ok made' =>
              obtain ⟨parent, name, vacant, allowed, rfl⟩ := FileSystem.makeDir?_eq_ok_iff.mp made
              exact .made seen vacant allowed
          | error cause => exact .failed (by simp [seen])

/-- **A success leaves a directory**, or the file that was there. -/
theorem isDir_or_file {outcome : Outcome} (ok : (ensure fs path).2 = .ok outcome) :
    (ensure fs path).1.isDir path = true ∨
      LeadsToFile fs path ∧ ensure fs path = (fs, .ok .existing) := by
  have sound := ensure_sound fs path
  rcases made : ensure fs path with ⟨fs', result⟩
  rw [made] at sound ok
  cases sound with
  | found dir => exact .inl dir
  | mistaken file => exact .inr ⟨file, rfl⟩
  | made nothing vacant allowed =>
      have created := FileSystem.makeDir?_eq_ok_iff.mpr ⟨_, _, vacant, allowed, rfl⟩
      exact .inl (FileSystem.isDir_of_makeDir? created)
  | failed unseen => cases ok

/-- A file is taken for the directory. -/
theorem ensure_of_file (file : LeadsToFile fs path) : ensure fs path = (fs, .ok .existing) := by
  obtain ⟨location, entry, there, -⟩ := file
  rw [ensure, FileSystem.exists?_of_stat? there]

end Storage

namespace Activation

open Storage (LeadsToFile)

variable {setup : Setup} {w : World} {r r' : Run} {moves : Moves} {h : Happening}
  {events : List Event}

/-! ## Runs -/

/-- Whether the storage step comes later. -/
def Stage.isEarly : Stage → Bool
  | .starting | .preparing _ => true
  | _ => false

/-- What a run finds in its file system: at first what the world held, and after the storage step
what that has left. -/
inductive Ensured (w : World) (r : Run) : Prop where
  /-- The storage step comes later. -/
  | before (at_ : r.stage.isEarly = true) (same : r.world.fs = w.fs)
  /-- The storage step has been made, and has succeeded if activation went on. -/
  | after {result : Except IoError Storage.Outcome} (at_ : r.stage.isEarly = false)
      (made : Storage.ensure w.fs w.context.storage = (r.world.fs, result))
      (ok : r.stage.isStored = true → ∃ outcome, result = .ok outcome)

namespace Ensured

/-- A step of activation leaves what it finds, and the storage step what it makes. -/
theorem coordinatorStep {stage : Stage} {world : World} (ensured : Ensured w r)
    (own : CoordinatorStep setup r.world r.stage stage world events)
    (storage : r.world.context.storage = w.context.storage) : Ensured w ⟨stage, world⟩ := by
  obtain ⟨before, source⟩ := r
  cases ensured with
  | before at_ same =>
      cases own with
      | started leads => exact .before rfl (leads.fs.trans same)
      | stored made =>
          rw [storage, same] at made
          exact .after rfl made fun _ => ⟨_, rfl⟩
      | unstored failed =>
          rw [storage, same] at failed
          exact .after rfl failed nofun
      | launched | skipped | watched | waited | passed | failed | again | succeeded => cases at_
  | after at_ made ok =>
      cases own with
      | started | stored | unstored => cases at_
      | launched | skipped | watched | waited | passed | failed | again | succeeded =>
          exact .after rfl made fun _ => ok rfl

/-- Every run finds what the storage step has ensured. -/
theorem of_history (h : Run.History setup ⟨.starting, w⟩ moves r) : Ensured w r := by
  induction h with
  | nil => exact .before rfl rfl
  | @concat moves last next action events before made ih =>
      have step := step_sound made
      by_cases own : action = .act .coordinator
      · subst own
        cases step with
        | coordinator own => exact ih.coordinatorStep own (storage_of_history before)
      · have kept := step.keeps own
        cases ih with
        | before at_ same => exact .before (kept.stage ▸ at_) (kept.fs.trans same)
        | after at_ made ok =>
            exact .after (kept.stage ▸ at_) (kept.fs ▸ made) (kept.stage ▸ ok)

/-- **Where a run goes on, there is a storage directory**, unless a file was there. -/
theorem isDir_iff (ensured : Ensured w r) (stored : r.stage.isStored = true) :
    r.world.fs.isDir w.context.storage = true ↔ ¬LeadsToFile w.fs w.context.storage := by
  cases ensured with
  | before at_ =>
      have late : r.stage.isEarly = false := by
        cases stage : r.stage with
        | starting | preparing =>
            rw [stage] at stored
            cases stored
        | launching | watching | returned => rfl
      rw [late] at at_
      cases at_
  | after at_ made ok =>
      -- the file system is the one that the storage step has left
      obtain ⟨outcome, rfl⟩ := ok stored
      constructor
      · intro dir file
        have same := Storage.ensure_of_file file
        rw [made] at same
        have left : r.world.fs = w.fs := congrArg Prod.fst same
        rw [left, file.isDir] at dir
        cases dir
      · intro other
        have dir := Storage.isDir_or_file (congrArg Prod.snd made)
        rw [made] at dir
        exact dir.resolve_right fun both => other both.1

end Ensured

/-- The step of a task that is shown calls its activator. -/
theorem stepTask?_shown {activators : Activators} {id : Nat} {t : Task}
    (found : w.tasks[id]? = some t) (unsettled : t.settled? = none)
    (at_ : t.scope.phase = .shown) :
    w.stepTask? activators id = some (w.callActivator activators id t) := by
  obtain ⟨spared, -⟩ := settled?_eq_none_iff.mp unsettled
  rw [World.stepTask?, found]
  dsimp only
  rw [spared, if_neg Bool.false_ne_true, at_]

/-- The call of an activator shows whether the storage directory is there. -/
theorem stored_of_called {activators : Activators} {w' : World} {id : Nat} {s : Subsystem}
    {customPath : Option FilePath} {stored : Bool}
    (made : w.stepTask? activators id = some (w', events))
    (called : .called s customPath stored ∈ events) : stored = w.fs.isDir w.context.storage := by
  obtain ⟨t, found, unsettled, ⟨turn, -, -⟩⟩ := World.stepTask?_sound made
  have calling (at_ : t.scope.phase = .shown) : stored = w.fs.isDir w.context.storage := by
    rw [stepTask?_shown found unsettled at_] at made
    cases made
    cases List.mem_singleton.mp called
    rfl
  cases turn with
  | called at_ | uncalled at_ => exact calling at_
  | around own =>
      obtain ⟨call, -, same⟩ := List.mem_map.mp called
      cases same
  | updated | unupdated =>
      obtain ⟨item, -, same⟩ := List.mem_map.mp called
      cases same
  | acted _ _ unrelated => cases (unrelated _ called).2
  | ended => cases called

/-- The call of an activator by a task that the run has launched shows whether the storage directory
is there. -/
theorem stored_of_history (h : Run.History setup ⟨.starting, w⟩ moves r)
    {move : Move Run Happening Event} (hm : move ∈ moves)
    (own : isOwn w.tasks.length move = true) {s : Subsystem} {customPath : Option FilePath}
    {stored : Bool} (called : .called s customPath stored ∈ move.events) :
    stored = true ↔ ¬LeadsToFile w.fs w.context.storage := by
  obtain ⟨⟨before, earlier⟩, made⟩ := h.of_mem hm
  have step := step_sound made
  cases step.origin called with
  | rules _ _ is | record _ is => cases is
  | item _ _ is => cases is
  | effect _ _ _ is => cases (Act.unrelated_of_mem_effect _ _ is).2
  | @call id t _ action found is =>
      have new : w.tasks.length ≤ id := by simpa [isOwn, action, Happening.subject?] using own
      have ready := (purpose_of_history earlier new found).1
      rw [action, Run.happen?, Run.step?] at made
      obtain ⟨⟨world, events⟩, stepped, same⟩ := Option.map_eq_some_iff.mp made
      have here : events = move.events := congrArg Prod.snd same
      rw [← here] at called
      rw [stored_of_called stepped called, storage_of_history earlier]
      exact (Ensured.of_history earlier).isDir_iff ready

/-- **A success is the storage directory, unless a file is there.** Making sure of the storage
directory keeps its promise, that the path leads to a directory after a success, exactly if the path
did not lead to a file before, which may be a special one; otherwise the file is taken for the
directory, and nothing changes. A directory is made only where nothing was, not even a link. So in a
run, which launches tasks only after a success, the storage path leads to a directory whenever a
task is there and an activator is called, exactly if it did not lead to a file when the run
began. -/
theorem storage_is_dir_unless_file (fs : FileSystem) (path : FilePath) :
    ((∀ outcome, (Storage.ensure fs path).2 = .ok outcome →
        (Storage.ensure fs path).1.isDir path = true) ↔ ¬LeadsToFile fs path) ∧
      (LeadsToFile fs path → Storage.ensure fs path = (fs, .ok .existing)) ∧
      ((Storage.ensure fs path).2 = .ok .created →
        ∃ parent name, fs.resolveNew path = .missing parent name ∧
          (Storage.ensure fs path).1 = fs.put (parent ++ [name]) .dir) ∧
      ∀ setup w r moves, w.fs = fs → w.context.storage = path →
        Run.History setup ⟨.starting, w⟩ moves r →
          (w.tasks.length < r.world.tasks.length →
            (r.world.fs.isDir path = true ↔ ¬LeadsToFile fs path)) ∧
          ∀ move ∈ moves, isOwn w.tasks.length move = true →
            ∀ s customPath stored, .called s customPath stored ∈ move.events →
              (stored = true ↔ ¬LeadsToFile fs path) := by
  refine ⟨⟨?_, ?_⟩, Storage.ensure_of_file, ?_, ?_⟩
  · intro kept file
    have dir := kept .existing (by rw [Storage.ensure_of_file file])
    rw [Storage.ensure_of_file file, file.isDir] at dir
    cases dir
  · intro other outcome ok
    exact (Storage.isDir_or_file ok).resolve_right fun both => other both.1
  · intro created
    have sound := Storage.ensure_sound fs path
    rw [created] at sound
    generalize (Storage.ensure fs path).1 = made at sound
    cases sound with
    | made nothing vacant allowed => exact ⟨_, _, vacant, rfl⟩
  · rintro setup w r moves rfl rfl h
    refine ⟨fun launched => ?_, fun move hm own s customPath stored called => ?_⟩
    · cases ready : r.stage.isStored with
      | true => exact (Ensured.of_history h).isDir_iff ready
      | false => exact absurd (length_tasks_of_history h ready) (Nat.ne_of_gt launched)
    · exact stored_of_history h hm own called

/-- An activation at its start, in a world that holds only what is there in place of the storage
directory. -/
def storageRun (entries : List (Location × Entry)) : Run :=
  ⟨.starting, .fresh ⟨entries, [], []⟩ (.fresh .none (.ofString "/s") (.ofString "/"))⟩

/-- The steps up to the call of the first activator. -/
def untilCall : List Happening :=
  List.replicate 3 (.act .coordinator) ++ List.replicate 4 (.act (.task 0))

/-- Where nothing is there, the directory is made, and it is there when the activator is called. -/
theorem storage_is_dir_unless_file_new :
    ∃ moves r, Run.History serverOnly (storageRun []) moves r ∧
      r.world.fs.isDir (.ofString "/s") = true ∧
      .called .languageServer none true ∈ eventsOf moves := by
  obtain ⟨-, -, -, run⟩ :=
    storage_is_dir_unless_file (storageRun []).world.fs (storageRun []).world.context.storage
  have h : Run.History serverOnly (storageRun []) _ _ := .of_actions _ _ untilCall
  have other : ¬LeadsToFile (storageRun []).world.fs (storageRun []).world.context.storage := by
    rintro ⟨location, entry, there, -⟩
    cases there
  obtain ⟨dir, calls⟩ := run _ _ _ _ rfl rfl h
  obtain ⟨move, stored, hm, own, called⟩ : ∃ move stored,
      move ∈ movesOf (Run.happen? serverOnly) (storageRun []) untilCall ∧
        isOwn 0 move = true ∧ .called .languageServer none stored ∈ move.events :=
    ⟨_, _, List.mem_of_getElem? (show _[6]? = some _ from rfl), rfl, List.mem_singleton_self _⟩
  have found : stored = true := (calls move hm own _ _ _ called).mpr other
  refine ⟨_, _, h, (dir (Nat.zero_lt_one)).mpr other, ?_⟩
  rw [← found]
  exact List.mem_flatMap.mpr ⟨move, hm, called⟩

/-- A regular file in place of the storage directory. -/
def fileForStorage : List (Location × Entry) := [([Bytes.ofString "s"], .file [] 0o644)]

/-- **A file is taken for the storage directory**, and the activator is called where there is none.
-/
theorem file_taken_for_storage :
    Storage.ensure ⟨fileForStorage, [], []⟩ (.ofString "/s") =
        (⟨fileForStorage, [], []⟩, .ok .existing) ∧
      FileSystem.isDir ⟨fileForStorage, [], []⟩ (.ofString "/s") = false ∧
      ∃ moves r, Run.History serverOnly (storageRun fileForStorage) moves r ∧
        .called .languageServer none false ∈ eventsOf moves := by
  refine ⟨by rfl, by rfl, _, _, .of_actions _ _ untilCall, ?_⟩
  exact List.mem_of_getElem? (show _[5]? = some _ from rfl)

end Activation

end ToolingHost
