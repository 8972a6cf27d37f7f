import ToolingHost.Config.Load
import ToolingHost.Proofs.FileSystem
import ToolingHost.Proofs.Text.Encoding

/-! # What loading the settings comes to

Loading looks at one path, reads what is there as text, and reads the text as a configuration.
`Loads` lists what this may come to, and there is nothing else (`loads_iff`). What is there and
cannot be read, for whatever reason, is an error that names the path. But a path that cannot be
looked at counts as one where nothing is, whatever the reason (`loaded_unless_unseen`), so the
settings are passed over without a word where a loop of links is in the way or a directory that may
not be searched (`unseen_taken_for_absent`). -/

namespace ToolingHost.Config

variable {fs : FileSystem} {path : FilePath} {outcome : Except LoadError (Option Settings)}

/-- What loading the settings from a path may come to. -/
inductive Loads (fs : FileSystem) (path : FilePath) :
    Except LoadError (Option Settings) → Prop where
  /-- The path cannot be looked at, or nothing is there. -/
  | unseen {cause : IoError} (unseen : fs.stat? path = .error cause) : Loads fs path (.ok none)
  /-- What is there may not be read. -/
  | forbidden {place : Location} {entry : Entry} (leads : fs.stat? path = .ok (place, entry))
      (denied : fs.denies .read place = true) :
      Loads fs path (.error (.read path .permissionDenied))
  /-- A directory is there. -/
  | directory {place : Location} (leads : fs.stat? path = .ok (place, .dir))
      (allowed : fs.denies .read place = false) :
      Loads fs path (.error (.read path .isADirectory))
  /-- A special file is there that cannot be opened. -/
  | noDevice {place : Location} (leads : fs.stat? path = .ok (place, .special none))
      (allowed : fs.denies .read place = false) : Loads fs path (.error (.read path .noDevice))
  /-- What is read is no text. -/
  | notText {content : Bytes} (reads : fs.read? path = .ok content)
      (stray : ∀ text, Bytes.ofString text ≠ content) :
      Loads fs path (.error (.read path .notText))
  /-- A text is read that is no configuration. -/
  | invalid {text : String} (reads : fs.read? path = .ok (Bytes.ofString text))
      (invalid : parse? text = none) : Loads fs path (.error (.parse path))
  /-- A configuration is read. -/
  | loaded {text : String} {settings : Settings}
      (reads : fs.read? path = .ok (Bytes.ofString text)) (valid : parse? text = some settings) :
      Loads fs path (.ok (some settings))

/-- Where a path cannot be looked at, there are no settings. -/
theorem loadFrom_of_unseen {cause : IoError} (unseen : fs.stat? path = .error cause) :
    loadFrom fs path = .ok none := by
  rw [loadFrom, FileSystem.reaches, unseen]
  rfl

/-- What is there and cannot be read is an error that names the path and the cause. -/
theorem loadFrom_of_unread {found : Location × Entry} {cause : IoError}
    (leads : fs.stat? path = .ok found) (unread : fs.read? path = .error cause) :
    loadFrom fs path = .error (.read path cause) := by
  rw [loadFrom, FileSystem.reaches, leads, unread]
  rfl

/-- What is read is read as text, and the text as a configuration. -/
theorem loadFrom_of_read {content : Bytes} (reads : fs.read? path = .ok content) :
    loadFrom fs path =
      match Utf8.text? content with
      | none => .error (.read path .notText)
      | some text =>
        match parse? text with
        | none => .error (.parse path)
        | some settings => .ok (some settings) := by
  obtain ⟨found, leads⟩ : ∃ found, fs.stat? path = .ok found := by
    unfold FileSystem.read? at reads
    split at reads
    next => cases reads
    next leads => exact ⟨_, leads⟩
  rw [loadFrom, FileSystem.reaches, leads, reads]
  rfl

/-- What may be read at the end of a path is what the entry there holds. -/
theorem read?_of_allowed {place : Location} {entry : Entry}
    (leads : fs.stat? path = .ok (place, entry)) (allowed : fs.denies .read place = false) :
    fs.read? path = FileSystem.contentOf? entry := by
  rw [FileSystem.read?, leads]
  dsimp only
  rw [if_neg (by simp [allowed])]

/-- What may not be read is not read. -/
theorem read?_of_denied {place : Location} {entry : Entry}
    (leads : fs.stat? path = .ok (place, entry)) (denied : fs.denies .read place = true) :
    fs.read? path = .error .permissionDenied := by
  rw [FileSystem.read?, leads]
  dsimp only
  rw [if_pos denied]

/-- What is read comes to one of the outcomes. -/
theorem loads_of_read {content : Bytes} (reads : fs.read? path = .ok content) :
    Loads fs path (loadFrom fs path) := by
  rw [loadFrom_of_read reads]
  split
  next unread => exact .notText reads (Utf8.text?_eq_none_iff.mp unread)
  next text read =>
    obtain rfl := Utf8.text?_eq_some_iff.mp read
    split
    next invalid => exact .invalid reads invalid
    next settings valid => exact .loaded reads valid

/-- Loading comes to one of the outcomes. -/
theorem loads_loadFrom (fs : FileSystem) (path : FilePath) : Loads fs path (loadFrom fs path) := by
  cases leads : fs.stat? path with
  | error cause =>
      rw [loadFrom_of_unseen leads]
      exact .unseen leads
  | ok found =>
      obtain ⟨place, entry⟩ := found
      cases denied : fs.denies .read place with
      | true =>
          rw [loadFrom_of_unread leads (read?_of_denied leads denied)]
          exact .forbidden leads denied
      | false =>
          have read := read?_of_allowed leads denied
          rcases FileSystem.stat?_cases leads with
            rfl | ⟨content, mode, rfl⟩ | ⟨_ | content, rfl⟩
          · rw [loadFrom_of_unread leads read]
            exact .directory leads denied
          · exact loads_of_read read
          · rw [loadFrom_of_unread leads read]
            exact .noDevice leads denied
          · exact loads_of_read read

/-- An outcome is what loading comes to. -/
theorem Loads.loadFrom_eq (loads : Loads fs path outcome) : loadFrom fs path = outcome := by
  cases loads with
  | unseen unseen => exact loadFrom_of_unseen unseen
  | forbidden leads denied => exact loadFrom_of_unread leads (read?_of_denied leads denied)
  | directory leads allowed | noDevice leads allowed =>
      exact loadFrom_of_unread leads (read?_of_allowed leads allowed)
  | notText reads stray =>
      have unread := Utf8.text?_eq_none_iff.mpr stray
      simp only [loadFrom_of_read reads, unread]
  | invalid reads invalid =>
      simp only [loadFrom_of_read reads, Utf8.text?_ofString, invalid]
  | loaded reads valid =>
      simp only [loadFrom_of_read reads, Utf8.text?_ofString, valid]

/-- **Loading comes to exactly one of the outcomes.** -/
theorem loads_iff : loadFrom fs path = outcome ↔ Loads fs path outcome := by
  constructor
  · rintro rfl
    exact loads_loadFrom fs path
  · exact Loads.loadFrom_eq

/-- There are no settings exactly if nothing is there or the path cannot be looked at. -/
theorem loadFrom_eq_none_iff_exists? : loadFrom fs path = .ok none ↔
    fs.exists? path = .ok false ∨ ∃ cause, fs.exists? path = .error cause := by
  rw [loadFrom_eq_none_iff, FileSystem.reaches, FileSystem.exists?]
  cases fs.stat? path with
  | ok found => simp [Except.toBool]
  | error cause => cases cause <;> simp [Except.toBool]

/-- **What is there is loaded or refused by name; what cannot be looked at is passed over.** Loading
comes to exactly what `Loads` says: what may not be read, a directory, a special file that cannot be
opened, what is no text and what is no configuration are errors that name the path. What is there
and cannot be read is an error with the path and the cause, whatever that is. There are no settings
where nothing is there, and also where it cannot be seen whether something is, and nowhere else. -/
theorem loaded_unless_unseen (fs : FileSystem) (path : FilePath) :
    (∀ outcome, loadFrom fs path = outcome ↔ Loads fs path outcome) ∧
      (loadFrom fs path = .ok none ↔
        fs.exists? path = .ok false ∨ ∃ cause, fs.exists? path = .error cause) ∧
      (∀ cause, fs.exists? path = .ok true → fs.read? path = .error cause →
        loadFrom fs path = .error (.read path cause)) ∧
      ∀ failure, loadFrom fs path = .error failure → failure.path = path := by
  refine ⟨fun outcome => loads_iff, loadFrom_eq_none_iff_exists?, ?_, ?_⟩
  · intro cause there unread
    rcases FileSystem.leads_of_exists? there with ⟨_, leads⟩ | ⟨_, _, _, leads⟩ | ⟨_, _, leads⟩ <;>
      exact loadFrom_of_unread leads unread
  · intro failure refused
    cases loads_iff.mp refused <;> rfl

/-- A file system in which a link leads to itself. -/
def looped : FileSystem := ⟨[([Bytes.ofString "c"], .link (Bytes.ofString "c"))], [], []⟩

/-- A file system with a file in a directory that may not be searched. -/
def hidden : FileSystem :=
  ⟨[([Bytes.ofString "d"], .dir), (["d", "c"].map Bytes.ofString, .file [] 0o644)], [],
    [([Bytes.ofString "d"], .execute)]⟩

/-- **Where a link leads to itself, there are no settings**, although looking fails for another
reason than that nothing is there. Nor are there any where a file is in a directory that may not be
searched. -/
theorem unseen_taken_for_absent :
    looped.stat? (.ofString "/c") = .error .linkLoop ∧
      loadFrom looped (.ofString "/c") = .ok none ∧
      hidden.stat? (.ofString "/d/c") = .error .permissionDenied ∧
      loadFrom hidden (.ofString "/d/c") = .ok none :=
  have looping : looped.stat? (.ofString "/c") = .error .linkLoop := by decide
  have closed : hidden.stat? (.ofString "/d/c") = .error .permissionDenied := by decide
  ⟨looping, Loads.loadFrom_eq (.unseen looping), closed, Loads.loadFrom_eq (.unseen closed)⟩

end ToolingHost.Config
