import ToolingHost.FileSystem.Operations

/-! # What a path leads past

Resolving a path asks a file system what is at some locations and whether names may be looked for in
some directories, one after the other, and goes on by the answers. `questions` lists what is asked.
File systems that answer alike, and have the same working directory, resolve the path alike
(`Agree.resolve`), whatever else is in them; so what was put elsewhere, taken away there or
forbidden there cannot be seen through the path. -/

namespace ToolingHost.FileSystem

/-- What resolving a path may ask. -/
inductive Question where
  /-- Whether names may be looked for in a directory. -/
  | search (dir : Location)
  /-- What is at a location. -/
  | entry (location : Location)
  deriving DecidableEq, Repr

/-- What a walk over names asks, in order. -/
def walkQuestions (fs : FileSystem) : Location → List Bytes → List Question
  | _, [] => []
  | location, name :: rest =>
    if name = endName then walkQuestions fs location rest
    else .search location ::
      if fs.denies .execute location then []
      else if name = hereName then walkQuestions fs location rest
      else if name = aboveName then walkQuestions fs location.dropLast rest
      else if maxName < name.length then []
      else
        let next := location ++ [name]
        .entry next :: if fs.lookup next = some .dir then walkQuestions fs next rest else []

/-- What a walk through at most `links` symbolic links asks. -/
def followQuestions (fs : FileSystem) : (links : Nat) → Location → List Bytes → List Question
  | 0, location, names => walkQuestions fs location names
  | links + 1, location, names =>
    walkQuestions fs location names ++
      match walk fs true location names with
      | .link parent target rest =>
        let steps := if rest.isEmpty then stepsOf target else namesOf target ++ rest
        followQuestions fs links (startOf target parent) steps
      | _ => []

/-- What resolving a path asks. -/
def questions (fs : FileSystem) (path : FilePath) : List Question :=
  match refusal? path with
  | some _ => []
  | none => followQuestions fs maxLinks (startOf path.bytes fs.workingDir) (stepsOf path.bytes)

/-- The locations that resolving a path looks at. -/
def places (fs : FileSystem) (path : FilePath) : List Location :=
  (fs.questions path).filterMap fun
    | .entry location => some location
    | .search _ => none

/-- The directories in which resolving a path looks for names. -/
def searched (fs : FileSystem) (path : FilePath) : List Location :=
  (fs.questions path).filterMap fun
    | .search dir => some dir
    | .entry _ => none

/-- Two file systems have the same on the way of a path in the first. -/
structure Agree (fs fs' : FileSystem) (path : FilePath) : Prop where
  /-- Relative paths start at the same location. -/
  here : fs'.workingDir = fs.workingDir
  /-- The places on the way hold the same. -/
  same : ∀ location ∈ fs.places path, fs'.lookup location = fs.lookup location
  /-- The directories on the way may be searched in both, or in none. -/
  open_ : ∀ dir ∈ fs.searched path, fs'.denies .execute dir = fs.denies .execute dir

variable {fs fs' : FileSystem} {path : FilePath} {location : Location} {names : List Bytes}

/-- A location is looked at if it is asked for. -/
theorem mem_places : location ∈ fs.places path ↔ .entry location ∈ fs.questions path := by
  unfold places
  rw [List.mem_filterMap]
  constructor
  · rintro ⟨question, asked, is⟩
    cases question with
    | entry => cases is; exact asked
    | search => cases is
  · exact fun asked => ⟨_, asked, rfl⟩

/-- A directory is searched if that is asked for. -/
theorem mem_searched : location ∈ fs.searched path ↔ .search location ∈ fs.questions path := by
  unfold searched
  rw [List.mem_filterMap]
  constructor
  · rintro ⟨question, asked, is⟩
    cases question with
    | search => cases is; exact asked
    | entry => cases is
  · exact fun asked => ⟨_, asked, rfl⟩

/-- Two file systems answer a question alike. -/
def Alike (fs fs' : FileSystem) : Question → Prop
  | .search dir => fs'.denies .execute dir = fs.denies .execute dir
  | .entry location => fs'.lookup location = fs.lookup location

/-- A walk depends on what it asks. -/
theorem walk_congr (alike : ∀ question ∈ walkQuestions fs location names, Alike fs fs' question)
    (followLast : Bool) :
    walk fs' followLast location names = walk fs followLast location names := by
  induction names generalizing location with
  | nil => rfl
  | cons name rest ih =>
      rw [walkQuestions] at alike
      rw [walk, walk]
      by_cases atEnd : name = endName
      · rw [if_pos atEnd] at alike ⊢
        rw [if_pos atEnd, ih alike]
      rw [if_neg atEnd] at alike ⊢
      rw [if_neg atEnd]
      -- whether the directory may be searched is asked first
      obtain ⟨closed, alike⟩ := List.forall_mem_cons.mp alike
      rw [show fs'.denies .execute location = fs.denies .execute location from closed]
      by_cases closed : fs.denies .execute location = true
      · rw [if_pos closed, if_pos closed]
      rw [if_neg closed] at alike ⊢
      rw [if_neg closed]
      by_cases here : name = hereName
      · rw [if_pos here] at alike ⊢
        rw [if_pos here, ih alike]
      rw [if_neg here] at alike ⊢
      rw [if_neg here]
      by_cases above : name = aboveName
      · rw [if_pos above] at alike ⊢
        rw [if_pos above, ih alike]
      rw [if_neg above] at alike ⊢
      rw [if_neg above]
      by_cases long : maxName < name.length
      · rw [if_pos long, if_pos long]
      rw [if_neg long] at alike ⊢
      rw [if_neg long]
      -- the walk looks at one place here, and goes on only if a directory is there
      obtain ⟨next, later⟩ := List.forall_mem_cons.mp alike
      dsimp only
      rw [show fs'.lookup (location ++ [name]) = fs.lookup (location ++ [name]) from next]
      cases found : fs.lookup (location ++ [name]) with
      | none => rfl
      | some entry =>
          cases entry with
          | dir => exact ih (by rwa [if_pos found] at later)
          | file | special | link => rfl

/-- A walk through links depends on what it asks. -/
theorem follow_congr {links : Nat}
    (alike : ∀ question ∈ followQuestions fs links location names, Alike fs fs' question) :
    follow fs' true links location names = follow fs true links location names := by
  induction links generalizing location names with
  | zero => rw [follow, follow, walk_congr alike]
  | succ links ih =>
      obtain ⟨here, later⟩ := List.forall_mem_append.mp alike
      rw [follow, follow, walk_congr here]
      cases walked : walk fs true location names with
      | link parent target rest =>
          rw [walked] at later
          exact ih later
      | dir | file | special | missing | unfollowed | failed => rfl

namespace Agree

/-- What is asked on the way is answered alike. -/
theorem alike (agree : Agree fs fs' path) :
    ∀ question ∈ fs.questions path, Alike fs fs' question := by
  intro question asked
  cases question with
  | search dir => exact agree.open_ dir (mem_searched.mpr asked)
  | entry location => exact agree.same location (mem_places.mpr asked)

/-- **A path is resolved alike** in file systems that agree on its way. -/
theorem resolve (agree : Agree fs fs' path) : fs'.resolve path = fs.resolve path := by
  have alike := agree.alike
  unfold FileSystem.resolve
  unfold questions at alike
  cases refused : refusal? path with
  | some cause => rfl
  | none =>
      rw [refused] at alike
      rw [agree.here]
      exact follow_congr alike

/-- A path leads to the same in file systems that agree on its way. -/
theorem stat? (agree : Agree fs fs' path) : fs'.stat? path = fs.stat? path := by
  rw [FileSystem.stat?, FileSystem.stat?, agree.resolve]

/-- Whether something is there is the same in file systems that agree on the way. -/
theorem exists? (agree : Agree fs fs' path) : fs'.exists? path = fs.exists? path := by
  rw [FileSystem.exists?, FileSystem.exists?, agree.stat?]

/-- What is put at a place off the way is not seen. -/
theorem of_put {spot : Location} (entry : Entry) (off : spot ∉ fs.places path) :
    Agree fs (fs.put spot entry) path where
  here := rfl
  same := fun _ on => lookup_put_of_ne fs entry fun same => off (same ▸ on)
  open_ := fun _ _ => rfl

end Agree

end ToolingHost.FileSystem
