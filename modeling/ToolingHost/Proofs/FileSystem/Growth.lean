import ToolingHost.FileSystem.Operations
import ToolingHost.Proofs.FileSystem.Places

/-! # File systems that grow

Where a path leads depends on the directories, files and links on its way, never on what is in the
files: with every file emptied it leads to the same place (`stat?_blank`). So when a file system
gains entries at vacant places and its files get longer, and nothing else changes (`Grows`), a path
that leads somewhere goes on leading there (`Grows.stat?`), and one that leads nowhere comes to lead
somewhere only by a new entry on its way (`Grows.stat?_error`). -/

namespace ToolingHost

/-- An entry without the content of a file. -/
def Entry.blank : Entry → Entry
  | .file _ mode => .file [] mode
  | entry => entry

namespace FileSystem

variable {fs fs' : FileSystem} {path : FilePath} {location : Location} {names : List Bytes}

/-! ## Emptied files -/

/-- The end of a walk without the content of a file. -/
def Walk.blank : Walk → Walk
  | .file location _ mode => .file location [] mode
  | result => result

/-- The file system with every file emptied. -/
def blank (fs : FileSystem) : FileSystem :=
  { fs with entries := fs.entries.map fun e => (e.1, e.2.blank) }

/-- Blanking a file system leaves every entry where it is. -/
@[simp] theorem lookup_blank (fs : FileSystem) (location : Location) :
    fs.blank.lookup location = (fs.lookup location).map Entry.blank := by
  have emptied : ∀ entries : List (Location × Entry),
      (entries.map fun e => (e.1, e.2.blank)).lookup location =
        (entries.lookup location).map Entry.blank := by
    intro entries
    induction entries with
    | nil => rfl
    | cons e rest ih =>
        rw [List.map_cons, List.lookup_cons, List.lookup_cons, ih]
        cases location == e.1 <;> rfl
  unfold lookup
  split
  · rfl
  · exact emptied fs.entries

/-- Blanking a file system leaves the rights as they are. -/
@[simp] theorem denies_blank (fs : FileSystem) (right : Right) (location : Location) :
    fs.blank.denies right location = fs.denies right location := rfl

/-- A walk takes the same way with every file emptied. -/
theorem walk_blank (followLast : Bool) :
    walk fs.blank followLast location names = (walk fs followLast location names).blank := by
  induction names generalizing location with
  | nil => rfl
  | cons name rest ih =>
      -- a walk looks at rights and at the kinds of entries, never at what is in a file
      rw [walk, walk, denies_blank]
      split
      · exact ih
      split
      · rfl
      split
      · exact ih
      split
      · exact ih
      split
      · rfl
      dsimp only
      rw [lookup_blank]
      cases fs.lookup (location ++ [name]) with
      | none => cases rest <;> rfl
      | some entry =>
          cases entry with
          | dir => exact ih
          | file | special => cases rest <;> rfl
          | link target => cases rest <;> cases followLast <;> rfl

/-- A walk asks the same with every file emptied. -/
theorem walkQuestions_blank :
    walkQuestions fs.blank location names = walkQuestions fs location names := by
  induction names generalizing location with
  | nil => rfl
  | cons name rest ih =>
      rw [walkQuestions, walkQuestions, denies_blank, ih, ih]
      dsimp only
      rw [lookup_blank, ih]
      cases fs.lookup (location ++ [name]) with
      | none => rfl
      | some entry => cases entry <;> rfl

/-- A walk through links takes the same way. -/
theorem follow_blank {links : Nat} (followLast : Bool) :
    follow fs.blank followLast links location names =
      (follow fs followLast links location names).blank := by
  induction links generalizing location names with
  | zero =>
      rw [follow, follow, walk_blank]
      cases walk fs followLast location names <;> rfl
  | succ links ih =>
      rw [follow, follow, walk_blank]
      cases walk fs followLast location names with
      | link => exact ih
      | dir | file | special | missing | unfollowed | failed => rfl

/-- A walk through links asks the same with every file emptied. -/
theorem followQuestions_blank {links : Nat} :
    followQuestions fs.blank links location names = followQuestions fs links location names := by
  induction links generalizing location names with
  | zero => exact walkQuestions_blank
  | succ links ih =>
      rw [followQuestions, followQuestions, walk_blank, walkQuestions_blank]
      cases walk fs true location names with
      | link =>
          dsimp only [Walk.blank]
          rw [ih]
      | dir | file | special | missing | unfollowed | failed => rfl

/-- **Resolving a path asks the same** with every file emptied. -/
theorem questions_blank (fs : FileSystem) (path : FilePath) :
    fs.blank.questions path = fs.questions path := by
  unfold questions
  rw [followQuestions_blank]
  rfl

/-- A path leads past the same places with every file emptied. -/
theorem places_blank (fs : FileSystem) (path : FilePath) :
    fs.blank.places path = fs.places path := by
  rw [places, questions_blank, places]

/-- What a path leads to, without the content of a file. -/
def blankStat? (fs : FileSystem) (path : FilePath) : Except IoError (Location × Entry) :=
  (fs.stat? path).map fun found => (found.1, found.2.blank)

/-- **A path leads to the same place** with every file emptied. -/
theorem stat?_blank (fs : FileSystem) (path : FilePath) :
    fs.blank.stat? path = fs.blankStat? path := by
  have resolved : fs.blank.resolve path = (fs.resolve path).blank := by
    unfold resolve
    rw [follow_blank]
    cases refusal? path <;> rfl
  unfold blankStat? stat?
  rw [resolved]
  cases fs.resolve path <;> rfl

/-- What is in files elsewhere or on the way cannot be seen through a path. -/
theorem blankStat?_congr (here : fs'.workingDir = fs.workingDir) (rights : fs'.denied = fs.denied)
    (same : ∀ place ∈ fs.places path,
      (fs'.lookup place).map Entry.blank = (fs.lookup place).map Entry.blank) :
    fs'.blankStat? path = fs.blankStat? path := by
  have agree : Agree fs.blank fs'.blank path := by
    refine ⟨here, ?_, fun dir _ => ?_⟩
    · rw [places_blank]
      simpa using same
    · rw [denies_blank, denies_blank, denies, rights, denies]
  rw [← stat?_blank, ← stat?_blank, agree.stat?]

/-! ## Ways that lead somewhere -/

/-- A walk that does not come to a vacant place, or fail in another way. -/
def Walk.Arrives : Walk → Prop
  | .missing .. | .failed _ => False
  | _ => True

/-- A place that is asked for is not vacant. -/
def Occupied (fs : FileSystem) : Question → Prop
  | .entry place => (fs.lookup place).isSome
  | .search _ => True

/-- A walk that arrives asks for no vacant place. -/
theorem occupied_of_walk (followLast : Bool)
    (arrives : (walk fs followLast location names).Arrives) :
    ∀ question ∈ walkQuestions fs location names, fs.Occupied question := by
  induction names generalizing location with
  | nil => simp [walkQuestions]
  | cons name rest ih =>
      rw [walk] at arrives
      rw [walkQuestions]
      by_cases atEnd : name = endName
      · rw [if_pos atEnd] at arrives ⊢
        exact ih arrives
      rw [if_neg atEnd] at arrives ⊢
      refine List.forall_mem_cons.mpr ⟨trivial, ?_⟩
      by_cases closed : fs.denies .execute location = true
      · simp [closed]
      rw [if_neg closed] at arrives ⊢
      by_cases here : name = hereName
      · rw [if_pos here] at arrives ⊢
        exact ih arrives
      rw [if_neg here] at arrives ⊢
      by_cases above : name = aboveName
      · rw [if_pos above] at arrives ⊢
        exact ih arrives
      rw [if_neg above] at arrives ⊢
      by_cases long : maxName < name.length
      · simp [long]
      rw [if_neg long] at arrives ⊢
      dsimp only at arrives ⊢
      -- a vacant place would have been the end of the walk
      cases found : fs.lookup (location ++ [name]) with
      | none =>
          rw [found] at arrives
          cases rest <;> cases arrives
      | some entry =>
          rw [found] at arrives
          refine List.forall_mem_cons.mpr ⟨by simp [Occupied, found], ?_⟩
          cases entry with
          | dir => exact ih arrives
          | file | special | link => simp

/-- A walk through links that arrives asks for no vacant place. -/
theorem occupied_of_follow {links : Nat}
    (arrives : (follow fs true links location names).Arrives) :
    ∀ question ∈ followQuestions fs links location names, fs.Occupied question := by
  induction links generalizing location names with
  | zero =>
      rw [follow] at arrives
      refine occupied_of_walk true ?_
      split at arrives
      · cases arrives
      · exact arrives
  | succ links ih =>
      rw [follow] at arrives
      rw [followQuestions]
      cases walked : walk fs true location names with
      | link parent target rest =>
          rw [walked] at arrives
          refine List.forall_mem_append.mpr ⟨occupied_of_walk true ?_, ih arrives⟩
          rw [walked]
          exact trivial
      | dir | file | special | missing | unfollowed | failed =>
          rw [walked] at arrives
          rw [List.append_nil]
          refine occupied_of_walk true ?_
          rwa [walked]

/-- **No place is vacant on the way of a path that leads somewhere.** -/
theorem isSome_of_stat? {found : Location × Entry} (leads : fs.stat? path = .ok found) :
    ∀ place ∈ fs.places path, (fs.lookup place).isSome := by
  have arrives : (fs.resolve path).Arrives := by
    unfold stat? at leads
    cases resolved : fs.resolve path with
    | dir | file | special | unfollowed | link => exact trivial
    | missing | failed =>
        rw [resolved] at leads
        cases leads
  have occupied : ∀ question ∈ fs.questions path, fs.Occupied question := by
    unfold resolve at arrives
    unfold questions
    cases refused : refusal? path with
    | some cause => simp
    | none =>
        rw [refused] at arrives
        exact occupied_of_follow arrives
  exact fun place on => occupied _ (mem_places.mp on)

end FileSystem

/-! ## Growth -/

/-- What an entry may become: a file may get longer at its end. -/
inductive Entry.Extends : Entry → Entry → Prop where
  /-- Nothing has changed. -/
  | same (entry : Entry) : Extends entry entry
  /-- A file has more content. -/
  | longer (content more : Bytes) (mode : Nat) :
    Extends (.file content mode) (.file (content ++ more) mode)

namespace Entry.Extends

variable {first second third : Entry}

/-- What becomes of it later is what may become of it. -/
theorem trans (h : Extends first second) (h' : Extends second third) : Extends first third := by
  cases h with
  | same => exact h'
  | longer content more mode =>
      cases h' with
      | same => exact .longer content more mode
      | longer _ more' mode =>
          rw [List.append_assoc]
          exact .longer content (more ++ more') mode

/-- Without the content of files nothing has changed. -/
theorem blank_eq (h : Extends first second) : second.blank = first.blank := by
  cases h <;> rfl

end Entry.Extends

namespace FileSystem

/-- A file system keeps its entries, of which files may get longer. -/
structure Grows (fs fs' : FileSystem) : Prop where
  /-- Relative paths start at the same location. -/
  here : fs'.workingDir = fs.workingDir
  /-- The process has the rights that it had. -/
  rights : fs'.denied = fs.denied
  /-- An entry is still there. -/
  keeps : ∀ location entry, fs.lookup location = some entry →
    ∃ entry', fs'.lookup location = some entry' ∧ entry.Extends entry'

namespace Grows

variable {fs fs' fs'' : FileSystem} {path : FilePath} {location : Location} {entry : Entry}

/-- Where nothing changes, everything is kept. -/
theorem refl (fs : FileSystem) : Grows fs fs :=
  ⟨rfl, rfl, fun _ entry there => ⟨entry, there, .same _⟩⟩

/-- What is kept twice is kept. -/
theorem trans (h : Grows fs fs') (h' : Grows fs' fs'') : Grows fs fs'' := by
  refine ⟨h'.here.trans h.here, h'.rights.trans h.rights, fun location entry there => ?_⟩
  obtain ⟨entry', there', extends_⟩ := h.keeps location entry there
  obtain ⟨entry'', there'', extends'⟩ := h'.keeps location entry' there'
  exact ⟨entry'', there'', extends_.trans extends'⟩

/-- Everything is kept when something is put at a vacant place. -/
theorem put (vacant : fs.lookup location = none) (entry : Entry) :
    Grows fs (fs.put location entry) := by
  refine ⟨rfl, rfl, fun place other there => ⟨other, ?_, .same other⟩⟩
  rw [lookup_put_of_ne _ _ ?_, there]
  rintro rfl
  rw [vacant] at there
  cases there

/-- Everything is kept when something is appended to a file. -/
theorem append (fs : FileSystem) (location : Location) (bytes : Bytes) :
    Grows fs (fs.append location bytes) := by
  unfold FileSystem.append
  split
  next content mode file =>
    have some_ : location ≠ [] := by
      rintro rfl
      cases file
    -- the file itself is longer; whatever is elsewhere is the same
    refine ⟨rfl, rfl, fun place other there => ?_⟩
    by_cases spot : place = location
    · rw [spot] at there ⊢
      obtain rfl : other = .file content mode := Option.some.inj (there.symm.trans file)
      exact ⟨_, lookup_put_self _ _ _ some_, .longer ..⟩
    · exact ⟨other, by rwa [lookup_put_of_ne _ _ spot], .same other⟩
  next => exact refl fs

/-- At a place that was not vacant, all but the content of a file is as it was. -/
theorem blank_lookup (grows : Grows fs fs') (there : (fs.lookup location).isSome) :
    (fs'.lookup location).map Entry.blank = (fs.lookup location).map Entry.blank := by
  obtain ⟨entry, found⟩ := Option.isSome_iff_exists.mp there
  obtain ⟨entry', found', extends_⟩ := grows.keeps location entry found
  rw [found, found', Option.map_some, Option.map_some, extends_.blank_eq]

/-- **A path that leads somewhere goes on leading there.** -/
theorem stat? (grows : Grows fs fs') (leads : fs.stat? path = .ok (location, entry)) :
    ∃ entry', fs'.stat? path = .ok (location, entry') ∧ entry'.blank = entry.blank := by
  have same : fs'.blankStat? path = fs.blankStat? path :=
    blankStat?_congr grows.here grows.rights fun place on =>
      grows.blank_lookup (isSome_of_stat? leads place on)
  unfold blankStat? at same
  rw [leads] at same
  cases found : fs'.stat? path with
  | error cause =>
      rw [found] at same
      cases same
  | ok found' =>
      rw [found] at same
      obtain ⟨rfl, alike⟩ := Prod.mk.inj (Except.ok.inj same)
      exact ⟨found'.2, rfl, alike⟩

/-- **A path comes to lead somewhere only by a new entry on its way.** -/
theorem stat?_error (grows : Grows fs fs') {cause : IoError}
    (astray : fs.stat? path = .error cause) :
    fs'.stat? path = .error cause ∨
      ∃ place ∈ fs.places path, fs.lookup place = none ∧ fs'.lookup place ≠ none := by
  by_cases new : ∃ place ∈ fs.places path, fs.lookup place = none ∧ fs'.lookup place ≠ none
  · exact .inr new
  · left
    -- every place on the way is vacant as before, or has what it had, but for the content of a file
    have same : fs'.blankStat? path = fs.blankStat? path := by
      refine blankStat?_congr grows.here grows.rights fun place on => ?_
      cases before : fs.lookup place with
      | some entry =>
          rw [← before]
          exact grows.blank_lookup (by simp [before])
      | none =>
          cases after : fs'.lookup place with
          | none => rfl
          | some entry => exact absurd ⟨place, on, before, by simp [after]⟩ new
    unfold blankStat? at same
    rw [astray] at same
    cases found : fs'.stat? path with
    | error cause' =>
        rw [found] at same
        cases same
        rfl
    | ok found' =>
        rw [found] at same
        cases same

end Grows

end FileSystem

end ToolingHost
