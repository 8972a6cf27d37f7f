import ToolingHost.FileSystem.Operations

/-! # What was made is there

The path of a directory to be made is resolved in another way than the path of something that is
looked for: a link as its last name is not followed, and a separator at its end means nothing.
Still, what was made is what the path then leads to (`isDir_of_makeDir?`, and `stat?_of_resolve` for
a file): every place on the way had an entry before, so none of them is the new one, and the new one
is no link. What a path leads to is never a link (`stat?_cases`), so what is there is a directory, a
regular file or a special one (`leads_of_exists?`). -/

namespace ToolingHost.FileSystem

variable {fs : FileSystem} {location : Location} {names : List Bytes}

/-! ## One name -/

/-- In a directory that may not be searched, no name is looked for. -/
theorem walk_closed {name : Bytes} {rest : List Bytes} {followLast : Bool} (proper : name ≠ endName)
    (closed : fs.denies .execute location = true) :
    walk fs followLast location (name :: rest) = .failed .permissionDenied := by
  rw [walk, if_neg proper, if_pos closed]

/-- A walk looks for a name that is none of the special ones, in a directory that may be
searched. -/
theorem walk_of_name {name : Bytes} (rest : List Bytes) (followLast : Bool)
    (proper : name ≠ endName) (opened : ¬fs.denies .execute location = true)
    (other : name ≠ hereName) (other' : name ≠ aboveName) (short : ¬maxName < name.length) :
    walk fs followLast location (name :: rest) =
      match fs.lookup (location ++ [name]) with
      | none => if rest.isEmpty then .missing location name else .failed .notFound
      | some .dir => walk fs followLast (location ++ [name]) rest
      | some (.file content mode) =>
        if rest.isEmpty then .file (location ++ [name]) content mode else .failed .notADirectory
      | some (.special content) =>
        if rest.isEmpty then .special (location ++ [name]) content else .failed .notADirectory
      | some (.link target) =>
        if rest.isEmpty && !followLast then .unfollowed (location ++ [name]) target
        else .link location target rest := by
  rw [walk, if_neg proper, if_neg opened, if_neg other, if_neg other']
  exact if_neg short

/-- What a walk meets at a name, and what it comes to with the names behind that one. -/
inductive Meets (fs : FileSystem) (location : Location) (name : Bytes) : Prop where
  /-- A directory, from which it goes on. -/
  | dir (next : Location)
    (goesOn : ∀ followLast rest,
      walk fs followLast location (name :: rest) = walk fs followLast next rest)
  /-- A file, behind which there can be no name. -/
  | file (content : Bytes) (mode : Nat)
    (found : fs.lookup (location ++ [name]) = some (.file content mode))
    (stops : ∀ followLast rest, walk fs followLast location (name :: rest) =
      if rest.isEmpty then .file (location ++ [name]) content mode else .failed .notADirectory)
  /-- A special file, behind which there can be no name either. -/
  | special (content : Option Bytes)
    (found : fs.lookup (location ++ [name]) = some (.special content))
    (stops : ∀ followLast rest, walk fs followLast location (name :: rest) =
      if rest.isEmpty then .special (location ++ [name]) content else .failed .notADirectory)
  /-- A link, which is followed unless it is the last name and is not to be. -/
  | link (target : Bytes)
    (stops : ∀ followLast rest, walk fs followLast location (name :: rest) =
      if rest.isEmpty && !followLast then .unfollowed (location ++ [name]) target
      else .link location target rest)
  /-- A vacant place, behind which there can be no name. -/
  | vacant (unseen : fs.lookup (location ++ [name]) = none)
    (stops : ∀ followLast rest, walk fs followLast location (name :: rest) =
      if rest.isEmpty then .missing location name else .failed .notFound)
  /-- Nothing, as the name is too long, or as the process may not look for it. -/
  | refused (cause : IoError) (other : cause ≠ .notFound)
    (stops : ∀ followLast rest, walk fs followLast location (name :: rest) = .failed cause)

/-- A walk meets at every name one of the things that `Meets` lists. -/
theorem meets (fs : FileSystem) (location : Location) (name : Bytes) : Meets fs location name := by
  by_cases atEnd : name = endName
  · exact .dir location fun _ _ => by rw [walk, if_pos atEnd]
  by_cases closed : fs.denies .execute location = true
  · exact .refused .permissionDenied nofun fun _ _ => walk_closed atEnd closed
  by_cases here : name = hereName
  · exact .dir location fun _ _ => by rw [walk, if_neg atEnd, if_neg closed, if_pos here]
  by_cases above : name = aboveName
  · exact .dir location.dropLast fun _ _ => by
      rw [walk, if_neg atEnd, if_neg closed, if_neg here, if_pos above]
  by_cases long : maxName < name.length
  · exact .refused .nameTooLong nofun fun _ _ => by
      rw [walk, if_neg atEnd, if_neg closed, if_neg here, if_neg above, if_pos long]
  have looks (followLast : Bool) (rest : List Bytes) :=
    walk_of_name rest followLast atEnd closed here above long
  cases found : fs.lookup (location ++ [name]) with
  | none => exact .vacant found fun _ _ => by rw [looks, found]
  | some entry =>
      cases entry with
      | dir => exact .dir (location ++ [name]) fun _ _ => by rw [looks, found]
      | file content mode => exact .file content mode found fun _ _ => by rw [looks, found]
      | special content => exact .special content found fun _ _ => by rw [looks, found]
      | link target => exact .link target fun _ _ => by rw [looks, found]

/-! ## Looking for something -/

/-- A walk that follows the last name never ends at a link. -/
theorem walk_ne_unfollowed {place : Location} {target : Bytes} :
    walk fs true location names ≠ .unfollowed place target := by
  induction names generalizing location with
  | nil => simp [walk]
  | cons name rest ih =>
      cases meets fs location name with
      | dir next goesOn =>
          rw [goesOn]
          exact ih
      | file _ _ _ stops | special _ _ stops | link _ stops | vacant _ stops | refused _ _ stops =>
          rw [stops]
          cases rest <;> simp

/-- **A resolution ends as a walk does**, unless there are too many links. -/
theorem follow_eq_walk (fs : FileSystem) (followLast : Bool) (links : Nat) (location : Location)
    (names : List Bytes) :
    follow fs followLast links location names = .failed .linkLoop ∨
      ∃ location' names',
        follow fs followLast links location names = walk fs followLast location' names' := by
  induction links generalizing location names with
  | zero =>
      rw [follow]
      split
      · exact .inl rfl
      · exact .inr ⟨location, names, rfl⟩
  | succ links ih =>
      rw [follow]
      split
      · exact ih _ _
      · exact .inr ⟨location, names, rfl⟩

/-- A walk that comes to no link is all of a resolution. -/
theorem follow_of_walk {followLast : Bool} {result : Walk}
    (ended : walk fs followLast location names = result)
    (unlinked : ∀ parent target rest, result ≠ .link parent target rest) (links : Nat) :
    follow fs followLast links location names = result := by
  cases links with
  | zero | succ =>
      rw [follow, ended]
      cases result with
      | link parent target rest => exact absurd rfl (unlinked parent target rest)
      | dir | file | special | missing | unfollowed | failed => rfl

/-- A resolution that follows the last name never ends at a link. -/
theorem follow_ne_unfollowed {links : Nat} {place : Location} {target : Bytes} :
    follow fs true links location names ≠ .unfollowed place target := by
  rcases follow_eq_walk fs true links location names with looped | ⟨location', names', walked⟩
  · simp [looped]
  · rw [walked]
    exact walk_ne_unfollowed

/-- **What a path leads to** is a directory, a regular file or a special one. -/
theorem stat?_cases {path : FilePath} {place : Location} {entry : Entry}
    (there : fs.stat? path = .ok (place, entry)) :
    entry = .dir ∨ (∃ content mode, entry = .file content mode) ∨
      ∃ content, entry = .special content := by
  unfold stat? at there
  split at there
  next => cases there; exact .inl rfl
  next => cases there; exact .inr (.inl ⟨_, _, rfl⟩)
  next => cases there; exact .inr (.inr ⟨_, rfl⟩)
  next => cases there
  next unfollowed =>
    unfold resolve at unfollowed
    split at unfollowed
    · cases unfollowed
    · exact absurd unfollowed follow_ne_unfollowed
  next => cases there
  next => cases there

/-- A file at which a walk ends is where the walk says. -/
def Walk.Held (fs : FileSystem) : Walk → Prop
  | .file location content mode => fs.lookup location = some (.file content mode)
  | .special location content => fs.lookup location = some (.special content)
  | _ => True

/-- A walk that ends at a file has found it there. -/
theorem held_walk (followLast : Bool) : (walk fs followLast location names).Held fs := by
  induction names generalizing location with
  | nil => exact trivial
  | cons name rest ih =>
      cases meets fs location name with
      | dir next goesOn =>
          rw [goesOn]
          exact ih
      | file _ _ found stops | special _ found stops =>
          rw [stops]
          split
          · exact found
          · exact trivial
      | link _ stops | vacant _ stops =>
          rw [stops]
          split <;> exact trivial
      | refused _ _ stops =>
          rw [stops]
          exact trivial

/-- A resolution that ends at a file has found it there. -/
theorem held_follow {links : Nat} {followLast : Bool} :
    (follow fs followLast links location names).Held fs := by
  rcases follow_eq_walk fs followLast links location names with
    looped | ⟨location', names', walked⟩
  · rw [looped]
    exact trivial
  · rw [walked]
    exact held_walk followLast

/-- A file that a path leads to is at its place. -/
theorem lookup_of_stat? {path : FilePath} {place : Location} {entry : Entry}
    (leads : fs.stat? path = .ok (place, entry)) (other : entry ≠ .dir) :
    fs.lookup place = some entry := by
  have held : (fs.resolve path).Held fs := by
    unfold resolve
    split
    · exact trivial
    · exact held_follow
  rcases stat?_cases leads with rfl | ⟨content, mode, rfl⟩ | ⟨content, rfl⟩
  · exact absurd rfl other
  all_goals
    unfold stat? at leads
    split at leads <;> cases leads
    next resolved =>
      rw [resolved] at held
      exact held

/-- What a path leads to is there. -/
theorem exists?_of_stat? {path : FilePath} {found : Location × Entry}
    (leads : fs.stat? path = .ok found) : fs.exists? path = .ok true := by
  rw [exists?, leads]

/-- **What is there** is a directory, a regular file or a special one. -/
theorem leads_of_exists? {path : FilePath} (there : fs.exists? path = .ok true) :
    (∃ place, fs.stat? path = .ok (place, .dir)) ∨
      (∃ place content mode, fs.stat? path = .ok (place, .file content mode)) ∨
      ∃ place content, fs.stat? path = .ok (place, .special content) := by
  unfold exists? at there
  cases leads : fs.stat? path with
  | error cause =>
      rw [leads] at there
      cases cause <;> cases there
  | ok found =>
      obtain ⟨place, entry⟩ := found
      rcases stat?_cases leads with rfl | ⟨content, mode, rfl⟩ | ⟨content, rfl⟩
      · exact .inl ⟨place, rfl⟩
      · exact .inr (.inl ⟨place, content, mode, rfl⟩)
      · exact .inr (.inr ⟨place, content, rfl⟩)

/-- A path to a directory leads to the place of it. -/
theorem stat?_of_isDir {path : FilePath} (dir : fs.isDir path = true) :
    ∃ place, fs.stat? path = .ok (place, .dir) := by
  unfold isDir at dir
  split at dir
  next place leads => exact ⟨place, leads⟩
  next => cases dir

/-! ## Making an entry -/

/-- A walk stays where it is at separators at the end. -/
theorem walk_ends {followLast : Bool} (same : ∀ name ∈ names, name = endName) :
    walk fs followLast location names = .dir location := by
  induction names with
  | nil => rfl
  | cons name rest ih =>
      rw [List.forall_mem_cons] at same
      rw [walk, if_pos same.1, ih same.2]

/-- Where a walk ends that comes to an entry. -/
def Walk.found (location : Location) : Entry → Walk
  | .dir => .dir location
  | .file content mode => .file location content mode
  | .special content => .special location content
  | .link target => .unfollowed location target

/-- Names that may follow the name of an entry: behind a directory there may be a separator. -/
inductive Closes : Entry → List Bytes → Prop where
  /-- Behind a directory. -/
  | dir {extra : List Bytes} (same : ∀ name ∈ extra, name = endName) : Closes .dir extra
  /-- Behind a file. -/
  | file (content : Bytes) (mode : Nat) : Closes (.file content mode) []

/-- With an entry at a vacant place, a walk that came to that place comes to the entry, and one that
came to a link comes to it still. -/
theorem walk_put (location : Location) (names : List Bytes) {spot : Location}
    (vacant : fs.lookup spot = none) (followLast : Bool) {entry : Entry} {extra : List Bytes}
    (closes : Closes entry extra) :
    (∀ parent name, walk fs followLast location names = .missing parent name →
      parent ++ [name] = spot →
      walk (fs.put spot entry) true location (names ++ extra) = .found spot entry) ∧
    ∀ parent target rest, walk fs followLast location names = .link parent target rest →
      (followLast = false → rest ≠ []) ∧
      walk (fs.put spot entry) true location (names ++ extra) =
        .link parent target (rest ++ extra) := by
  induction names generalizing location with
  | nil => simp [walk]
  | cons name rest ih =>
      rw [List.cons_append, walk, walk]
      rw [denies_put]
      by_cases atEnd : name = endName
      · simp only [if_pos atEnd]
        exact ih _
      by_cases closed : fs.denies .execute location = true
      · simp [atEnd, closed]
      by_cases here : name = hereName
      · simp only [if_neg atEnd, if_neg closed, if_pos here]
        exact ih _
      by_cases above : name = aboveName
      · simp only [if_neg atEnd, if_neg closed, if_neg here, if_pos above]
        exact ih _
      by_cases long : maxName < name.length
      · simp [atEnd, closed, here, above, long]
      simp only [if_neg atEnd, if_neg closed, if_neg here, if_neg above, if_neg long]
      cases found : fs.lookup (location ++ [name]) with
      | none =>
          cases rest with
          | nil =>
              refine ⟨?_, by simp⟩
              intro parent name' missing place
              cases missing
              rw [place, lookup_put_self _ _ _ (by simp [← place])]
              cases closes with
              | dir same => exact walk_ends same
              | file content mode => rfl
          | cons next rest => simp
      | some other =>
          -- the place has an entry, so it is not the vacant one
          have elsewhere : location ++ [name] ≠ spot := by
            intro place
            rw [place, vacant] at found
            cases found
          rw [lookup_put_of_ne _ _ elsewhere, found]
          cases other with
          | dir => exact ih _
          | file | special => cases rest <;> simp
          | link target => cases rest <;> cases followLast <;> simp

/-- A place where the last name of a path is missing is vacant. -/
theorem lookup_of_walk {followLast : Bool} {parent : Location} {name : Bytes}
    (missing : walk fs followLast location names = .missing parent name) :
    fs.lookup (parent ++ [name]) = none := by
  induction names generalizing location with
  | nil => cases missing
  | cons first rest ih =>
      cases meets fs location first with
      | dir next goesOn =>
          rw [goesOn] at missing
          exact ih missing
      | vacant unseen stops =>
          rw [stops] at missing
          split at missing
          · cases missing
            exact unseen
          · cases missing
      | file _ _ _ stops | special _ _ stops | link _ stops =>
          rw [stops] at missing
          split at missing <;> cases missing
      | refused _ _ stops =>
          rw [stops] at missing
          cases missing

/-- A place where the last name of a path is missing is vacant, also behind links. -/
theorem lookup_of_follow {followLast : Bool} {links : Nat} {parent : Location} {name : Bytes}
    (missing : follow fs followLast links location names = .missing parent name) :
    fs.lookup (parent ++ [name]) = none := by
  rcases follow_eq_walk fs followLast links location names with
    looped | ⟨location', names', walked⟩
  · rw [looped] at missing
    cases missing
  · exact lookup_of_walk (walked.symm.trans missing)

/-- With an entry at a vacant place, a resolution that came to that place comes to the entry. -/
theorem follow_put {followLast : Bool} {links : Nat} {parent : Location} {name : Bytes}
    (missing : follow fs followLast links location names = .missing parent name) {entry : Entry}
    {extra : List Bytes} (closes : Closes entry extra) (last : followLast = true → extra = []) :
    follow (fs.put (parent ++ [name]) entry) true links location (names ++ extra) =
      .found (parent ++ [name]) entry := by
  have vacant := lookup_of_follow missing
  have unlinked : ∀ above target rest, (Walk.found (parent ++ [name]) entry) ≠
      .link above target rest := by
    cases closes <;> simp [Walk.found]
  -- the last walk comes to the entry; the walks before it end at links, and go on as they did
  induction links generalizing location names with
  | zero =>
      obtain ⟨arrives, -⟩ := walk_put location names vacant followLast closes
      rw [follow] at missing
      split at missing
      · cases missing
      · exact follow_of_walk (arrives _ _ missing rfl) unlinked _
  | succ links ih =>
      obtain ⟨arrives, goesOn⟩ := walk_put location names vacant followLast closes
      rw [follow] at missing
      split at missing
      next above target rest linked =>
        obtain ⟨more, still⟩ := goesOn _ _ _ linked
        rw [follow, still]
        dsimp only
        cases followLast with
        | true =>
            obtain rfl := last rfl
            have goal := ih missing
            rwa [List.append_nil] at goal ⊢
        | false =>
            have longer : rest ++ extra ≠ [] := by simp [more rfl]
            rw [if_neg (by simpa using more rfl)] at missing
            rw [if_neg (by simpa using longer), ← List.append_assoc]
            exact ih missing
      · exact follow_of_walk (arrives _ _ missing rfl) unlinked _

/-- The place of a directory that can be made is vacant. -/
theorem lookup_of_resolveNew {path : FilePath} {parent : Location} {name : Bytes}
    (missing : fs.resolveNew path = .missing parent name) :
    fs.lookup (parent ++ [name]) = none := by
  unfold resolveNew at missing
  split at missing
  · cases missing
  · exact lookup_of_follow missing

/-- The place of a missing file is vacant. -/
theorem lookup_of_resolve {path : FilePath} {parent : Location} {name : Bytes}
    (missing : fs.resolve path = .missing parent name) : fs.lookup (parent ++ [name]) = none := by
  unfold resolve at missing
  split at missing
  · cases missing
  · exact lookup_of_follow missing

/-- The path of a directory that can be made leads to it when it is made. -/
theorem stat?_of_resolveNew {path : FilePath} {parent : Location} {name : Bytes}
    (missing : fs.resolveNew path = .missing parent name) :
    (fs.put (parent ++ [name]) .dir).stat? path = .ok (parent ++ [name], .dir) := by
  unfold resolveNew at missing
  cases refused : refusal? path with
  | some cause =>
      rw [refused] at missing
      cases missing
  | none =>
      rw [refused] at missing
      have same : ∀ name ∈ (if endsInSeparator path.bytes then [endName] else []),
          name = endName := by
        split <;> simp
      have arrives := follow_put missing (.dir same) nofun
      unfold stat? resolve
      rw [refused]
      dsimp only
      rw [stepsOf, show (fs.put (parent ++ [name]) .dir).workingDir = fs.workingDir from rfl,
        arrives]
      rfl

/-- The path of a file that is missing leads to it when it is made. -/
theorem stat?_of_resolve {path : FilePath} {parent : Location} {name : Bytes}
    (missing : fs.resolve path = .missing parent name) (content : Bytes) (mode : Nat) :
    (fs.put (parent ++ [name]) (.file content mode)).stat? path =
      .ok (parent ++ [name], .file content mode) := by
  unfold resolve at missing
  cases refused : refusal? path with
  | some cause =>
      rw [refused] at missing
      cases missing
  | none =>
      rw [refused] at missing
      have arrives := follow_put missing (.file content mode) fun _ => rfl
      rw [List.append_nil] at arrives
      unfold stat? resolve
      rw [refused]
      dsimp only
      rw [show (fs.put (parent ++ [name]) (.file content mode)).workingDir = fs.workingDir from rfl,
        arrives]
      rfl

/-- **What it takes to make a directory**: its name is missing in a directory that the process may
write to. Then it is put there. -/
theorem makeDir?_eq_ok_iff {path : FilePath} {made : FileSystem} :
    fs.makeDir? path = .ok made ↔
      ∃ parent name, fs.resolveNew path = .missing parent name ∧
        fs.denies .write parent = false ∧ made = fs.put (parent ++ [name]) .dir := by
  unfold makeDir?
  constructor
  · intro h
    split at h
    next parent name missing =>
      split at h
      next => cases h
      next allowed =>
        cases h
        exact ⟨parent, name, missing, by simpa using allowed, rfl⟩
    all_goals cases h
  · rintro ⟨parent, name, missing, allowed, rfl⟩
    simp [missing, allowed]

/-- **A directory that was made is there**: the path leads to it. -/
theorem isDir_of_makeDir? {path : FilePath} {made : FileSystem}
    (h : fs.makeDir? path = .ok made) : made.isDir path = true := by
  obtain ⟨parent, name, missing, -, rfl⟩ := makeDir?_eq_ok_iff.mp h
  rw [isDir, stat?_of_resolveNew missing]

/-- **What it takes to open a file to append to it**: it is there, no directory, and the process may
write to it; or its name is missing in a directory that the process may write to, and it is made. -/
theorem openAppend?_cases {path : FilePath} {opened : FileSystem} {place : Location}
    (h : fs.openAppend? path = .ok (opened, place)) :
    (∃ entry, opened = fs ∧ fs.stat? path = .ok (place, entry) ∧ entry ≠ .dir ∧
        fs.denies .write place = false) ∨
      ∃ parent name, fs.resolve path = .missing parent name ∧ fs.denies .write parent = false ∧
        place = parent ++ [name] ∧ opened = fs.put place (.file [] newFileMode) := by
  have there {at_ : Location} (open_ : fs.openThere? at_ = .ok (opened, place)) :
      opened = fs ∧ place = at_ ∧ fs.denies .write at_ = false := by
    unfold openThere? at open_
    split at open_
    next => cases open_
    next allowed =>
      cases open_
      exact ⟨rfl, rfl, by simpa using allowed⟩
  -- a file is opened as it is, a special one if there is a device behind it, a missing one is made
  unfold openAppend? at h
  split at h
  next content mode resolved =>
    obtain ⟨rfl, rfl, allowed⟩ := there h
    exact .inl ⟨.file content mode, rfl, by rw [stat?, resolved], nofun, allowed⟩
  next content resolved =>
    split at h
    next => cases h
    next result open_ =>
      split at h
      next => cases h
      next =>
        cases h
        obtain ⟨rfl, rfl, allowed⟩ := there open_
        exact .inl ⟨.special content, rfl, by rw [stat?, resolved], nofun, allowed⟩
  next parent name missing =>
    dsimp only at h
    split at h
    next => cases h
    next allowed =>
      cases h
      exact .inr ⟨parent, name, missing, by simpa using allowed, rfl, rfl⟩
  all_goals cases h

/-- Nothing is kept of what is appended to a special file. -/
theorem append_of_special {place : Location} {content : Option Bytes}
    (there : fs.lookup place = some (.special content)) (bytes : Bytes) :
    fs.append place bytes = fs := by
  rw [append, there]

/-- What comes of making a directory with those above it: with some of these made, it is made, or is
there, or neither. -/
theorem makeDirsAlong_cases (fs : FileSystem) (path : FilePath) (above : List FilePath) :
    path = ⟨[]⟩ ∧ fs.makeDirsAlong (path :: above) = (fs, .ok ()) ∨
    ∃ ready, (ready = fs ∨ ready = (fs.makeDirsAlong above).1) ∧
      ((∃ made, ready.makeDir? path = .ok made ∧
          fs.makeDirsAlong (path :: above) = (made, .ok ())) ∨
        ready.isDir path = true ∧ fs.makeDirsAlong (path :: above) = (ready, .ok ()) ∨
        ∃ cause, fs.makeDirsAlong (path :: above) = (ready, .error cause)) := by
  -- it is made at once, or once those above it are, or it is there already
  rw [makeDirsAlong]
  split
  next empty => exact .inl ⟨congrArg FilePath.mk (List.isEmpty_iff.mp empty), rfl⟩
  next =>
    right
    split
    next made first => exact ⟨fs, .inl rfl, .inl ⟨made, first, rfl⟩⟩
    next =>
      split
      next failed => exact ⟨_, .inr rfl, .inr (.inr ⟨_, by rw [failed]⟩)⟩
      next ready up =>
        refine ⟨ready, .inr (by rw [up]), ?_⟩
        split
        next made second => exact .inl ⟨made, second, rfl⟩
        next cause _ =>
          split
          next dir => exact .inr (.inl ⟨dir, rfl⟩)
          next => exact .inr (.inr ⟨cause, rfl⟩)
    next cause _ _ =>
      refine ⟨fs, .inl rfl, ?_⟩
      split
      next dir => exact .inr (.inl ⟨dir, rfl⟩)
      next => exact .inr (.inr ⟨cause, rfl⟩)

end ToolingHost.FileSystem
