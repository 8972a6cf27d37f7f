import ToolingHost.Proofs.FilePath
import ToolingHost.Proofs.FileSystem

/-! # A path and its parent

The parent of a path is found by its text alone, and what a path leads to by asking the file system
for one name after the other. The two fit together for every path but those whose last name is `.`:
the names of any other path are those of its parent and one more (`names_cases`), so if the parent
leads to a directory, the last name is looked for in it (`resolveNew_of_parent`). A path that ends
in `.` has one parent for the text, and for the file system another: it means the directory before
that `.`, which has to be there. -/

namespace ToolingHost

namespace FileSystem

open FilePath (separator joinParts Leads isIdle)

/-- The names of a name cut at a separator. -/
theorem namesOf_append_separator (left right : Bytes) :
    namesOf (left ++ separator :: right) = namesOf left ++ namesOf right := by
  rw [namesOf, Bytes.cut_append_separator, List.filter_append]
  rfl

/-- The lead of a name is named apart. -/
theorem namesOf_leads {lead body : Bytes} (h : Leads lead body) :
    namesOf (lead ++ body) = namesOf lead ++ namesOf body := by
  cases h with
  | nothing => rfl
  | root => exact namesOf_append_separator [] body
  | dot => rfl
  | dots body =>
      calc namesOf ([FilePath.dot] ++ separator :: body)
          = namesOf [FilePath.dot] ++ namesOf body := namesOf_append_separator _ _
        _ = namesOf [FilePath.dot] ++ namesOf ([] ++ separator :: body) := by
            rw [namesOf_append_separator]
            rfl

/-- The names in parts without separators. -/
theorem namesOf_joinParts {parts : List Bytes} (plain : ∀ part ∈ parts, separator ∉ part) :
    namesOf (joinParts parts) = parts.filter fun name => !name.isEmpty := by
  cases parts with
  | nil => rfl
  | cons part rest => rw [namesOf, FilePath.cut_joinParts (List.cons_ne_nil _ _) plain]

/-- No name of a path is the one for a separator at the end. -/
theorem ne_end_of_mem_namesOf {path : Bytes} {name : Bytes} (named : name ∈ namesOf path) :
    name ≠ endName := by
  rintro rfl
  cases (List.mem_filter.mp named).2

/-- The last name of a path is `.`, so it means the directory that stands before it. -/
def EndsHere (path : FilePath) : Prop := (namesOf path.bytes).getLast? = some hereName

/-- An idle part is no name, or the directory itself. -/
theorem eq_here_of_isIdle {parts : List Bytes} (idle : ∀ part ∈ parts, isIdle part = true)
    {name : Bytes} (h : name ∈ parts.filter fun name => !name.isEmpty) : name = hereName := by
  obtain ⟨listed, some_⟩ := List.mem_filter.mp h
  have here := idle name listed
  simp only [isIdle, Bool.or_eq_true, beq_iff_eq] at here
  rcases here with none_ | here
  · rw [none_] at some_
    cases some_
  · exact here

/-- The names of a path are those of its lead and its parts that are not empty. -/
theorem namesOf_bytes (p : FilePath) :
    namesOf p.bytes = namesOf p.lead ++ p.parts.filter fun name => !name.isEmpty := by
  rw [p.lead_append, namesOf_leads p.leads, namesOf_joinParts fun _ => FilePath.separator_notMem]

/-- A lead names the directory itself, if anything. -/
theorem eq_here_of_leads {lead body : Bytes} (h : Leads lead body) {name : Bytes}
    (named : name ∈ namesOf lead) : name = hereName := by
  cases h with
  | nothing | root => cases named
  | dot | dots => exact List.mem_singleton.mp named

/-- A path that only names the directory itself ends so, if it has a name. -/
theorem EndsHere.of_forall {p : FilePath} (same : ∀ name ∈ namesOf p.bytes, name = hereName)
    (some_ : namesOf p.bytes ≠ []) : EndsHere p := by
  rw [EndsHere, List.getLast?_eq_some_getLast some_, same _ (List.getLast_mem some_)]

/-- A path starts where its parent does. -/
theorem startOf_eq {p q : FilePath} {front : List Bytes}
    (above : q.bytes = p.lead ++ joinParts front) (starts : front <+: p.parts) (here : Location) :
    startOf q.bytes here = startOf p.bytes here := by
  have first : q.bytes <+: p.bytes := by
    rw [above, p.lead_append, List.prefix_append_right_inj]
    exact FilePath.joinParts_prefix starts
  obtain ⟨rest, whole⟩ := first
  by_cases none_ : q.bytes = []
  · rw [none_] at above
    have relative := FilePath.head?_ne_separator (List.append_eq_nil_iff.mp above.symm).1
    rw [startOf, startOf, none_, if_neg relative]
    rfl
  · rw [startOf, startOf, ← whole, List.head?_append_of_ne_nil _ none_]

/-- **The names of a path are those of its parent and one more**, apart from names of the directory
itself between them, and both start at the same place; unless the path has no names, or ends in one
of the directory itself. -/
theorem names_cases {p : FilePath} (proper : ¬EndsHere p) :
    namesOf p.bytes = [] ∨
    ∃ q between last, p.parent? = some q ∧ namesOf p.bytes = namesOf q.bytes ++ between ++ [last] ∧
      (∀ name ∈ between, name = hereName) ∧
      ∀ here, startOf q.bytes here = startOf p.bytes here := by
  rcases p.parent?_cases with
    ⟨q, front, between, last, back, above, bytes, parts, busy, idle, idle'⟩ | idle
  · right
    have names := namesOf_bytes p
    have some_ : last.isEmpty = false := (Bool.or_eq_false_iff.mp busy).1
    -- no part behind the last component is a name, or the path would end in it
    have none_ : (back.filter fun name => !name.isEmpty) = [] := by
      by_contra more
      apply proper
      rw [EndsHere, names, parts, List.filter_append, ← List.append_assoc, List.filter_cons,
        if_pos (by simp [some_]), List.getLast?_append, List.getLast?_cons_of_ne_nil more,
        List.getLast?_eq_some_getLast more, Option.some_or,
        eq_here_of_isIdle idle' (List.getLast_mem more)]
    have starts : front <+: p.parts := by
      rw [parts, List.append_assoc]
      exact List.prefix_append _ _
    have follows := p.leads.of_prefix (FilePath.joinParts_prefix starts)
    have plain : ∀ part ∈ front, separator ∉ part :=
      fun part h => FilePath.separator_notMem (starts.subset h)
    refine ⟨q, between.filter fun name => !name.isEmpty, last, above, ?_,
      fun name => eq_here_of_isIdle idle, startOf_eq bytes starts⟩
    rw [bytes, namesOf_leads follows, namesOf_joinParts plain, names, parts]
    simp [some_, none_]
  · left
    by_contra some_
    refine proper (.of_forall (fun name named => ?_) some_)
    rw [namesOf_bytes, List.mem_append] at named
    rcases named with named | named
    · exact eq_here_of_leads p.leads named
    · exact eq_here_of_isIdle idle named

/-! ## Behind a directory -/

section

variable {fs : FileSystem} {location place parent : Location}
  {core same more rest : List Bytes} {target name : Bytes}

/-- A walk that comes to a directory goes on from there. -/
theorem walk_append_of_dir (ends : ∀ name ∈ same, name = endName)
    (dir : walk fs true location (core ++ same) = .dir place) (followLast : Bool)
    (more : List Bytes) :
    walk fs followLast location (core ++ more) = walk fs followLast place more := by
  induction core generalizing location with
  | nil =>
      rw [List.nil_append, walk_ends ends] at dir
      cases dir
      rfl
  | cons name rest ih =>
      rw [List.cons_append] at dir ⊢
      cases meets fs location name with
      | dir next goesOn =>
          rw [goesOn] at dir ⊢
          exact ih dir
      | file _ _ _ stops | special _ _ stops | link _ stops | vacant _ stops =>
          rw [stops] at dir
          split at dir <;> cases dir
      | refused _ _ stops =>
          rw [stops] at dir
          cases dir

/-- A walk that comes to a link comes to it on the way to more names too. -/
theorem walk_append_of_link (ends : ∀ name ∈ same, name = endName)
    (linked : walk fs true location (core ++ same) = .link parent target rest)
    (some_ : more ≠ []) :
    ∃ left, rest = left ++ same ∧ ∀ followLast,
      walk fs followLast location (core ++ more) = .link parent target (left ++ more) := by
  -- the separators are at the end, so a walk that comes to a link has not come to them
  induction core generalizing location with
  | nil =>
      rw [List.nil_append, walk_ends ends] at linked
      cases linked
  | cons name names ih =>
      simp only [List.cons_append] at linked ⊢
      cases meets fs location name with
      | dir next goesOn =>
          rw [goesOn] at linked
          simp only [goesOn]
          exact ih linked
      | link found stops =>
          rw [stops] at linked
          split at linked
          · cases linked
          · cases linked
            exact ⟨names, rfl, fun followLast => by simp [stops, some_]⟩
      | file _ _ _ stops | special _ _ stops | vacant _ stops =>
          rw [stops] at linked
          split at linked <;> cases linked
      | refused _ _ stops =>
          rw [stops] at linked
          cases linked

/-- **What is resolved behind a directory is resolved from there**, with some of the links left. -/
theorem follow_append_of_dir {links : Nat} (ends : ∀ name ∈ same, name = endName)
    (dir : follow fs true links location (core ++ same) = .dir place) (some_ : more ≠ []) :
    ∃ left, ∀ followLast, follow fs followLast links location (core ++ more) =
      follow fs followLast left place more := by
  induction links generalizing location core same with
  | zero =>
      refine ⟨0, fun followLast => ?_⟩
      rw [follow] at dir
      split at dir
      · cases dir
      · rw [follow, follow, walk_append_of_dir ends dir]
  | succ links ih =>
      rw [follow] at dir
      split at dir
      next parent target rest linked =>
        obtain ⟨left, rfl, goesOn⟩ := walk_append_of_link ends linked some_
        have longer : left ++ more ≠ [] := by simp [some_]
        -- there may be a separator at the end of the target
        obtain ⟨core', same', ends', steps, names⟩ : ∃ core' same',
            (∀ name ∈ same', name = endName) ∧
            (if (left ++ same).isEmpty then stepsOf target else namesOf target ++ (left ++ same)) =
              core' ++ same' ∧ core' = namesOf target ++ left := by
          by_cases none_ : left ++ same = []
          · obtain ⟨rfl, rfl⟩ := List.append_eq_nil_iff.mp none_
            exact ⟨namesOf target, _, by split <;> simp, rfl, by simp⟩
          · exact ⟨namesOf target ++ left, same, ends, by simp [none_], rfl⟩
        rw [steps] at dir
        obtain ⟨left', resolved⟩ := ih ends' dir
        refine ⟨left', fun followLast => ?_⟩
        rw [follow, goesOn]
        dsimp only
        rw [if_neg (by simpa using longer), ← List.append_assoc, ← names, resolved]
      next =>
        refine ⟨links + 1, fun followLast => ?_⟩
        rw [follow, follow, walk_append_of_dir ends dir]

/-! ## Names that end in the directory itself -/

section

variable {ends ends' : List Bytes}

/-- A directory is named as itself by a process that may search it. -/
theorem walk_itself (location : Location) (followLast : Bool)
    (same : ∀ name ∈ ends, name = endName) :
    walk fs followLast location (hereName :: ends) =
      if fs.denies .execute location then .failed .permissionDenied else .dir location := by
  rw [walk, if_neg (by decide), if_pos rfl, walk_ends same]

/-- A walk over names that end in the directory itself never stops at a missing last name, and ends
alike with and without separators behind them and whether or not a last link is followed; at a link
on the way it has the same names left. -/
theorem walk_append_itself (location : Location) (core : List Bytes)
    (same : ∀ name ∈ ends, name = endName) (same' : ∀ name ∈ ends', name = endName)
    (followLast followLast' : Bool) :
    (∃ parent target rest,
      walk fs followLast location (core ++ hereName :: ends) =
        .link parent target (rest ++ hereName :: ends) ∧
      walk fs followLast' location (core ++ hereName :: ends') =
        .link parent target (rest ++ hereName :: ends')) ∨
    (walk fs followLast location (core ++ hereName :: ends) =
        walk fs followLast' location (core ++ hereName :: ends') ∧
      (∀ parent target rest,
        walk fs followLast location (core ++ hereName :: ends) ≠ .link parent target rest) ∧
      ∀ parent name,
        walk fs followLast location (core ++ hereName :: ends) ≠ .missing parent name) := by
  -- at each name in front both walks meet the same
  induction core generalizing location with
  | nil =>
      right
      rw [List.nil_append, List.nil_append, walk_itself location _ same,
        walk_itself location _ same']
      split <;> simp
  | cons name rest ih =>
      rw [List.cons_append, List.cons_append]
      cases meets fs location name with
      | dir next goesOn =>
          simp only [goesOn]
          exact ih next
      | file _ _ _ stops | special _ _ stops | link _ stops | vacant _ stops | refused _ _ stops =>
          simp [stops]

/-- A resolution of names that end in the directory itself ends alike with and without separators
behind them, and at no missing name. -/
theorem follow_append_itself {links : Nat} (same : ∀ name ∈ ends, name = endName)
    (same' : ∀ name ∈ ends', name = endName) (followLast followLast' : Bool) :
    follow fs followLast links location (core ++ hereName :: ends) =
      follow fs followLast' links location (core ++ hereName :: ends') ∧
    ∀ parent name,
      follow fs followLast links location (core ++ hereName :: ends) ≠ .missing parent name := by
  -- by induction on the links that are left: at one both walks go on with names of the same form
  induction links generalizing location core with
  | zero =>
      rcases walk_append_itself location core same same' followLast followLast' with
        ⟨parent, target, rest, first, second⟩ | ⟨alike, unlinked, there⟩
      · rw [follow, follow, first, second]
        simp
      · rw [follow_of_walk rfl unlinked, follow_of_walk alike.symm unlinked]
        exact ⟨rfl, there⟩
  | succ links ih =>
      rcases walk_append_itself location core same same' followLast followLast' with
        ⟨parent, target, rest, first, second⟩ | ⟨alike, unlinked, there⟩
      · rw [follow, follow, first, second]
        dsimp only
        rw [if_neg (by simp), if_neg (by simp), ← List.append_assoc, ← List.append_assoc]
        exact ih
      · rw [follow_of_walk rfl unlinked, follow_of_walk alike.symm unlinked]
        exact ⟨rfl, there⟩

end

end

variable {fs fs' : FileSystem} {location place parent : Location} {path above : FilePath}
  {name last : Bytes}

/-! ## The directory of a path -/

/-- A path leads to a directory; the empty one leads to the working directory. -/
def LeadsToDir (fs : FileSystem) (path : FilePath) (place : Location) : Prop :=
  path = ⟨[]⟩ ∧ place = fs.workingDir ∨ fs.stat? path = .ok (place, .dir)

/-- Making the directories of a path makes the last one, or finds it. -/
theorem leadsToDir_of_makeDirs (made : fs.makeDirs path = (fs', .ok ())) :
    ∃ place, fs'.LeadsToDir path place := by
  obtain ⟨rest, first⟩ : ∃ rest, path.ancestors = path :: rest := by
    unfold FilePath.ancestors
    cases path.bytes.length with
    | zero => exact ⟨[], rfl⟩
    | succ fuel =>
        rw [FilePath.ancestors.go]
        split <;> exact ⟨_, rfl⟩
  have found (dir : fs'.isDir path = true) : ∃ place, fs'.LeadsToDir path place := by
    obtain ⟨place, leads⟩ := stat?_of_isDir dir
    exact ⟨place, .inr leads⟩
  rw [makeDirs, first] at made
  rcases makeDirsAlong_cases fs path rest with
    ⟨empty, done⟩ | ⟨ready, -, ⟨_, new, done⟩ | ⟨dir, done⟩ | ⟨cause, failed⟩⟩
  · exact ⟨_, .inl ⟨empty, rfl⟩⟩
  · rw [done] at made
    cases made
    exact found (isDir_of_makeDir? new)
  · rw [done] at made
    cases made
    exact found dir
  · rw [failed] at made
    cases made

/-- A walk to a name passes names of the directory itself. -/
theorem walk_append_here {same : List Bytes} {followLast : Bool}
    (here : ∀ name ∈ same, name = hereName) (proper : last ≠ endName) :
    walk fs followLast location (same ++ [last]) = walk fs followLast location [last] := by
  by_cases closed : fs.denies .execute location = true
  · -- whatever the first name is, the walk ends there
    rw [walk_closed proper closed]
    cases same with
    | nil => exact walk_closed proper closed
    | cons name rest =>
        have other : name ≠ endName := by
          rw [here name (List.mem_cons_self ..)]
          decide
        exact walk_closed other closed
  · induction same with
    | nil => rfl
    | cons name rest ih =>
        obtain ⟨rfl, later⟩ := List.forall_mem_cons.mp here
        rw [List.cons_append, walk, if_neg (by decide), if_neg closed, if_pos rfl, ih later]

/-- What a last name resolves to if a link is not followed: it may be missing there, but nothing is
missing before it. -/
theorem follow_last (links : Nat) :
    follow fs false links location [last] = .missing location last ∨
    follow fs false links location [last] ≠ .failed .notFound ∧
      ∀ parent name, follow fs false links location [last] ≠ .missing parent name := by
  have walked : walk fs false location [last] = .missing location last ∨
      walk fs false location [last] ≠ .failed .notFound ∧
        (∀ parent name, walk fs false location [last] ≠ .missing parent name) ∧
        ∀ parent target rest, walk fs false location [last] ≠ .link parent target rest := by
    cases meets fs location last with
    | dir next goesOn =>
        rw [goesOn, walk]
        simp
    | file _ _ _ stops | special _ _ stops | link _ stops | vacant _ stops => simp [stops]
    | refused _ other stops => simp [stops, other]
  cases links <;> rw [follow]
  all_goals
    rcases walked with missing | ⟨found, there, unlinked⟩
    · rw [missing]
      exact .inl rfl
    · right
      split
      next linked => exact absurd linked (unlinked _ _ _)
      next => exact ⟨found, there⟩

/-- A resolution of a name passes names of the directory itself. -/
theorem follow_append_here {same : List Bytes} {followLast : Bool} {links : Nat}
    (here : ∀ name ∈ same, name = hereName) (proper : last ≠ endName) :
    follow fs followLast links location (same ++ [last]) =
      follow fs followLast links location [last] := by
  cases links <;> rw [follow, follow, walk_append_here here proper]

/-- A path to a directory is resolved to its place. -/
theorem resolve_of_stat? (leads : fs.stat? path = .ok (place, .dir)) :
    fs.resolve path = .dir place := by
  unfold stat? at leads
  split at leads
  next resolved => cases leads; exact resolved
  all_goals cases leads

/-- **The last name of a path is looked for in the directory of its parent**, unless it is one of
the directory itself. -/
theorem resolveNew_of_parent (proper : ¬EndsHere path) (named : namesOf path.bytes ≠ [])
    (unrefused : refusal? path = none) :
    ∃ above, path.parent? = some above ∧ ∀ fs place, LeadsToDir fs above place →
      ∃ links last, fs.resolveNew path = follow fs false links place [last] := by
  rcases names_cases proper with none_ | ⟨above, between, last, given, names, here, start⟩
  · exact absurd none_ named
  · refine ⟨above, given, fun fs place leads => ?_⟩
    have resolved : fs.resolveNew path =
        follow fs false maxLinks (startOf above.bytes fs.workingDir)
          (namesOf above.bytes ++ (between ++ [last])) := by
      rw [resolveNew, unrefused, names, start, List.append_assoc]
    have listed : last ∈ namesOf path.bytes := by rw [names]; simp
    have other : last ≠ endName := ne_end_of_mem_namesOf listed
    rcases leads with ⟨rfl, rfl⟩ | leads
    · exact ⟨maxLinks, last, resolved.trans (follow_append_here here other)⟩
    · have dir := resolve_of_stat? leads
      unfold resolve at dir
      split at dir
      · cases dir
      · have ends : ∀ name ∈ (if endsInSeparator above.bytes then [endName] else []),
            name = endName := by
          split <;> simp
        have more : between ++ [last] ≠ [] := by simp
        obtain ⟨links, goesOn⟩ := follow_append_of_dir ends dir more
        exact ⟨links, last, resolved.trans ((goesOn false).trans (follow_append_here here other))⟩

/-- If the parent of a path leads to a directory, the last name is missing in that one, or something
is there already, or the name cannot be looked for; the place to make it in is never what is not
found. -/
theorem resolveNew_cases (proper : ¬EndsHere path) (some_ : path ≠ ⟨[]⟩)
    (leads : ∀ above, path.parent? = some above → ∃ place, fs.LeadsToDir above place) :
    (∃ above place name, path.parent? = some above ∧ fs.LeadsToDir above place ∧
      fs.resolveNew path = .missing place name) ∨
    fs.resolveNew path ≠ .failed .notFound ∧
      ∀ parent name, fs.resolveNew path ≠ .missing parent name := by
  cases refused : refusal? path with
  | some cause =>
      right
      have other : cause ≠ .notFound := by
        rintro rfl
        have none_ : path.bytes ≠ [] := fun none_ => some_ (congrArg FilePath.mk none_)
        unfold refusal? at refused
        split at refused
        · cases refused
        · rw [if_neg (by simpa using none_)] at refused
          split at refused <;> cases refused
      simp [resolveNew, refused, other]
  | none =>
      -- a path without a name leads to where it starts, which is a directory
      by_cases none_ : namesOf path.bytes = []
      · right
        have dir : fs.resolveNew path = .dir (startOf path.bytes fs.workingDir) := by
          rw [resolveNew, refused, none_]
          rfl
        simp [dir]
      · obtain ⟨above, given, below⟩ := resolveNew_of_parent proper none_ refused
        obtain ⟨place, leads⟩ := leads above given
        obtain ⟨links, last, resolved⟩ := below fs place leads
        rw [resolved]
        rcases follow_last links with missing | found
        · exact .inl ⟨above, place, last, given, leads, missing⟩
        · exact .inr found

/-- A path that ends in the directory itself is resolved alike for something that is looked for and
for a directory to be made, and never to a missing name. -/
theorem resolveNew_of_endsHere (ends : EndsHere path) :
    fs.resolveNew path = fs.resolve path ∧
      ∀ parent name, fs.resolve path ≠ .missing parent name := by
  obtain ⟨core, names⟩ := List.getLast?_eq_some_iff.mp ends
  rw [resolveNew, resolve]
  cases refusal? path with
  | some cause => simp
  | none =>
      dsimp only
      rw [stepsOf, names, List.append_assoc]
      have same : ∀ name ∈ (if endsInSeparator path.bytes then [endName] else []),
          name = endName := by
        split <;> simp
      have none_ : ∀ name ∈ ([] : List Bytes), name = endName := by simp
      exact (follow_append_itself same none_ true false).imp_left Eq.symm

end FileSystem

end ToolingHost
