import ToolingHost.Config.Settings
import ToolingHost.Proofs.Text.Encoding

/-! # What a setting stands for

A setting is cut into segments: plain text, references to variables, and at its end perhaps a
reference that is never closed. `Cut` is the rule without a reader; every text has one cut
(`Cut.exists`, `Cut.unique`). The reader, which takes one character at a time, replaces segment by
segment (`Cut.expandChars_eq`). Since the cut depends on the text alone, what a variable
contributes is not read again (`expanded_by_segments`).

A path setting gives no path exactly if it consists of references to variables that contribute
nothing (`usual_place_iff_void_references`). -/

namespace ToolingHost.Config.Expansion

/-- The end of a reference. -/
def closing : Char := '\x7d'

/-- A part of a setting. -/
inductive Segment where
  /-- Text that stands for itself. -/
  | plain (run : List Char)
  /-- A closed reference with the name in it. -/
  | reference (name : List Char)
  /-- The rest of a text after the start of a reference that is never closed. -/
  | unclosed (rest : List Char)
  deriving DecidableEq, Repr

/-- How a segment is written. -/
def Segment.spelling : Segment → List Char
  | .plain run => run
  | .reference name => opening ++ name ++ [closing]
  | .unclosed rest => opening ++ rest

/-- What a variable contributes to a setting: its value if that is text, and nothing if it is not
set or set to what is no text. -/
def contribution (env : Environment) (name : List Char) : List Char :=
  match env.get? (Bytes.ofChars name) with
  | none => []
  | some bytes => (Utf8.chars? bytes).getD []

/-- What a segment stands for: a reference with a name for what the variable contributes, everything
else for itself. -/
def Segment.shown (env : Environment) : Segment → List Char
  | .reference [] => (Segment.reference []).spelling
  | .reference (c :: rest) => contribution env (c :: rest)
  | segment => segment.spelling

/-- The segments of a text, from left to right. Plain text goes on up to the start of a reference or
the end, and the name in a reference ends at the first `closing`. -/
inductive Cut : List Char → List Segment → Prop where
  /-- The end. -/
  | nil : Cut [] []
  /-- Plain text, as long as it can be. -/
  | plain {run rest : List Char} {segments : List Segment} (nonempty : run ≠ [])
      (free : ¬opening <:+: run) (stops : rest = [] ∨ opening <+: rest) (more : Cut rest segments) :
      Cut (run ++ rest) (.plain run :: segments)
  /-- A closed reference. -/
  | reference {name rest : List Char} {segments : List Segment} (free : closing ∉ name)
      (more : Cut rest segments) :
      Cut (opening ++ name ++ closing :: rest) (.reference name :: segments)
  /-- A reference that is not closed. -/
  | unclosed {rest : List Char} (free : closing ∉ rest) : Cut (opening ++ rest) [.unclosed rest]

variable {chars run run' name rest rest' : List Char} {segments segments' : List Segment}
  {env env' : Environment}

/-! ## Every text has one cut -/

/-- A text starts with plain text, which may be empty. -/
theorem exists_run (chars : List Char) :
    ∃ run rest, chars = run ++ rest ∧ ¬opening <:+: run ∧ (rest = [] ∨ opening <+: rest) := by
  induction chars with
  | nil => exact ⟨[], [], rfl, by decide, .inl rfl⟩
  | cons c chars ih =>
      by_cases starts : opening <+: c :: chars
      · exact ⟨[], c :: chars, rfl, by decide, .inr starts⟩
      · obtain ⟨run, rest, rfl, free, stops⟩ := ih
        refine ⟨c :: run, rest, rfl, ?_, stops⟩
        rw [List.infix_cons_iff]
        rintro (front | inside)
        · exact starts (front.trans (List.prefix_append (c :: run) rest))
        · exact free inside

/-- Every text can be cut. -/
theorem Cut.exists (chars : List Char) : ∃ segments, Cut chars segments := by
  induction size : chars.length using Nat.strong_induction_on generalizing chars with
  | _ n ih =>
      obtain ⟨run, rest, rfl, free, stops⟩ := exists_run chars
      rw [List.length_append] at size
      by_cases nonempty : run = []
      · subst nonempty
        rcases stops with rfl | ⟨after, rfl⟩
        · exact ⟨[], .nil⟩
        · by_cases closed : closing ∈ after
          · obtain ⟨name, rest, rfl, free⟩ := List.eq_append_cons_of_mem closed
            have shorter : rest.length < n := by
              simp only [List.length_append, List.length_cons] at size
              omega
            obtain ⟨segments, more⟩ := ih rest.length shorter rest rfl
            exact ⟨.reference name :: segments, by simpa using Cut.reference free more⟩
          · exact ⟨[.unclosed after], .unclosed closed⟩
      · have shorter : rest.length < n := by
          have := List.length_pos_of_ne_nil nonempty
          omega
        obtain ⟨segments, more⟩ := ih rest.length shorter rest rfl
        exact ⟨.plain run :: segments, .plain nonempty free stops more⟩

/-- Where a text starts with plain text, no reference starts. -/
theorem not_opening_of_run (nonempty : run ≠ []) (free : ¬opening <:+: run)
    (stops : rest = [] ∨ opening <+: rest) : ¬opening <+: run ++ rest := by
  rintro ⟨after, same⟩
  match run with
  | [] => exact nonempty rfl
  | [c] =>
      -- the second character of `opening` does not start one
      rcases stops with rfl | ⟨more, rfl⟩ <;> simp [opening] at same
  | c :: d :: run =>
      obtain ⟨rfl, rfl, rfl⟩ : '$' = c ∧ '\x7b' = d ∧ after = run ++ rest := by
        simpa [opening] using same
      exact free ⟨[], run, rfl⟩

/-- Plain text that is as long as it can be cannot be longer. -/
theorem run_maximal {more : List Char} (free : ¬opening <:+: run ++ more)
    (stops : more ++ rest = [] ∨ opening <+: more ++ rest) (stops' : rest = [] ∨ opening <+: rest) :
    more = [] := by
  by_contra nonempty
  rcases stops with none_ | starts
  · exact nonempty (List.append_eq_nil_iff.mp none_).1
  · have inside : ¬opening <:+: more := fun inside =>
      free (inside.trans (List.suffix_append run more).isInfix)
    exact not_opening_of_run nonempty inside stops' starts

/-- Plain text that is as long as it can be is determined. -/
theorem run_unique (free : ¬opening <:+: run) (free' : ¬opening <:+: run')
    (stops : rest = [] ∨ opening <+: rest) (stops' : rest' = [] ∨ opening <+: rest')
    (same : run ++ rest = run' ++ rest') : run = run' ∧ rest = rest' := by
  rcases List.append_eq_append_iff.mp same with ⟨more, rfl, rfl⟩ | ⟨more, rfl, rfl⟩
  · simp [run_maximal free' stops stops']
  · simp [run_maximal free stops' stops]

/-- The name in a reference is determined. -/
theorem name_unique {name' : List Char} (free : closing ∉ name) (free' : closing ∉ name')
    (same : name ++ closing :: rest = name' ++ closing :: rest') : name = name' ∧ rest = rest' := by
  rcases List.append_eq_append_iff.mp same with ⟨more, rfl, ends⟩ | ⟨more, rfl, ends⟩
  · cases more with
    | nil => simpa using ends
    | cons c more => exact absurd (by simp [(List.cons.inj ends).1]) free'
  · cases more with
    | nil => simpa [eq_comm] using ends
    | cons c more => exact absurd (by simp [(List.cons.inj ends).1]) free

/-- **A text has one cut.** -/
theorem Cut.unique (cut : Cut chars segments) (cut' : Cut chars segments') :
    segments = segments' := by
  -- what a text begins with tells the kind of its first segment, and each kind ends where it must
  induction cut generalizing segments' with
  | nil =>
      generalize empty : ([] : List Char) = text at cut'
      cases cut' with
      | nil => rfl
      | plain nonempty => exact absurd (List.append_eq_nil_iff.mp empty.symm).1 nonempty
      | reference => cases empty
      | unclosed => cases empty
  | @plain run rest _ nonempty free stops more ih =>
      have unstarted := not_opening_of_run nonempty free stops
      generalize same : run ++ rest = text at cut' unstarted
      cases cut' with
      | nil => exact absurd (List.append_eq_nil_iff.mp same).1 nonempty
      | plain _ free' stops' more' =>
          obtain ⟨rfl, rfl⟩ := run_unique free free' stops stops' same
          rw [ih more']
      | reference =>
          rw [List.append_assoc] at unstarted
          exact absurd (List.prefix_append _ _) unstarted
      | unclosed => exact absurd (List.prefix_append _ _) unstarted
  | @reference name rest _ free more ih =>
      generalize same : opening ++ name ++ closing :: rest = text at cut'
      rw [List.append_assoc] at same
      cases cut' with
      | nil => cases same
      | plain nonempty free' stops' =>
          have unstarted := not_opening_of_run nonempty free' stops'
          exact absurd ⟨_, same⟩ unstarted
      | reference free' more' =>
          rw [List.append_assoc, List.append_cancel_left_eq] at same
          obtain ⟨rfl, rfl⟩ := name_unique free free' same
          rw [ih more']
      | unclosed free' =>
          rw [List.append_cancel_left_eq] at same
          exact absurd (by simp [← same]) free'
  | @unclosed rest free =>
      generalize same : opening ++ rest = text at cut'
      cases cut' with
      | nil => cases same
      | plain nonempty free' stops' =>
          have unstarted := not_opening_of_run nonempty free' stops'
          exact absurd ⟨_, same⟩ unstarted
      | reference free' more' =>
          rw [List.append_assoc, List.append_cancel_left_eq] at same
          exact absurd (by simp [same]) free
      | unclosed free' =>
          rw [List.append_cancel_left_eq] at same
          rw [same]

/-- The segments of a text spell it. -/
theorem Cut.spelling (cut : Cut chars segments) : segments.flatMap Segment.spelling = chars := by
  induction cut with
  | nil => rfl
  | plain _ _ _ _ ih | reference _ _ ih => simp [Segment.spelling, ih]
  | unclosed => simp [Segment.spelling]

/-! ## The reader replaces the segments -/

variable {lookup : Lookup}

/-- A character at which no reference starts stands for itself. -/
theorem expandChars_cons {c : Char} (unstarted : ¬opening <+: c :: rest) :
    expandChars lookup (c :: rest) = c :: expandChars lookup rest := by
  unfold expandChars
  rw [expandFrom]
  by_cases dollar : c = '$'
  · subst dollar
    rw [if_pos rfl]
    cases rest with
    | nil => rfl
    | cons d rest =>
        have other : d ≠ '\x7b' := by
          rintro rfl
          exact unstarted (List.prefix_append opening rest)
        simp only [expandFrom, if_neg other]
        split <;> rfl
  · rw [if_neg dollar]

/-- Plain text stands for itself. -/
theorem expandChars_run (free : ¬opening <:+: run) (stops : rest = [] ∨ opening <+: rest) :
    expandChars lookup (run ++ rest) = run ++ expandChars lookup rest := by
  induction run with
  | nil => rfl
  | cons c run ih =>
      have unstarted := not_opening_of_run (List.cons_ne_nil c run) free stops
      have inside : ¬opening <:+: run := fun inside =>
        free (inside.trans (List.suffix_cons c run).isInfix)
      rw [List.cons_append] at unstarted ⊢
      rw [expandChars_cons unstarted, ih inside, List.cons_append]

/-- What follows the start of a reference is read up to the end of the reference. -/
theorem expandFrom_closed {before : List Char} (free : closing ∉ name) :
    expandFrom lookup (.name before) (name ++ closing :: rest) =
      value lookup (before.reverse ++ name) ++ expandChars lookup rest := by
  induction name generalizing before with
  | nil => simp [expandFrom, closing, expandChars]
  | cons c name ih =>
      obtain ⟨other, free⟩ : c ≠ '\x7d' ∧ closing ∉ name := by simpa [closing, eq_comm] using free
      rw [List.cons_append, expandFrom, if_neg other, ih free]
      simp

/-- Where the end is missing, all of it stands for itself. -/
theorem expandFrom_unclosed {before : List Char} (free : closing ∉ rest) :
    expandFrom lookup (.name before) rest = opening ++ before.reverse ++ rest := by
  induction rest generalizing before with
  | nil => simp [expandFrom]
  | cons c rest ih =>
      obtain ⟨other, free⟩ : c ≠ '\x7d' ∧ closing ∉ rest := by simpa [closing, eq_comm] using free
      rw [expandFrom, if_neg other, ih free]
      simp

/-- What a closed reference stands for in an environment. -/
theorem value_eq_shown (env : Environment) (name : List Char) :
    value env.text? name = (Segment.reference name).shown env := by
  cases name with
  | nil => rfl
  | cons c rest =>
      rw [value, if_neg (by simp), Segment.shown, contribution, Environment.text?, Bytes.ofString,
        String.toList_ofList]
      cases env.get? (Bytes.ofChars (c :: rest)) with
      | none => rfl
      | some bytes =>
          dsimp only [Option.bind_some]
          rw [Utf8.text?]
          cases Utf8.chars? bytes <;> simp

/-- **The reader replaces segment by segment.** -/
theorem Cut.expandChars_eq (cut : Cut chars segments) (env : Environment) :
    expandChars env.text? chars = segments.flatMap (Segment.shown env) := by
  induction cut with
  | nil => rfl
  | plain _ free stops _ ih => rw [expandChars_run free stops, ih]; rfl
  | @reference name rest _ free _ ih =>
      have read : expandChars env.text? (opening ++ name ++ closing :: rest) =
          expandFrom env.text? (.name []) (name ++ closing :: rest) := by
        rw [List.append_assoc]
        rfl
      rw [read, expandFrom_closed free, ih, List.reverse_nil, List.nil_append, value_eq_shown]
      rfl
  | @unclosed rest free =>
      have read : expandChars env.text? (opening ++ rest) =
          expandFrom env.text? (.name []) rest := rfl
      rw [read, expandFrom_unclosed free]
      simp [Segment.shown, Segment.spelling]

/-- A segment stands for the same in environments that give the name in it the same value. -/
theorem Segment.shown_congr {segment : Segment}
    (agree : ∀ name, segment = .reference name → name ≠ [] →
      env.text? (String.ofList name) = env'.text? (String.ofList name)) :
    segment.shown env = segment.shown env' := by
  match segment with
  | .plain _ | .unclosed _ | .reference [] => rfl
  | .reference (c :: rest) =>
      rw [← value_eq_shown, ← value_eq_shown, value, value,
        agree (c :: rest) rfl (List.cons_ne_nil c rest)]

/-- **A setting is expanded segment by segment.** Every text has one cut into segments, which spell
it; the cut does not depend on any environment. In every environment the setting stands for what its
segments stand for, one after the other: plain text, a reference without a name and an unclosed one
for themselves, and any other reference for what the variable contributes, which is not read again.
So environments that agree on the variables with a reference in the setting give it the same
meaning. -/
theorem expanded_by_segments (setting : String) :
    ∃ segments, Cut setting.toList segments ∧
      (∀ other, Cut setting.toList other → other = segments) ∧
      segments.flatMap Segment.spelling = setting.toList ∧
      (∀ env : Environment,
        (expand env.text? setting).toList = segments.flatMap (Segment.shown env)) ∧
      ∀ env env' : Environment,
        (∀ name, .reference name ∈ segments → name ≠ [] →
          env.text? (String.ofList name) = env'.text? (String.ofList name)) →
        expand env.text? setting = expand env'.text? setting := by
  obtain ⟨segments, cut⟩ := Cut.exists setting.toList
  have expanded (env : Environment) :
      (expand env.text? setting).toList = segments.flatMap (Segment.shown env) := by
    rw [expand, String.toList_ofList, cut.expandChars_eq]
  refine ⟨segments, cut, fun other cut' => cut'.unique cut, cut.spelling, expanded, ?_⟩
  intro env env' agree
  have shown : segments.flatMap (Segment.shown env) = segments.flatMap (Segment.shown env') := by
    apply List.flatMap_congr
    rintro segment listed
    apply Segment.shown_congr
    rintro name rfl
    exact agree name listed
  rw [← String.toList_inj, expanded, expanded, shown]

example : expand (fun _ => some "$\x7bA\x7d") "$$\x7bA\x7d$\x7b\x7d\x7d$\x7bA" =
    "$$\x7bA\x7d$\x7b\x7d\x7d$\x7bA" := by decide

/-! ## Path settings that give no path -/

/-- A variable contributes nothing. -/
inductive IsVoid (env : Environment) (name : List Char) : Prop where
  /-- It is not set. -/
  | unset (absent : env.get? (Bytes.ofChars name) = none)
  /-- It is set to nothing. -/
  | empty (set : env.get? (Bytes.ofChars name) = some [])
  /-- It is set to what is no text. -/
  | notText {bytes : Bytes} (set : env.get? (Bytes.ofChars name) = some bytes)
      (stray : ∀ chars, Bytes.ofChars chars ≠ bytes)

/-- A text is a row of references to variables that contribute nothing. -/
def IsVoidRow (env : Environment) (chars : List Char) : Prop :=
  ∃ names : List (List Char),
    (∀ name ∈ names, name ≠ [] ∧ closing ∉ name ∧ IsVoid env name) ∧
      chars = names.flatMap fun name => (Segment.reference name).spelling

/-- What contributes nothing is unset, empty or no text. -/
theorem contribution_eq_nil_iff : contribution env name = [] ↔ IsVoid env name := by
  unfold contribution
  constructor
  · intro nothing
    split at nothing
    next absent => exact .unset absent
    next bytes set =>
      cases read : Utf8.chars? bytes with
      | none => exact .notText set (Utf8.chars?_eq_none_iff.mp read)
      | some chars =>
          obtain rfl : chars = [] := by simpa [read] using nothing
          obtain rfl : [] = bytes := Utf8.chars?_eq_some_iff.mp read
          exact .empty set
  · intro void
    cases void with
    | unset absent => rw [absent]
    | empty set =>
        rw [set]
        rfl
    | notText set stray =>
        rw [set]
        dsimp only
        rw [Utf8.chars?_eq_none_iff.mpr stray]
        rfl

/-- A reference with a name stands for what the variable contributes. -/
theorem shown_reference (nonempty : name ≠ []) :
    (Segment.reference name).shown env = contribution env name := by
  cases name with
  | nil => exact absurd rfl nonempty
  | cons => rfl

/-- A row of references is cut into them. -/
theorem cut_references {names : List (List Char)} (free : ∀ name ∈ names, closing ∉ name) :
    Cut (names.flatMap fun name => (Segment.reference name).spelling)
      (names.map .reference) := by
  induction names with
  | nil => exact .nil
  | cons name names ih =>
      obtain ⟨first, others⟩ := List.forall_mem_cons.mp free
      simpa [Segment.spelling] using Cut.reference first (ih others)

/-- **A text whose segments stand for nothing is a row of references** to variables that contribute
nothing. -/
theorem Cut.isVoidRow (cut : Cut chars segments)
    (nothing : ∀ segment ∈ segments, segment.shown env = []) : IsVoidRow env chars := by
  induction cut with
  | nil => exact ⟨[], nofun, rfl⟩
  | plain nonempty => exact absurd (nothing _ List.mem_cons_self) nonempty
  | unclosed => cases nothing _ List.mem_cons_self
  | @reference name rest _ free more ih =>
      obtain ⟨first, others⟩ := List.forall_mem_cons.mp nothing
      obtain ⟨names, void, rfl⟩ := ih others
      have nonempty : name ≠ [] := by
        rintro rfl
        cases first
      rw [shown_reference nonempty, contribution_eq_nil_iff] at first
      exact ⟨name :: names, List.forall_mem_cons.mpr ⟨⟨nonempty, free, first⟩, void⟩,
        by simp [Segment.spelling]⟩

/-- **A text is expanded to nothing exactly if it is a row of references** to variables that
contribute nothing. -/
theorem expandChars_eq_nil_iff : expandChars env.text? chars = [] ↔ IsVoidRow env chars := by
  constructor
  · intro nothing
    obtain ⟨segments, cut⟩ := Cut.exists chars
    rw [cut.expandChars_eq, List.flatMap_eq_nil_iff] at nothing
    exact cut.isVoidRow nothing
  · rintro ⟨names, void, rfl⟩
    have cut := cut_references fun name listed => (void name listed).2.1
    rw [cut.expandChars_eq, List.flatMap_eq_nil_iff, List.forall_mem_map]
    intro name listed
    obtain ⟨nonempty, -, nothing⟩ := void name listed
    rw [shown_reference nonempty, contribution_eq_nil_iff]
    exact nothing

/-- **The usual place is taken exactly for a row of references to variables that contribute
nothing**, the empty row included. Any other path setting gives a path: the expanded text as it is,
which is not empty. -/
theorem usual_place_iff_void_references (settings : SubsystemSettings) (env : Environment) :
    (settings.customPath env = none ↔ IsVoidRow env settings.path.toList) ∧
      (¬IsVoidRow env settings.path.toList →
        settings.customPath env = some (.ofString (expand env.text? settings.path)) ∧
          expand env.text? settings.path ≠ "") := by
  have void : expand env.text? settings.path = "" ↔ IsVoidRow env settings.path.toList := by
    rw [← expandChars_eq_nil_iff, expand, String.ofList_eq_empty_iff]
  rw [SubsystemSettings.customPath, Config.customPath, ← void]
  by_cases nothing : expand env.text? settings.path = ""
  · rw [nothing]
    exact ⟨iff_of_true rfl rfl, fun some_ => absurd rfl some_⟩
  · rw [if_neg (by simpa using nothing)]
    exact ⟨iff_of_false nofun nothing, fun _ => ⟨rfl, nothing⟩⟩

end ToolingHost.Config.Expansion
