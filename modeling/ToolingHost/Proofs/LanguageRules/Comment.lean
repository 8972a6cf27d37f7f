import Mathlib.Data.List.Induction
import ToolingHost.LanguageRules.Basic
import ToolingHost.Proofs.LanguageRules.Matching

/-! # Which lines continue a documentation comment

The patterns of the rules that continue a comment take stars in pairs: a `*` and the character after
it, which is no `/`. So they see the end of a comment only behind an odd number of stars, and what
they match is a text in which no odd run of stars stands before a `/` or at the end
(`leavesOpen_iff`). A comment that is closed by an even run, such as `**` and `/`, is continued as
if it were open, also where the rule for closed comments would fit
(`continued_unless_closed_by_odd_run`). -/

namespace ToolingHost.LanguageRules

/-! ## Runs of stars -/

/-- Whether a text can be taken from the front a character at a time, a star always together with
the character after it, which is no `/`. -/
def leavesOpen : List Char → Bool
  | [] => true
  | [c] => c != '*'
  | c :: d :: rest => if c = '*' then d != '/' && leavesOpen rest else leavesOpen (d :: rest)

section Runs

variable {before after rest text : List Char} {c : Char}

/-- A character other than a star is taken alone. -/
theorem leavesOpen_cons (other : c ≠ '*') : leavesOpen (c :: rest) = leavesOpen rest := by
  cases rest with
  | nil => simp [leavesOpen, other]
  | cons d rest => rw [leavesOpen, if_neg other]

/-- A star is taken with the character after it. -/
theorem leavesOpen_star : leavesOpen ('*' :: c :: rest) = (c != '/' && leavesOpen rest) := by
  rw [leavesOpen, if_pos rfl]

/-- Pairs of stars may be left out. -/
theorem leavesOpen_pairs (pairs : Nat) :
    leavesOpen (List.replicate (2 * pairs) '*' ++ text) = leavesOpen text := by
  induction pairs with
  | zero => rfl
  | succ pairs ih => simpa [Nat.mul_succ, List.replicate_succ, leavesOpen_star] using ih

/-- A text that does not end in a star may be left out if it can be taken. -/
theorem leavesOpen_append (apart : before.getLast? ≠ some '*') :
    leavesOpen (before ++ after) = (leavesOpen before && leavesOpen after) := by
  induction before using leavesOpen.induct with
  | case1 => rfl
  | case2 c =>
      have other : c ≠ '*' := by simpa using apart
      rw [List.singleton_append, leavesOpen_cons other, leavesOpen, bne_iff_ne.mpr other,
        Bool.true_and]
  | case3 d rest ih =>
      have apart' : rest.getLast? ≠ some '*' := by
        cases rest with
        | nil => simp
        | cons e rest => simpa using apart
      simp only [List.cons_append, leavesOpen_star, ih apart', Bool.and_assoc]
  | case4 c d rest other ih =>
      rw [List.getLast?_cons_cons] at apart
      rw [List.cons_append, leavesOpen_cons other, ih apart, leavesOpen_cons other]

/-- Every run of an odd number of stars is followed by a character other than a `/`. -/
def OddRunsGoOn (text : List Char) : Prop :=
  ∀ before stars after, text = before ++ List.replicate stars '*' ++ after →
    before.getLast? ≠ some '*' → after.head? ≠ some '*' → stars % 2 = 1 →
      ∃ c rest, after = c :: rest ∧ c ≠ '/'

/-- What can be taken in this way goes on behind its odd runs. -/
theorem OddRunsGoOn.of_leavesOpen (opens : leavesOpen text = true) : OddRunsGoOn text := by
  rintro before stars after rfl apart _ odd
  rw [List.append_assoc, leavesOpen_append apart, Bool.and_eq_true] at opens
  -- all but one star of the run are in pairs
  obtain ⟨pairs, rfl⟩ : ∃ pairs, stars = 2 * pairs + 1 := ⟨stars / 2, by omega⟩
  have last := opens.2
  rw [List.replicate_succ', List.append_assoc, leavesOpen_pairs] at last
  cases after with
  | nil => cases last
  | cons c rest =>
      rw [List.singleton_append, leavesOpen_star, Bool.and_eq_true] at last
      exact ⟨c, rest, rfl, by simpa using last.1⟩

/-- What is left behind a text that does not end in a star goes on behind its odd runs if the whole
does. -/
theorem OddRunsGoOn.of_append (goesOn : OddRunsGoOn (before ++ text))
    (apart : before.getLast? ≠ some '*') : OddRunsGoOn text := by
  rintro before' stars after rfl apart' ends odd
  -- the run stays one in the whole text: what is before it still does not end in a star
  refine goesOn (before ++ before') stars after (by simp) ?_ ends odd
  rw [List.getLast?_append]
  cases last : before'.getLast? with
  | none => simpa using apart
  | some c => simpa [last] using apart'

/-- What is left behind two stars goes on behind its odd runs if the whole does. -/
theorem OddRunsGoOn.of_pair (goesOn : OddRunsGoOn ('*' :: '*' :: text)) : OddRunsGoOn text := by
  rintro before stars after rfl apart ends odd
  -- a run at the front of the text grows by two, any other run stays as long as it is
  cases before with
  | nil =>
      refine goesOn [] (stars + 2) after ?_ (by simp) ends (by omega)
      simp [List.replicate_succ]
  | cons c before =>
      exact goesOn ('*' :: '*' :: c :: before) stars after (by simp)
        (by simpa [List.getLast?_cons_cons] using apart) ends odd

/-- **A text leaves a comment open** in the eyes of the patterns if every odd run of stars in it is
followed by a character other than a `/`. -/
theorem leavesOpen_iff : leavesOpen text = true ↔ OddRunsGoOn text := by
  refine ⟨.of_leavesOpen, fun goesOn => ?_⟩
  induction text using leavesOpen.induct with
  | case1 => rfl
  | case2 c =>
      by_cases star : c = '*'
      · subst star
        obtain ⟨c, rest, none_, -⟩ := goesOn [] 1 [] rfl (by simp) (by simp) rfl
        cases none_
      · simp [leavesOpen, star]
  | case3 d rest ih =>
      rw [leavesOpen_star, Bool.and_eq_true]
      by_cases star : d = '*'
      · subst star
        exact ⟨rfl, ih goesOn.of_pair⟩
      · obtain ⟨c, rest', same, open_⟩ :=
          goesOn [] 1 (d :: rest) rfl (by simp) (by simpa using star) rfl
        cases same
        have later : OddRunsGoOn (['*', d] ++ rest) := goesOn
        exact ⟨by simpa using open_, ih (later.of_append (by simpa using star))⟩
  | case4 c d rest other ih =>
      have later : OddRunsGoOn ([c] ++ d :: rest) := goesOn
      rw [leavesOpen_cons other]
      exact ih (later.of_append (by simpa using other))

/-- A text without a `/` goes on behind its odd runs if it does not end in a star. -/
theorem OddRunsGoOn.of_slashless (slashless : '/' ∉ text) (apart : text.getLast? ≠ some '*') :
    OddRunsGoOn text := by
  rintro before stars after rfl - - odd
  cases after with
  | nil =>
      obtain ⟨fewer, rfl⟩ : ∃ fewer, stars = fewer + 1 := ⟨stars - 1, by omega⟩
      exact absurd (by simp [List.replicate_succ']) apart
  | cons c rest =>
      refine ⟨c, rest, rfl, ?_⟩
      rintro rfl
      exact slashless (by simp)

/-- A text ends in a run of stars, which may be empty. -/
theorem exists_run_back (text : List Char) :
    ∃ before stars, text = before ++ List.replicate stars '*' ∧ before.getLast? ≠ some '*' := by
  induction text using List.reverseRecOn with
  | nil => exact ⟨[], 0, rfl, by simp⟩
  | append_singleton text c ih =>
      by_cases star : c = '*'
      · obtain ⟨before, stars, rfl, apart⟩ := ih
        exact ⟨before, stars + 1, by simp [star, List.replicate_succ'], apart⟩
      · exact ⟨text ++ [c], 0, by simp, by simpa using star⟩

end Runs

/-! ## What the patterns match -/

namespace Kotlin

open Pattern Text

section Matching

variable {classes : CharClasses} {size : Nat} {text rest : List Char}

/-- The indentation of a line inside a comment: tabs and pairs of spaces. -/
inductive IsIndent : List Char → Prop where
  /-- No indentation. -/
  | nil : IsIndent []
  /-- One more tab. -/
  | tab {indent : List Char} (more : IsIndent indent) : IsIndent ('\t' :: indent)
  /-- Two more spaces. -/
  | spaces {indent : List Char} (more : IsIndent indent) : IsIndent (' ' :: ' ' :: indent)

/-- An indentation ends at the space before the first star. -/
theorem IsIndent.eq_of_append {indent indent' body body' : List Char} (is : IsIndent indent)
    (is' : IsIndent indent')
    (same : indent ++ " *".toList ++ body = indent' ++ " *".toList ++ body') : body = body' := by
  induction is generalizing indent' with
  | nil => cases is' <;> simp_all
  | tab _ ih =>
      cases is' with
      | tab more => exact ih more (by simpa using same)
      | nil | spaces => simp at same
  | spaces _ ih =>
      cases is' with
      | spaces more => exact ih more (by simpa using same)
      | nil | tab => simp at same

/-- Blank characters are taken from the front. -/
theorem mem_rests_blanks : rest ∈ rests classes size blanks text ↔
    ∃ gap, (∀ c ∈ gap, isBlank c = true) ∧ text = gap ++ rest :=
  mem_rests_many_one

/-- A text that leaves a comment open is taken from the front. -/
theorem mem_rests_openText : rest ∈ rests classes size openText text ↔
    ∃ run, leavesOpen run = true ∧ text = run ++ rest := by
  rw [openText, mem_rests_many]
  simp only [mem_rests_group, mem_rests_either, mem_rests_noneOf, mem_rests_seq, mem_rests_char]
  constructor
  · intro steps
    induction steps using Relation.ReflTransGen.head_induction_on with
    | refl => exact ⟨[], rfl, rfl⟩
    | head first _ ih =>
        obtain ⟨run, opens, rfl⟩ := ih
        rcases first with ⟨c, other, rfl⟩ | ⟨_, rfl, c, other, rfl⟩
        · exact ⟨c :: run, by rw [leavesOpen_cons (by simpa using other), opens], rfl⟩
        · refine ⟨'*' :: c :: run, ?_, rfl⟩
          rw [leavesOpen_star, opens, Bool.and_true, bne_iff_ne]
          simpa using other
  · rintro ⟨run, opens, rfl⟩
    induction run using leavesOpen.induct with
    | case1 => exact .refl
    | case2 c => exact .single (.inl ⟨c, by simpa [leavesOpen] using opens, rfl⟩)
    | case3 d run ih =>
        rw [leavesOpen_star, Bool.and_eq_true] at opens
        exact .head (.inr ⟨_, rfl, d, by simpa using opens.1, rfl⟩) (ih opens.2)
    | case4 c d run other ih =>
        rw [leavesOpen_cons other] at opens
        exact .head (.inl ⟨c, by simpa using other, rfl⟩) (ih opens)

/-- The indentation and the star of a line inside a comment are taken from the front. -/
theorem mem_rests_commentIndent : rest ∈ rests classes size commentIndent text ↔
    text.length = size ∧ ∃ indent, IsIndent indent ∧ text = indent ++ ' ' :: '*' :: rest := by
  -- the blanks at the front are tabs and pairs of spaces, taken one by one
  have units {text rest : List Char} :
      rest ∈ rests classes size (.many (.group (.either (char '\t') (.text "  ")))) text ↔
        ∃ indent, IsIndent indent ∧ text = indent ++ rest := by
    rw [mem_rests_many]
    simp only [mem_rests_group, mem_rests_either, mem_rests_char, mem_rests_text]
    constructor
    · intro steps
      induction steps using Relation.ReflTransGen.head_induction_on with
      | refl => exact ⟨[], .nil, rfl⟩
      | head first _ ih =>
          obtain ⟨indent, is, rfl⟩ := ih
          rcases first with rfl | rfl
          · exact ⟨_, .tab is, rfl⟩
          · exact ⟨_, .spaces is, rfl⟩
    · rintro ⟨indent, is, rfl⟩
      induction is with
      | nil => exact .refl
      | tab _ ih => exact .head (.inl rfl) ih
      | spaces _ ih => exact .head (.inr rfl) ih
  simp only [commentIndent, mem_rests_all_cons, mem_rests_all_nil, mem_rests_start, mem_rests_text,
    units]
  constructor
  · rintro ⟨_, ⟨whole, rfl⟩, _, ⟨indent, is, rfl⟩, _, rfl, rfl⟩
    exact ⟨whole, indent, is, rfl⟩
  · rintro ⟨whole, indent, is, rfl⟩
    exact ⟨_, ⟨whole, rfl⟩, _, ⟨indent, is, rfl⟩, _, rfl, rfl⟩

/-- **What starts a comment**: blanks, `/**`, and perhaps a text that leaves the comment open and
does not go on with a `*` or a `/`. -/
theorem commentOpen_isMatch : commentOpen.isMatch classes text = true ↔
    ∃ indent rest, text = indent ++ "/**".toList ++ rest ∧ (∀ c ∈ indent, isBlank c = true) ∧
      (rest = [] ∨ ∃ c body, rest = c :: body ∧ c ≠ '*' ∧ c ≠ '/' ∧ OddRunsGoOn body) := by
  rw [commentOpen, isMatch_of_anchored fun _ _ first => (mem_rests_start.mp first).1]
  simp only [mem_rests_all_cons, mem_rests_all_nil, mem_rests_start, mem_rests_blanks,
    mem_rests_text, mem_rests_optional, mem_rests_group, mem_rests_seq, mem_rests_noneOf,
    mem_rests_openText, mem_rests_finish, leavesOpen_iff]
  constructor
  · rintro ⟨_, _, ⟨-, rfl⟩, _, ⟨indent, blank, rfl⟩, _, rfl, _, more, _, ⟨rfl, rfl⟩, rfl⟩
    refine ⟨indent, _, (List.append_assoc ..).symm, blank, ?_⟩
    rcases more with ⟨_, ⟨c, other, rfl⟩, body, opens, rfl⟩ | rfl
    · obtain ⟨star, slash⟩ : c ≠ '*' ∧ c ≠ '/' := by simpa using other
      exact .inr ⟨c, body, by simp, star, slash, opens⟩
    · exact .inl rfl
  · rintro ⟨indent, rest, rfl, blank, more⟩
    refine ⟨_, [], ⟨trivial, rfl⟩, _, ⟨indent, blank, List.append_assoc ..⟩, rest, rfl, [], ?_, [],
      ⟨rfl, rfl⟩, rfl⟩
    rcases more with rfl | ⟨c, body, rfl, star, slash, opens⟩
    · exact .inr rfl
    · exact .inl ⟨body, ⟨c, by simp [star, slash], rfl⟩, body, opens, (List.append_nil _).symm⟩

/-- A pattern of a line inside a comment goes on behind the star of the line. -/
theorem commentIndent_isMatch {parts : List Pattern} :
    (all (commentIndent :: parts)).isMatch classes text = true ↔
      ∃ indent body, text = indent ++ " *".toList ++ body ∧ IsIndent indent ∧
        ∃ rest, rest ∈ rests classes text.length (all parts) body := by
  rw [isMatch_of_anchored fun _ _ first => (mem_rests_commentIndent.mp first).1]
  simp only [mem_rests_commentIndent]
  constructor
  · rintro ⟨body, rest, ⟨-, indent, is, same⟩, more⟩
    exact ⟨indent, body, by simpa using same, is, rest, more⟩
  · rintro ⟨indent, body, same, is, rest, more⟩
    exact ⟨body, rest, ⟨trivial, indent, is, by simpa using same⟩, more⟩

/-- **What is taken for a line that continues a comment**: after the star either nothing, or a space
and a text that leaves the comment open. -/
theorem commentLine_isMatch : commentLine.isMatch classes text = true ↔
    ∃ indent rest, text = indent ++ " *".toList ++ rest ∧ IsIndent indent ∧
      (rest = [] ∨ ∃ body, rest = ' ' :: body ∧ OddRunsGoOn body) := by
  rw [commentLine, commentIndent_isMatch]
  simp only [mem_rests_all_cons, mem_rests_all_nil, mem_rests_optional, mem_rests_group,
    mem_rests_seq, mem_rests_char, mem_rests_openText, mem_rests_finish, leavesOpen_iff]
  constructor
  · rintro ⟨indent, body, same, is, _, _, more, _, ⟨rfl, rfl⟩, rfl⟩
    refine ⟨indent, body, same, is, ?_⟩
    rcases more with ⟨_, rfl, run, opens, rfl⟩ | rfl
    · exact .inr ⟨run, by simp, opens⟩
    · exact .inl rfl
  · rintro ⟨indent, rest, same, is, more⟩
    refine ⟨indent, rest, same, is, [], [], ?_, [], ⟨rfl, rfl⟩, rfl⟩
    rcases more with rfl | ⟨body, rfl, opens⟩
    · exact .inr rfl
    · exact .inl ⟨body, rfl, body, opens, (List.append_nil _).symm⟩

/-- What is taken for a line that only closes a comment. -/
theorem commentEnd_isMatch : commentEnd.isMatch classes text = true ↔
    ∃ indent gap, text = indent ++ " *".toList ++ '/' :: gap ∧ IsIndent indent ∧
      ∀ c ∈ gap, isBlank c = true := by
  rw [commentEnd, commentIndent_isMatch]
  simp only [mem_rests_all_cons, mem_rests_all_nil, mem_rests_char, mem_rests_blanks,
    mem_rests_finish]
  constructor
  · rintro ⟨indent, _, same, is, _, _, rfl, _, ⟨gap, blank, rfl⟩, _, ⟨rfl, rfl⟩, rfl⟩
    exact ⟨indent, gap, by simpa using same, is, blank⟩
  · rintro ⟨indent, gap, same, is, blank⟩
    exact ⟨indent, _, same, is, [], _, rfl, [], ⟨gap, blank, (List.append_nil _).symm⟩, [],
      ⟨rfl, rfl⟩, rfl⟩

/-- What is taken for a line that closes a comment after some text. -/
theorem commentEndAfterText_isMatch : commentEndAfterText.isMatch classes text = true ↔
    ∃ indent body gap, text = indent ++ " *".toList ++ (body ++ '*' :: '/' :: gap) ∧
      IsIndent indent ∧ '/' ∉ body ∧ ∀ c ∈ gap, isBlank c = true := by
  rw [commentEndAfterText, commentIndent_isMatch]
  simp only [mem_rests_all_cons, mem_rests_all_nil, mem_rests_text, mem_rests_blanks,
    mem_rests_finish, noneOf, mem_rests_many_one]
  constructor
  · rintro ⟨indent, _, same, is, _, _, ⟨body, slashless, rfl⟩, _, rfl, _, ⟨gap, blank, rfl⟩, _,
      ⟨rfl, rfl⟩, rfl⟩
    refine ⟨indent, body, gap, by simpa using same, is, fun slash => ?_, blank⟩
    simpa [CharSet.contains] using slashless _ slash
  · rintro ⟨indent, body, gap, same, is, slashless, blank⟩
    refine ⟨indent, _, same, is, [], _, ⟨body, fun c hc => ?_, rfl⟩, gap, rfl, [],
      ⟨gap, blank, (List.append_nil _).symm⟩, [], ⟨rfl, rfl⟩, rfl⟩
    have other : c ≠ '/' := fun slash => slashless (slash ▸ hc)
    simpa [CharSet.contains] using other

/-- A line that continues a comment and one that closes it in the same place are not the same. -/
theorem not_commentLine_and_commentEnd : ¬(commentLine.isMatch classes text = true ∧
    commentEnd.isMatch classes text = true) := by
  rintro ⟨line, closed⟩
  obtain ⟨indent, rest, rfl, is, more⟩ := commentLine_isMatch.mp line
  obtain ⟨indent', gap, same, is', -⟩ := commentEnd_isMatch.mp closed
  have slash : rest = '/' :: gap := is.eq_of_append is' same
  rcases more with rfl | ⟨body, rfl, -⟩ <;> cases slash

/-- **A line that continues a comment closes it too** if the text before the end of the comment ends
in an odd number of stars, so that the end is behind an even one. -/
theorem commentLine_and_commentEndAfterText : commentLine.isMatch classes text = true ∧
    commentEndAfterText.isMatch classes text = true ↔
      ∃ indent body pairs gap, text = indent ++ " * ".toList ++
          (body ++ List.replicate (2 * pairs + 2) '*' ++ '/' :: gap) ∧
        IsIndent indent ∧ '/' ∉ body ∧ body.getLast? ≠ some '*' ∧ ∀ c ∈ gap, isBlank c = true := by
  constructor
  · rintro ⟨line, closed⟩
    obtain ⟨indent, rest, rfl, is, more⟩ := commentLine_isMatch.mp line
    obtain ⟨indent', whole, gap, same, is', slashless, blank⟩ :=
      commentEndAfterText_isMatch.mp closed
    have split : rest = whole ++ '*' :: '/' :: gap := is.eq_of_append is' same
    rcases more with rfl | ⟨opened, rfl, goesOn⟩
    · simp at split
    cases whole with
    | nil => cases split
    | cons c whole =>
        obtain ⟨rfl, rfl⟩ : ' ' = c ∧ opened = whole ++ '*' :: '/' :: gap := by simpa using split
        obtain ⟨body, stars, rfl, apart⟩ := exists_run_back whole
        -- an odd run would have to go on with another character than the `/`
        have even : (stars + 1) % 2 ≠ 1 := by
          intro odd
          obtain ⟨c, rest, is_, other⟩ := goesOn body (stars + 1) ('/' :: gap)
            (by simp [List.replicate_succ']) apart (by simp) odd
          cases is_
          exact other rfl
        obtain ⟨pairs, rfl⟩ : ∃ pairs, stars = 2 * pairs + 1 := ⟨stars / 2, by omega⟩
        refine ⟨indent, body, pairs, gap, by simp [List.replicate_succ'], is, ?_, apart, blank⟩
        exact fun slash => slashless (by simp [slash])
  · rintro ⟨indent, body, pairs, gap, rfl, is, slashless, apart, blank⟩
    -- the stars before the `/` are taken in pairs, and then the `/` alone
    have open_ :
        leavesOpen (body ++ (List.replicate (2 * (pairs + 1)) '*' ++ '/' :: gap)) = true := by
      have gapless : OddRunsGoOn gap :=
        .of_slashless (fun slash => absurd (blank _ slash) (by decide))
          (fun star => absurd (blank _ (List.mem_of_getLast? star)) (by decide))
      rw [leavesOpen_append apart, leavesOpen_pairs, leavesOpen_cons (by decide),
        leavesOpen_iff.mpr gapless, leavesOpen_iff.mpr (.of_slashless slashless apart)]
      rfl
    refine ⟨commentLine_isMatch.mpr ⟨indent, _, ?_, is, .inr ⟨_, rfl, leavesOpen_iff.mp open_⟩⟩,
      commentEndAfterText_isMatch.mpr ⟨indent, ' ' :: (body ++ List.replicate (2 * pairs + 1) '*'),
        gap, ?_, is, ?_, blank⟩⟩
    · simp [Nat.mul_succ]
    · simp [List.replicate_succ']
    · simpa using slashless

end Matching

/-- **Which comments are continued.** The rules that continue a comment fire on a text exactly if it
opens a comment, or is a line inside one, and every odd run of stars in what follows goes on with a
character other than a `/`; so an end of the comment that they take no notice of is behind an even
run. A line that only closes a comment is never continued. One that closes it after some text is
continued exactly if the end is behind an even run of stars. -/
theorem continued_unless_closed_by_odd_run (classes : CharClasses) (text : List Char) :
    (commentOpen.isMatch classes text = true ↔
      ∃ indent rest, text = indent ++ "/**".toList ++ rest ∧ (∀ c ∈ indent, isBlank c = true) ∧
        (rest = [] ∨ ∃ c body, rest = c :: body ∧ c ≠ '*' ∧ c ≠ '/' ∧ OddRunsGoOn body)) ∧
      (commentLine.isMatch classes text = true ↔
        ∃ indent rest, text = indent ++ " *".toList ++ rest ∧ IsIndent indent ∧
          (rest = [] ∨ ∃ body, rest = ' ' :: body ∧ OddRunsGoOn body)) ∧
      ¬(commentLine.isMatch classes text = true ∧ commentEnd.isMatch classes text = true) ∧
      (commentLine.isMatch classes text = true ∧ commentEndAfterText.isMatch classes text = true ↔
        ∃ indent body pairs gap, text = indent ++ " * ".toList ++
            (body ++ List.replicate (2 * pairs + 2) '*' ++ '/' :: gap) ∧
          IsIndent indent ∧ '/' ∉ body ∧ body.getLast? ≠ some '*' ∧ ∀ c ∈ gap, isBlank c = true) :=
  ⟨commentOpen_isMatch, commentLine_isMatch, not_commentLine_and_commentEnd,
    commentLine_and_commentEndAfterText⟩

/-- **A closed comment is continued** where two stars stand before the `/`: on its first line, and
on a later one that the rule for closed comments fits as well. -/
theorem closed_comment_continued :
    (∀ classes, commentOpen.isMatch classes "/** done **/".toList = true) ∧
      (∀ classes, commentLine.isMatch classes " * done **/".toList = true ∧
        commentEndAfterText.isMatch classes " * done **/".toList = true) ∧
      "*/".toList <:+: " done **/".toList :=
  have opened (classes : CharClasses) : commentOpen.isMatch classes "/** done **/".toList = true :=
    commentOpen_isMatch.mpr ⟨[], " done **/".toList, by simp, nofun, .inr ⟨' ', "done **/".toList,
      by simp, by decide, by decide, leavesOpen_iff.mp (by decide)⟩⟩
  have line (classes : CharClasses) : commentLine.isMatch classes " * done **/".toList = true ∧
      commentEndAfterText.isMatch classes " * done **/".toList = true :=
    commentLine_and_commentEndAfterText.mpr
      ⟨[], "done ".toList, 0, [], by simp, .nil, by decide, by decide, nofun⟩
  ⟨opened, line, ⟨" done *".toList, [], by simp⟩⟩

end Kotlin

end ToolingHost.LanguageRules
