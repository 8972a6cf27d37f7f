import Mathlib.Logic.Relation
import ToolingHost.LanguageRules.Matching

/-! # Matching as a relation

A match leaves an end of the text that it started on (`isSuffix_of_mem_rests`), so a match that
changes nothing may be left out of a repetition, and what a repetition leaves is what any number of
matches leave (`mem_rests_many`). A pattern that is bound to the start of the text is matched from
there or not at all (`isMatch_of_anchored`). -/

namespace ToolingHost.LanguageRules.Pattern

open Relation (ReflTransGen)

variable {classes : CharClasses} {size count : Nat} {p body : Pattern} {text rest : List Char}
  {step : List Char → List (List Char)}

/-! ## Repetition -/

/-- Steps that leave an end of the text leave one also when they are repeated. -/
theorem isSuffix_of_mem_repeated (ends : ∀ text, ∀ rest ∈ step text, rest <:+ text)
    (left : rest ∈ repeated step count text) : rest <:+ text := by
  induction count generalizing text with
  | zero => exact List.mem_singleton.mp left ▸ List.suffix_rfl
  | succ count ih =>
      rcases List.mem_cons.mp left with rfl | later
      · exact List.suffix_rfl
      · obtain ⟨between, first, more⟩ := List.mem_flatMap.mp later
        exact (ih more).trans (ends text between (List.mem_filter.mp first).1)

/-- **What a match leaves** is an end of the text. -/
theorem isSuffix_of_mem_rests (left : rest ∈ rests classes size p text) : rest <:+ text := by
  induction p generalizing text rest with
  | empty => exact mem_rests_empty.mp left ▸ List.suffix_rfl
  | start => exact (mem_rests_start.mp left).2 ▸ List.suffix_rfl
  | finish =>
      obtain ⟨rfl, rfl⟩ := mem_rests_finish.mp left
      exact List.suffix_rfl
  | one set =>
      obtain ⟨c, -, rfl⟩ := mem_rests_one.mp left
      exact List.suffix_cons c rest
  | seq first second ihFirst ihSecond =>
      obtain ⟨between, before, after⟩ := mem_rests_seq.mp left
      exact (ihSecond after).trans (ihFirst before)
  | either _ _ ihLeft ihRight =>
      rcases mem_rests_either.mp left with here | here
      · exact ihLeft here
      · exact ihRight here
  | group _ ih => exact ih (mem_rests_group.mp left)
  | optional _ ih =>
      rcases mem_rests_optional.mp left with here | rfl
      · exact ih here
      · exact List.suffix_rfl
  | many _ ih => exact isSuffix_of_mem_repeated (fun _ _ => ih) left
  | many1 _ ih =>
      obtain ⟨between, before, after⟩ := List.mem_flatMap.mp left
      exact (isSuffix_of_mem_repeated (fun _ _ => ih) after).trans (ih before)

/-- Steps that leave an end of the text are repeated any number of times: a step that leaves all of
it can be left out, and each of the others shortens it. -/
theorem mem_repeated (ends : ∀ text, ∀ rest ∈ step text, rest <:+ text)
    (enough : text.length ≤ count) :
    rest ∈ repeated step count text ↔
      ReflTransGen (fun text rest => rest ∈ step text) text rest := by
  constructor
  · intro left
    -- a bounded repetition is one of any length, whatever the bound
    clear enough
    induction count generalizing text with
    | zero => rw [List.mem_singleton.mp left]
    | succ count ih =>
        rcases List.mem_cons.mp left with rfl | later
        · exact .refl
        · obtain ⟨between, first, more⟩ := List.mem_flatMap.mp later
          exact .head (List.mem_filter.mp first).1 (ih more)
  · intro steps
    induction steps using ReflTransGen.head_induction_on generalizing count with
    | refl => cases count <;> exact List.mem_cons_self
    | @head text between first _ ih =>
        by_cases same : between.length = text.length
        · rw [← (ends _ _ first).eq_of_length same]
          exact ih (same ▸ enough)
        · have shorter : between.length < text.length :=
            Nat.lt_of_le_of_ne (ends _ _ first).length_le same
          obtain ⟨count, rfl⟩ : ∃ fewer, count = fewer + 1 := ⟨count - 1, by omega⟩
          refine List.mem_cons_of_mem _ (List.mem_flatMap.mpr ⟨between, ?_, ih (by omega)⟩)
          exact List.mem_filter.mpr ⟨first, decide_eq_true shorter⟩

/-- **A repetition** leaves what any number of matches leave. -/
theorem mem_rests_many : rest ∈ rests classes size (.many body) text ↔
    ReflTransGen (fun text rest => rest ∈ rests classes size body text) text rest :=
  mem_repeated (fun _ _ => isSuffix_of_mem_rests) (Nat.le_refl _)

/-- A repeated set takes a run of its characters. -/
theorem mem_rests_many_one {set : CharSet} :
    rest ∈ rests classes size (.many (.one set)) text ↔
      ∃ run, (∀ c ∈ run, set.contains classes c = true) ∧ text = run ++ rest := by
  rw [mem_rests_many]
  constructor
  · intro steps
    induction steps using ReflTransGen.head_induction_on with
    | refl => exact ⟨[], List.forall_mem_nil _, rfl⟩
    | head first _ ih =>
        obtain ⟨c, has, rfl⟩ := mem_rests_one.mp first
        obtain ⟨run, all, rfl⟩ := ih
        exact ⟨c :: run, List.forall_mem_cons.mpr ⟨has, all⟩, rfl⟩
  · rintro ⟨run, all, rfl⟩
    induction run with
    | nil => exact .refl
    | cons c run ih =>
        obtain ⟨has, all⟩ := List.forall_mem_cons.mp all
        exact .head (mem_rests_one.mpr ⟨c, has, rfl⟩) (ih all)

/-! ## The whole text -/

/-- A pattern matches within a text if it matches from some place on. -/
theorem matchesWithin_iff : matchesWithin classes size p text = true ↔
    ∃ part rest, part <:+ text ∧ rest ∈ rests classes size p part := by
  have matches_ (part : List Char) : (!(rests classes size p part).isEmpty) = true ↔
      ∃ rest, rest ∈ rests classes size p part := by
    rw [Bool.not_eq_true', List.isEmpty_eq_false_iff_exists_mem]
  induction text with
  | nil => simp only [matchesWithin, matches_, List.suffix_nil, exists_and_left, exists_eq_left]
  | cons c text ih =>
      simp only [matchesWithin, Bool.or_eq_true, matches_, ih, List.suffix_cons_iff, or_and_right,
        exists_or, exists_and_left, exists_eq_left]

/-- **A sequence whose first part matches only at the start of the text** is matched from there. -/
theorem isMatch_of_anchored {parts : List Pattern}
    (anchored : ∀ part rest, rest ∈ rests classes text.length p part → part.length = text.length) :
    (all (p :: parts)).isMatch classes text = true ↔
      ∃ between rest, between ∈ rests classes text.length p text ∧
        rest ∈ rests classes text.length (all parts) between := by
  rw [isMatch, matchesWithin_iff]
  constructor
  · rintro ⟨part, rest, ends, left⟩
    obtain ⟨between, first, more⟩ := mem_rests_all_cons.mp left
    rw [ends.eq_of_length (anchored part between first)] at first
    exact ⟨between, rest, first, more⟩
  · rintro ⟨between, rest, first, more⟩
    exact ⟨text, rest, List.suffix_rfl, mem_rests_all_cons.mpr ⟨between, first, more⟩⟩

end ToolingHost.LanguageRules.Pattern
