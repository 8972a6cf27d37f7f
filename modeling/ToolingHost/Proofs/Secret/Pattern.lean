import ToolingHost.Proofs.Secret
import ToolingHost.Proofs.Text.Encoding

/-! # What the patterns of secrets mean

In a pattern every `*` stands for some text, possibly none, and every other character for itself:
`IsInstance` says this of any pattern. The matcher looks at the two ends of a pattern only, and cuts
what stands between them out by byte positions. For a literal with a `*` at neither, either or both
ends that is the same (`matches_iff_instance`): the upper case of a character is never empty, and a
`*` only if the character is one, so the ends of the pattern in upper case are those that were
written. The pattern `*` alone is the one exception: for the matcher it is a text. -/

namespace ToolingHost

namespace Text

open Secret (star)

/-! ## Upper case and the `*` -/

/-- Only one code point is that of `*`. -/
theorem eq_of_ofNat_eq_star {code : Nat} (is : Char.ofNat code = star) : code = 42 := by
  by_cases valid : code.isValidChar
  · rw [← Utf8.toNat_val_ofNat valid, is]
    rfl
  · rw [Char.ofNat, dif_neg valid] at is
    cases is

/-- Every character has an upper-case form, and a `*` is in it only if the character is one. -/
theorem upperChar_spec (c : Char) : upperChar c ≠ [] ∧ (star ∈ upperChar c → c = star) := by
  unfold upperChar
  dsimp only
  split
  next ascii =>
    have all : ∀ n < 0x80,
        star = (if 'a' ≤ Char.ofNat n ∧ Char.ofNat n ≤ 'z' then Char.ofNat (n - 32)
          else Char.ofNat n) → Char.ofNat n = star := by decide
    refine ⟨List.cons_ne_nil _ _, fun starred => ?_⟩
    have here := all c.toNat ascii
    rw [Char.ofNat_toNat] at here
    exact here (List.mem_singleton.mp starred)
  next =>
    split
    next codes found =>
      have all : ∀ entry ∈ multipleUpper,
          entry.2.map Char.ofNat ≠ [] ∧ star ∉ entry.2.map Char.ofNat := by decide
      obtain ⟨left, right, listed, -⟩ := List.lookup_eq_some_iff.mp found
      obtain ⟨some_, plain⟩ := all (c.toNat, codes) (by rw [listed]; simp)
      exact ⟨some_, fun starred => absurd starred plain⟩
    next =>
      split
      next run found =>
        refine ⟨List.cons_ne_nil _ _, fun starred => ?_⟩
        -- the forms of a run are greater than the code point of `*`, since the first one is
        have all : ∀ run ∈ singleUpper, (42 : Int) < run.first + run.distance := by
          decide +kernel
        have above := all run (List.mem_of_find?_eq_some found)
        have code := eq_of_ofNat_eq_star (List.mem_singleton.mp starred).symm
        have within := List.find?_some found
        simp only [CaseRun.contains, Bool.and_eq_true, decide_eq_true_eq] at within
        omega
      next => exact ⟨List.cons_ne_nil _ _, fun starred => (List.mem_singleton.mp starred).symm⟩

/-- The upper case of a text has a `*` only if the text has one. -/
theorem star_notMem_upper {chars : List Char} (plain : star ∉ chars) : star ∉ upper chars := by
  intro starred
  obtain ⟨c, hc, here⟩ := List.mem_flatMap.mp starred
  rw [(upperChar_spec c).2 here] at hc
  exact plain hc

/-- Only the empty text is empty in upper case. -/
theorem upper_eq_nil_iff {chars : List Char} : upper chars = [] ↔ chars = [] := by
  cases chars with
  | nil => simp [upper]
  | cons c rest => simp [upper, (upperChar_spec c).1]

/-- A `*` is its own upper case. -/
@[simp] theorem upper_star : upper [star] = [star] := by decide

/-! ## Positions between characters -/

/-- How many bytes a text has. -/
def size (chars : List Char) : Nat := (Bytes.ofChars chars).length

/-- A text cut at a byte position. There is no cut inside a character, and none behind the end. -/
def cutAt? : (position : Nat) → List Char → Option (List Char × List Char)
  | 0, chars => some ([], chars)
  | _ + 1, [] => none
  | position + 1, c :: rest =>
    let width := (String.utf8EncodeChar c).length
    if position + 1 < width then none
    else (cutAt? (position + 1 - width) rest).map fun (left, right) => (c :: left, right)

/-- What stands between two byte positions of a text, if both are positions of it, in this order. -/
def slice? (chars : List Char) (start stop : Nat) : Option (List Char) :=
  if stop < start then none
  else do
    let (front, _) ← cutAt? stop chars
    let (_, middle) ← cutAt? start front
    return middle

/-- The bytes of two texts add up. -/
@[simp] theorem size_append (left right : List Char) :
    size (left ++ right) = size left + size right := by
  simp [size]

/-- A text can be cut after each of its starts. -/
theorem cutAt?_size (left right : List Char) :
    cutAt? (size left) (left ++ right) = some (left, right) := by
  induction left with
  | nil => rw [show size [] = 0 from rfl, cutAt?, List.nil_append]
  | cons c rest ih =>
      have wide : 0 < (String.utf8EncodeChar c).length := by
        rw [String.length_utf8EncodeChar]
        exact c.utf8Size_pos
      have total : size (c :: rest) = (String.utf8EncodeChar c).length + size rest := by
        simp [size]
      obtain ⟨position, at_⟩ : ∃ position, size (c :: rest) = position + 1 :=
        ⟨size (c :: rest) - 1, by omega⟩
      have left_ : position + 1 - (String.utf8EncodeChar c).length = size rest := by omega
      rw [at_, List.cons_append, cutAt?, if_neg (by omega), left_, ih]
      rfl

/-- What stands between two other parts of a text is the slice between the positions at which these
end and start. -/
theorem slice?_append (left middle right : List Char) :
    slice? (left ++ middle ++ right) (size left) (size (left ++ middle)) = some middle := by
  have ordered : ¬size (left ++ middle) < size left := by simp
  rw [slice?, if_neg ordered, cutAt?_size]
  dsimp only [bind, Option.bind]
  rw [cutAt?_size]
  rfl

end Text

namespace Secret

/-! ## Instances -/

/-- A text is an instance of a pattern if replacing each `*` of the pattern with some text gives
it. -/
inductive IsInstance : (pattern text : List Char) → Prop where
  /-- Nothing stands for itself. -/
  | nil : IsInstance [] []
  /-- A `*` stands for any text. -/
  | star (any : List Char) {pattern text : List Char} (rest : IsInstance pattern text) :
      IsInstance (star :: pattern) (any ++ text)
  /-- Any other character stands for itself. -/
  | char {c : Char} (plain : c ≠ star) {pattern text : List Char}
      (rest : IsInstance pattern text) : IsInstance (c :: pattern) (c :: text)

variable {pattern literal text : List Char}

/-- The empty pattern has one instance. -/
theorem isInstance_nil_iff : IsInstance [] text ↔ text = [] := by
  constructor
  · intro h
    cases h
    rfl
  · rintro rfl
    exact .nil

/-- A text is an instance of a pattern behind a `*` if it ends in one of the pattern. -/
theorem isInstance_star_iff :
    IsInstance (star :: pattern) text ↔
      ∃ any rest, text = any ++ rest ∧ IsInstance pattern rest := by
  constructor
  · intro h
    cases h with
    | star any rest => exact ⟨any, _, rfl, rest⟩
    | char plain rest => exact absurd rfl plain
  · rintro ⟨any, rest, rfl, h⟩
    exact .star any h

/-- A literal at the front of a pattern stands at the front of its instances. -/
theorem isInstance_append_iff (plain : star ∉ literal) :
    IsInstance (literal ++ pattern) text ↔
      ∃ rest, text = literal ++ rest ∧ IsInstance pattern rest := by
  induction literal generalizing text with
  | nil => simp
  | cons c literal ih =>
      rw [List.mem_cons, not_or] at plain
      obtain ⟨other, plain⟩ := plain
      constructor
      · intro h
        cases h with
        | star => exact absurd rfl other
        | char _ below =>
            obtain ⟨rest, rfl, h⟩ := (ih plain).mp below
            exact ⟨rest, rfl, h⟩
      · rintro ⟨rest, rfl, h⟩
        exact .char (Ne.symm other) ((ih plain).mpr ⟨rest, rfl, h⟩)

/-- A literal has itself as its only instance. -/
theorem isInstance_literal_iff (plain : star ∉ literal) :
    IsInstance literal text ↔ text = literal := by
  have h := @isInstance_append_iff [] literal text plain
  simpa [isInstance_nil_iff] using h

/-- Whatever starts with a literal is an instance of it with a `*` behind. -/
theorem isInstance_starting_iff (plain : star ∉ literal) :
    IsInstance (literal ++ [star]) text ↔ literal <+: text := by
  rw [isInstance_append_iff plain]
  constructor
  · rintro ⟨rest, rfl, -⟩
    exact List.prefix_append _ _
  · rintro ⟨rest, rfl⟩
    exact ⟨rest, rfl, isInstance_star_iff.mpr ⟨rest, [], by simp, .nil⟩⟩

/-- Whatever ends in a literal is an instance of it with a `*` before. -/
theorem isInstance_starred_iff (plain : star ∉ literal) :
    IsInstance (star :: literal) text ↔ literal <:+ text := by
  simp only [isInstance_star_iff, isInstance_literal_iff plain]
  constructor
  · rintro ⟨any, rest, rfl, rfl⟩
    exact List.suffix_append _ _
  · rintro ⟨any, rfl⟩
    exact ⟨any, literal, rfl, rfl⟩

/-- Whatever has a literal in it is an instance of it between two `*`. -/
theorem isInstance_within_iff (plain : star ∉ literal) :
    IsInstance (star :: (literal ++ [star])) text ↔ literal <:+: text := by
  simp only [isInstance_star_iff, isInstance_starting_iff plain]
  constructor
  · rintro ⟨any, rest, rfl, more, rfl⟩
    exact ⟨any, more, by simp⟩
  · rintro ⟨any, more, rfl⟩
    exact ⟨any, literal ++ more, by simp, more, rfl⟩

/-! ## Patterns with a `*` at their ends -/

/-- A literal that may have a `*` before it and one behind it. -/
structure Glob where
  /-- Whether a `*` stands before the literal. -/
  starred : Bool
  /-- The literal. -/
  literal : List Char
  /-- Whether a `*` stands behind the literal. -/
  starring : Bool
  /-- There is no `*` in the literal. -/
  plain : star ∉ literal

namespace Glob

/-- The `*` at an end of a pattern, if there is one. -/
def starIf (here : Bool) : List Char := if here then [star] else []

/-- The pattern as it is written. -/
def chars (g : Glob) : List Char := starIf g.starred ++ g.literal ++ starIf g.starring

/-- The pattern in upper case. -/
theorem upper_chars (g : Glob) :
    Text.upper g.chars = starIf g.starred ++ Text.upper g.literal ++ starIf g.starring := by
  have same (here : Bool) : Text.upper (starIf here) = starIf here := by
    cases here
    · rfl
    · exact Text.upper_star
  simp only [chars, Text.upper_append, same]

end Glob

/-- A literal does not begin with a `*`. -/
theorem head?_ne_star (plain : star ∉ literal) : (literal.head? == some star) = false := by
  rw [beq_eq_false_iff_ne]
  exact fun starred => plain (List.mem_of_mem_head? starred)

/-- A literal does not end in a `*`. -/
theorem getLast?_ne_star (plain : star ∉ literal) : (literal.getLast? == some star) = false := by
  rw [beq_eq_false_iff_ne]
  exact fun starring => plain (List.mem_of_mem_getLast? starring)

variable {key : List Char}

/-- A pattern between two `*` is looked for anywhere. -/
theorem globMatches_within (upper : Text.upper pattern = star :: (literal ++ [star])) :
    globMatches pattern key = occursIn literal key := by
  simp [globMatches, upper, List.getLast?_cons]

/-- A literal is compared with the whole. -/
theorem globMatches_literal (plain : star ∉ literal) (upper : Text.upper pattern = literal) :
    globMatches pattern key = (key == literal) := by
  simp [globMatches, upper, head?_ne_star plain, getLast?_ne_star plain]

/-- A literal behind a `*` is looked for at the end. -/
theorem globMatches_starred (plain : star ∉ literal) (some_ : literal ≠ [])
    (upper : Text.upper pattern = star :: literal) :
    globMatches pattern key = literal.isSuffixOf key := by
  have last : (star :: literal).getLast? = literal.getLast? := List.getLast?_cons_of_ne_nil some_
  simp [globMatches, upper, last, getLast?_ne_star plain]

/-- A literal before a `*` is looked for at the front. -/
theorem globMatches_starring (plain : star ∉ literal) (some_ : literal ≠ [])
    (upper : Text.upper pattern = literal ++ [star]) :
    globMatches pattern key = literal.isPrefixOf key := by
  have first : (literal ++ [star]).head? = literal.head? := List.head?_append_of_ne_nil _ some_
  simp [globMatches, upper, first, head?_ne_star plain]

/-- **The matcher finds the instances**, except for the pattern `*`. -/
theorem globMatches_iff_isInstance (g : Glob) (proper : g.chars ≠ [star]) (key : List Char) :
    globMatches g.chars key = true ↔ IsInstance (Text.upper g.chars) key := by
  have plain := Text.star_notMem_upper g.plain
  have upper := g.upper_chars
  -- with one `*` only, the literal is not empty, or the pattern would be that `*`
  have some_ (uneven : g.starred ≠ g.starring) : Text.upper g.literal ≠ [] := by
    intro empty
    rw [Glob.chars, Text.upper_eq_nil_iff.mp empty] at proper
    cases starred : g.starred <;> cases starring : g.starring <;>
      simp [Glob.starIf, starred, starring] at proper uneven
  generalize Text.upper g.literal = literal at plain upper some_
  cases starred : g.starred <;> cases starring : g.starring <;>
    simp only [starred, starring, Glob.starIf, if_true, if_false, Bool.false_eq_true,
      List.nil_append, List.append_nil, List.cons_append] at upper
  · rw [globMatches_literal plain upper, upper, isInstance_literal_iff plain, beq_iff_eq]
  · have some_ := some_ (by simp [starred, starring])
    rw [globMatches_starring plain some_ upper, upper, isInstance_starting_iff plain,
      List.isPrefixOf_iff_prefix]
  · have some_ := some_ (by simp [starred, starring])
    rw [globMatches_starred plain some_ upper, upper, isInstance_starred_iff plain,
      List.isSuffixOf_iff_suffix]
  · rw [globMatches_within upper, upper, isInstance_within_iff plain, occursIn_iff]

/-- **What the matcher cuts out is there.** Of a pattern that begins and ends with a `*` and has two
bytes or more it takes the slice from the second byte to the one before the last. -/
theorem exists_slice (first : (Text.upper pattern).head? = some star)
    (last : (Text.upper pattern).getLast? = some star)
    (two : 2 ≤ Text.size (Text.upper pattern)) :
    ∃ middle,
      Text.slice? (Text.upper pattern) 1 (Text.size (Text.upper pattern) - 1) = some middle ∧
      ∀ key, globMatches pattern key = occursIn middle key := by
  obtain ⟨rest, upper⟩ := List.head?_eq_some_iff.mp first
  have some_ : rest ≠ [] := by
    rintro rfl
    rw [upper] at two
    exact absurd two (by decide)
  obtain ⟨middle, rfl⟩ : ∃ middle, rest = middle ++ [star] := by
    rw [upper, List.getLast?_cons_of_ne_nil some_] at last
    exact List.getLast?_eq_some_iff.mp last
  refine ⟨middle, ?_, fun key => globMatches_within upper⟩
  have stop : Text.size (star :: (middle ++ [star])) - 1 = Text.size ([star] ++ middle) := by
    rw [← List.cons_append, Text.size_append]
    rfl
  rw [upper, stop]
  exact Text.slice?_append [star] middle [star]

/-- The entries of the list are literals with a `*` at some ends. -/
theorem exists_glob_of_mem {pattern : String} (listed : pattern ∈ denylist) :
    ∃ g : Glob, g.chars = pattern.toList ∧ g.chars ≠ [star] := by
  simp only [denylist, List.mem_cons, List.not_mem_nil, or_false] at listed
  rcases listed with rfl | rfl | rfl | rfl | rfl | rfl | rfl
  · exact ⟨⟨true, "_API_KEY".toList, false, by decide⟩, by decide, by decide⟩
  · exact ⟨⟨true, "_TOKEN".toList, false, by decide⟩, by decide, by decide⟩
  · exact ⟨⟨true, "_SECRET".toList, false, by decide⟩, by decide, by decide⟩
  · exact ⟨⟨true, "_PASSWORD".toList, false, by decide⟩, by decide, by decide⟩
  · exact ⟨⟨true, "_CREDENTIAL".toList, true, by decide⟩, by decide, by decide⟩
  · exact ⟨⟨false, "AWS_".toList, true, by decide⟩, by decide, by decide⟩
  · exact ⟨⟨false, "GITHUB_TOKEN".toList, false, by decide⟩, by decide, by decide⟩

/-- **A name is that of a secret if its upper case is an instance of an entry.** -/
theorem isSecret_iff_isInstance (name : String) :
    isSecret name = true ↔ ∃ pattern ∈ denylist,
      IsInstance (Text.upper pattern.toList) (Text.upper name.toList) := by
  simp only [isSecret, List.any_eq_true]
  refine exists_congr fun pattern => and_congr_right fun listed => ?_
  obtain ⟨g, chars, proper⟩ := exists_glob_of_mem listed
  rw [← chars]
  exact globMatches_iff_isInstance g proper _

/-- **Patterns mean what they say.** For a literal with a `*` at neither, either or both ends, other
than the pattern `*`, a text matches exactly if it is the pattern in upper case with some text in
place of each `*`. The slice that is taken of a pattern between two `*` is always there. So a name
is that of a secret exactly if its upper case is such an instance of an entry of the list, and names
with the same upper case are treated alike. -/
theorem matches_iff_instance :
    (∀ g : Glob, g.chars ≠ [star] → ∀ key,
      globMatches g.chars key = true ↔ IsInstance (Text.upper g.chars) key) ∧
    (∀ pattern, (Text.upper pattern).head? = some star →
      (Text.upper pattern).getLast? = some star → 2 ≤ Text.size (Text.upper pattern) →
        ∃ middle,
          Text.slice? (Text.upper pattern) 1 (Text.size (Text.upper pattern) - 1) = some middle ∧
          ∀ key, globMatches pattern key = occursIn middle key) ∧
    (∀ name, isSecret name = true ↔ ∃ pattern ∈ denylist,
      IsInstance (Text.upper pattern.toList) (Text.upper name.toList)) ∧
    ∀ name other : String, Text.upper name.toList = Text.upper other.toList →
      isSecret name = isSecret other := by
  refine ⟨globMatches_iff_isInstance, fun pattern => exists_slice, isSecret_iff_isInstance, ?_⟩
  intro name other same
  rw [isSecret, isSecret, same]

/-- A pattern whose literal is longer in upper case, found in a text; two stars without a literal,
and a slice without a byte; and a name that is that of a secret in upper case only. -/
theorem matches_iff_instance_sharp :
    IsInstance "*SS*".toList "MESSE".toList ∧
      (∃ middle, Text.slice? "**".toList 1 1 = some middle ∧
        ∀ key, globMatches "**".toList key = occursIn middle key) ∧
      isSecret "gradle_credentialſ" = isSecret "GRADLE_CREDENTIALS" := by
  obtain ⟨instances, slices, -, alike⟩ := matches_iff_instance
  let sharp : Glob := ⟨true, ['ß'], true, by decide⟩
  refine ⟨?_, ?_, alike _ _ (by decide)⟩
  · have upper : Text.upper sharp.chars = "*SS*".toList := by decide
    have proper : sharp.chars ≠ [star] := by decide
    rw [← upper]
    exact (instances sharp proper _).mp (by decide)
  · exact slices "**".toList (by decide) (by decide) (by decide)

end Secret

end ToolingHost
