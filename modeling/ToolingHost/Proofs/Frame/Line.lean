import Mathlib.Data.List.TakeWhile
import Mathlib.Tactic.Tauto
import ToolingHost.Proofs.Frame.Header
import ToolingHost.Proofs.Text.Encoding

/-! # What a header line says

A header line is read in steps: it is text or it is not, its blanks are trimmed, it is cut at its
first colon, and what stands behind it may have to be a number. `Means` is the rule without the
steps: what each kind of line consists of. The reading follows it (`means_iff`), so every line says
one thing. The parts of the rule are characterized by themselves: text without the blanks around it
(`IsTrimmed`), a numeral (`Spells`), and a name in any mix of cases. -/

namespace ToolingHost

/-! ## Blanks around a text -/

namespace Text

/-- `core` is the text without the blanks around it. -/
structure IsTrimmed (chars core : List Char) : Prop where
  /-- What is left out stands around it, and is blank. -/
  around : ∃ front back, chars = front ++ core ++ back ∧
    (∀ c ∈ front, isBlank c = true) ∧ ∀ c ∈ back, isBlank c = true
  /-- It does not start with a blank. -/
  first : ∀ c ∈ core.head?, isBlank c = false
  /-- Nor does it end with one. -/
  last : ∀ c ∈ core.getLast?, isBlank c = false

/-- What is left after the blanks at the front starts with none. -/
theorem head?_trimFront (chars : List Char) : ∀ c ∈ (trimFront chars).head?, isBlank c = false := by
  intro c hc
  have dark := List.head?_dropWhile_not isBlank chars
  rw [trimFront, Option.mem_def] at hc
  rw [hc] at dark
  exact dark

/-- What is left out at the front is blank. -/
theorem exists_trimFront (chars : List Char) :
    ∃ front, chars = front ++ trimFront chars ∧ ∀ c ∈ front, isBlank c = true :=
  ⟨chars.takeWhile isBlank, List.takeWhile_append_dropWhile.symm,
    fun _ hc => List.mem_takeWhile_imp hc⟩

/-- The end is trimmed like the front of the text that is read backwards. -/
theorem trimBack_eq (chars : List Char) : trimBack chars = (trimFront chars.reverse).reverse := rfl

/-- Trimming leaves out the blanks around a text, and no more. -/
theorem isTrimmed_trim (chars : List Char) : IsTrimmed chars (trim chars) := by
  obtain ⟨front, split, blankFront⟩ := exists_trimFront chars
  obtain ⟨back, splitBack, blankBack⟩ := exists_trimFront (trimFront chars).reverse
  have middle : trimFront chars = trim chars ++ back.reverse := by
    rw [trim, trimBack_eq, ← List.reverse_append, ← splitBack, List.reverse_reverse]
  refine ⟨⟨front, back.reverse, ?_, blankFront, ?_⟩, ?_, ?_⟩
  · rw [List.append_assoc, ← middle]
    exact split
  · intro c hc
    exact blankBack c (List.mem_reverse.mp hc)
  · intro c hc
    apply head?_trimFront chars
    rw [middle, List.head?_append, hc]
    rfl
  · intro c hc
    rw [trim, trimBack_eq, List.getLast?_reverse] at hc
    exact head?_trimFront _ c hc

/-- Blanks at the front go. -/
theorem trim_append_of_blank {front : List Char} (blank : ∀ c ∈ front, isBlank c = true)
    (rest : List Char) : trim (front ++ rest) = trim rest := by
  induction front with
  | nil => rfl
  | cons c more ih =>
      rw [List.forall_mem_cons] at blank
      rw [List.cons_append, trim_cons_of_blank blank.1, ih blank.2]

/-- Blanks at the end go. -/
theorem trimBack_append_of_blank {back : List Char} (blank : ∀ c ∈ back, isBlank c = true)
    (chars : List Char) : trimBack (chars ++ back) = trimBack chars := by
  induction back generalizing chars with
  | nil => rw [List.append_nil]
  | cons c more ih =>
      rw [List.forall_mem_cons] at blank
      rw [List.append_cons, ih blank.2, trimBack_concat_of_blank blank.1]

/-- **A text is trimmed to what is left without the blanks around it.** -/
theorem trim_eq_iff {chars core : List Char} : trim chars = core ↔ IsTrimmed chars core := by
  constructor
  · rintro rfl
    exact isTrimmed_trim chars
  · rintro ⟨⟨front, back, rfl, blankFront, blankBack⟩, first, last⟩
    rw [List.append_assoc, trim_append_of_blank blankFront]
    cases core with
    | nil => simpa using trim_append_of_blank blankBack []
    | cons c rest =>
        obtain ⟨others, final, split⟩ := List.eq_nil_or_concat (c :: rest) |>.resolve_left (by simp)
        rw [List.cons_append, trim_cons (first c rfl), ← List.cons_append,
          trimBack_append_of_blank blankBack, split, List.concat_eq_append]
        exact trimBack_concat (last final (by rw [split]; simp)) others

/-- Nothing is left of a text exactly if it holds blanks at most. -/
theorem trim_eq_nil_iff {chars : List Char} :
    trim chars = [] ↔ ∀ c ∈ chars, isBlank c = true := by
  constructor
  · intro empty
    obtain ⟨⟨front, back, split, blankFront, blankBack⟩, -, -⟩ := isTrimmed_trim chars
    rw [empty, List.append_nil] at split
    intro c hc
    rw [split, List.mem_append] at hc
    exact hc.elim (blankFront c) (blankBack c)
  · intro blank
    simpa using trim_append_of_blank blank []

/-- What is no blank stays. -/
theorem mem_trim_iff {c : Char} (dark : isBlank c = false) {chars : List Char} :
    c ∈ trim chars ↔ c ∈ chars := by
  obtain ⟨⟨front, back, split, blankFront, blankBack⟩, -, -⟩ := isTrimmed_trim chars
  have around {blanks : List Char} (blank : ∀ c ∈ blanks, isBlank c = true) : c ∉ blanks := by
    intro hc
    rw [blank c hc] at dark
    cases dark
  constructor
  · intro kept
    rw [split]
    exact List.mem_append_left _ (List.mem_append_right _ kept)
  · intro hc
    rw [split, List.mem_append, List.mem_append] at hc
    rcases hc with (hc | hc) | hc
    · exact absurd hc (around blankFront)
    · exact hc
    · exact absurd hc (around blankBack)

end Text

namespace Frame

/-! ## Numerals -/

/-- A text spells a number in decimal digits, after an optional plus sign. -/
def Spells (chars : List Char) (n : Nat) : Prop :=
  ∃ digits, (chars = digits ∨ chars = '+' :: digits) ∧ digits ≠ [] ∧
    (∀ c ∈ digits, c.isDigit = true) ∧ Nat.ofDigitChars 10 digits 0 = n

/-- What stands behind the sign, if there is one. -/
def unsigned : List Char → List Char
  | '+' :: rest => rest
  | chars => chars

/-- A text without a sign stands there as it is. -/
theorem unsigned_of_signless {chars : List Char} (signless : ∀ rest, chars ≠ '+' :: rest) :
    unsigned chars = chars := by
  unfold unsigned
  split
  · exact absurd rfl (signless _)
  · rfl

/-- Digits have no sign. -/
theorem unsigned_digits {digits : List Char} (all : ∀ c ∈ digits, c.isDigit = true) :
    unsigned digits = digits :=
  unsigned_of_signless fun _ same =>
    (digit_spec (all '+' (by rw [same]; exact List.mem_cons_self))).2.2 rfl

/-- Behind its sign, a numeral is made of digits. -/
theorem spells_iff {chars : List Char} {n : Nat} :
    Spells chars n ↔ unsigned chars ≠ [] ∧ (∀ c ∈ unsigned chars, c.isDigit = true) ∧
      Nat.ofDigitChars 10 (unsigned chars) 0 = n := by
  constructor
  · rintro ⟨digits, rfl | rfl, some_, all, value⟩
    · rw [unsigned_digits all]
      exact ⟨some_, all, value⟩
    · exact ⟨some_, all, value⟩
  · rintro ⟨some_, all, value⟩
    refine ⟨unsigned chars, ?_, some_, all, value⟩
    unfold unsigned
    split
    · exact .inr rfl
    · exact .inl rfl

/-- **A text is read as the number of 64 bits that it spells.** -/
theorem natural?_eq_some_iff {chars : List Char} {n : Nat} :
    natural? chars = some n ↔ Spells chars n ∧ n < 2 ^ 64 := by
  have read : natural? chars =
      if (unsigned chars).isEmpty || !(unsigned chars).all Char.isDigit then none
      else if min (2 ^ 64) (Nat.ofDigitChars 10 (unsigned chars) 0) < 2 ^ 64 then
        some (min (2 ^ 64) (Nat.ofDigitChars 10 (unsigned chars) 0)) else none := by
    rw [← foldl_capped]
    by_cases signed : ∃ rest, chars = '+' :: rest
    · obtain ⟨rest, rfl⟩ := signed
      rfl
    · rw [unsigned_of_signless fun rest same => signed ⟨rest, same⟩]
      unfold natural?
      split
      · exact absurd ⟨_, rfl⟩ signed
      · rfl
  rw [read, spells_iff]
  generalize unsigned chars = digits
  -- nothing but digits spells a number, and the cap leaves every value below it as it is
  by_cases numeral : digits ≠ [] ∧ ∀ c ∈ digits, c.isDigit = true
  · have plain : ¬(digits.isEmpty || !digits.all Char.isDigit) = true := by simpa using numeral
    rw [if_neg plain]
    constructor
    · intro number
      split at number
      next small =>
        have same := Option.some.inj number
        exact ⟨⟨numeral.1, numeral.2, by omega⟩, by omega⟩
      · cases number
    · rintro ⟨⟨-, -, rfl⟩, small⟩
      rw [Nat.min_eq_right (Nat.le_of_lt small), if_pos small]
  · have strange : (digits.isEmpty || !digits.all Char.isDigit) = true := by
      by_contra plain
      exact numeral (by simpa using plain)
    rw [if_pos strange]
    constructor
    · intro number
      cases number
    · rintro ⟨⟨some_, all, -⟩, -⟩
      exact absurd ⟨some_, all⟩ numeral

/-- A text is read as no number exactly if it spells none of 64 bits. -/
theorem natural?_eq_none_iff {chars : List Char} :
    natural? chars = none ↔ ∀ n < 2 ^ 64, ¬Spells chars n := by
  rw [Option.eq_none_iff_forall_ne_some]
  refine forall_congr' fun n => ?_
  rw [ne_eq, natural?_eq_some_iff]
  tauto

/-! ## Names -/

/-- Two texts are the same up to the case of ASCII letters if they are the same in small ones. -/
theorem sameName_iff {left right : List Char} :
    sameName left right = true ↔ left.map Char.toLower = right.map Char.toLower := by
  induction left generalizing right with
  | nil => cases right <;> simp [sameName]
  | cons a left ih => cases right <;> simp [sameName, sameLetter, ih]

/-! ## Lines -/

/-- A line is text that gives a value for a name: without the blanks around it, it is cut at its
first colon, and there are no blanks around the name and the value. -/
structure Field (line : Bytes) (name value : List Char) : Prop where
  /-- The parts of the line. -/
  parts : ∃ chars before behind, Bytes.ofChars chars = line ∧
    Text.IsTrimmed chars (before ++ ':' :: behind) ∧ ':' ∉ before ∧
    Text.IsTrimmed before name ∧ Text.IsTrimmed behind value

/-- A name that gives the length of the body: `Content-Length` in any mix of cases. -/
def NamesLength (name : List Char) : Prop :=
  name.map Char.toLower = "content-length".toList

/-- `Means line h`: what a line consists of that says `h`. -/
inductive Means (line : Bytes) : HeaderLine → Prop where
  /-- It is not the written form of any text. -/
  | garbled (noText : ∀ chars, Bytes.ofChars chars ≠ line) : Means line .garbled
  /-- It holds blanks at most. -/
  | blank {chars : List Char} (text : Bytes.ofChars chars = line)
      (blanks : ∀ c ∈ chars, Text.isBlank c = true) : Means line .blank
  /-- It gives the length as a number of 64 bits. -/
  | length {name value : List Char} {n : Nat} (field : Field line name value)
      (named : NamesLength name) (spelled : Spells value n) (small : n < 2 ^ 64) :
      Means line (.length n)
  /-- It gives as the length something that spells no such number. -/
  | badLength {name value : List Char} (field : Field line name value) (named : NamesLength name)
      (unspelled : ∀ n < 2 ^ 64, ¬Spells value n) : Means line (.badLength (String.ofList value))
  /-- It holds more than blanks, and no colon. -/
  | plain {chars : List Char} (text : Bytes.ofChars chars = line)
      (some_ : ∃ c ∈ chars, Text.isBlank c = false) (plain : ':' ∉ chars) : Means line .other
  /-- It gives something for another name. -/
  | foreign {name value : List Char} (field : Field line name value)
      (other : ¬NamesLength name) : Means line .other

/-- A name is compared with the name of the length in small letters. -/
theorem sameName_lengthName {name : List Char} :
    sameName name lengthName = true ↔ NamesLength name := by
  have small : lengthName.map Char.toLower = "content-length".toList := by decide
  rw [sameName_iff, small]
  rfl

/-- A line that gives a value for a name is read as one. -/
theorem Field.ofBytes {line : Bytes} {name value : List Char} (field : Field line name value) :
    HeaderLine.ofBytes line =
      if sameName name lengthName then
        match natural? value with
        | some n => .length n
        | none => .badLength (String.ofList value)
      else .other := by
  obtain ⟨chars, before, behind, text, trimmed, first, ofName, ofValue⟩ := field.parts
  -- the colon of the field is the first one
  have others : ∀ c ∈ before, (c != ':') = true := by
    intro c hc
    simp only [bne_iff_ne, ne_eq]
    rintro rfl
    exact first hc
  have front : (before ++ ':' :: behind).takeWhile (· != ':') = before := by
    rw [List.takeWhile_append_of_pos others]
    simp
  have back : (before ++ ':' :: behind).dropWhile (· != ':') = ':' :: behind := by
    rw [List.dropWhile_append_of_pos others]
    simp
  have some_ : (before ++ ':' :: behind).isEmpty = false := by simp
  rw [HeaderLine.ofBytes, Utf8.chars?_eq_some_iff.mpr text]
  dsimp only
  unfold HeaderLine.ofChars
  rw [Text.trim_eq_iff.mpr trimmed]
  dsimp only
  rw [some_, front, back, Text.trim_eq_iff.mpr ofName]
  dsimp only
  rw [Text.trim_eq_iff.mpr ofValue]
  rfl

section Text

variable {line : Bytes} {chars : List Char}

/-- A line of blanks is read as a blank one. -/
theorem ofBytes_of_blanks (text : Bytes.ofChars chars = line)
    (blanks : ∀ c ∈ chars, Text.isBlank c = true) : HeaderLine.ofBytes line = .blank := by
  rw [HeaderLine.ofBytes, Utf8.chars?_eq_some_iff.mpr text]
  dsimp only
  rw [HeaderLine.ofChars, Text.trim_eq_nil_iff.mpr blanks]
  rfl

/-- A line without a colon is passed over. -/
theorem ofBytes_of_plain (text : Bytes.ofChars chars = line)
    (some_ : ∃ c ∈ chars, Text.isBlank c = false) (plain : ':' ∉ chars) :
    HeaderLine.ofBytes line = .other := by
  have left : Text.trim chars ≠ [] := by
    intro empty
    obtain ⟨c, hc, dark⟩ := some_
    rw [Text.trim_eq_nil_iff.mp empty c hc] at dark
    cases dark
  have behind : (Text.trim chars).dropWhile (· != ':') = [] := by
    rw [List.dropWhile_eq_nil_iff]
    intro c hc
    rw [bne_iff_ne]
    rintro rfl
    exact plain ((Text.mem_trim_iff (by decide)).mp hc)
  rw [HeaderLine.ofBytes, Utf8.chars?_eq_some_iff.mpr text]
  dsimp only
  unfold HeaderLine.ofChars
  dsimp only
  rw [if_neg (by simpa using left), behind]

/-- Text is blank, or has no colon, or gives a value for a name. -/
theorem text_cases (text : Bytes.ofChars chars = line) :
    (∀ c ∈ chars, Text.isBlank c = true) ∨
      ((∃ c ∈ chars, Text.isBlank c = false) ∧ ':' ∉ chars) ∨
        ∃ name value, Field line name value := by
  by_cases named : ':' ∈ chars
  · have kept := (Text.mem_trim_iff (by decide : Text.isBlank ':' = false)).mpr named
    obtain ⟨before, behind, split, first⟩ := List.eq_append_cons_of_mem kept
    exact .inr (.inr ⟨_, _, ⟨chars, before, behind, text, split ▸ Text.isTrimmed_trim chars, first,
      Text.isTrimmed_trim before, Text.isTrimmed_trim behind⟩⟩)
  · by_cases blanks : ∀ c ∈ chars, Text.isBlank c = true
    · exact .inl blanks
    · refine .inr (.inl ⟨?_, named⟩)
      simpa using blanks

end Text

/-- A line means what it is read as. -/
theorem means_ofBytes (line : Bytes) : Means line (HeaderLine.ofBytes line) := by
  cases read : Utf8.chars? line with
  | none =>
      rw [HeaderLine.ofBytes, read]
      exact .garbled (Utf8.chars?_eq_none_iff.mp read)
  | some chars =>
      have text := Utf8.chars?_eq_some_iff.mp read
      rcases text_cases text with blanks | ⟨some_, plain⟩ | ⟨name, value, field⟩
      · rw [ofBytes_of_blanks text blanks]
        exact .blank text blanks
      · rw [ofBytes_of_plain text some_ plain]
        exact .plain text some_ plain
      · rw [field.ofBytes]
        by_cases named : NamesLength name
        · rw [if_pos (sameName_lengthName.mpr named)]
          cases number : natural? value with
          | none => exact .badLength field named (natural?_eq_none_iff.mp number)
          | some n =>
              obtain ⟨spelled, small⟩ := natural?_eq_some_iff.mp number
              exact .length field named spelled small
        · rw [if_neg (mt sameName_lengthName.mp named)]
          exact .foreign field named

/-- **A line means what it is read as**, and nothing else. -/
theorem means_iff {line : Bytes} {h : HeaderLine} : Means line h ↔ HeaderLine.ofBytes line = h := by
  constructor
  · intro means
    cases means with
    | garbled noText => rw [HeaderLine.ofBytes, Utf8.chars?_eq_none_iff.mpr noText]
    | blank text blanks => exact ofBytes_of_blanks text blanks
    | length field named spelled small =>
        rw [field.ofBytes, if_pos (sameName_lengthName.mpr named),
          natural?_eq_some_iff.mpr ⟨spelled, small⟩]
    | badLength field named unspelled =>
        rw [field.ofBytes, if_pos (sameName_lengthName.mpr named),
          natural?_eq_none_iff.mpr unspelled]
    | plain text some_ plain => exact ofBytes_of_plain text some_ plain
    | foreign field other => rw [field.ofBytes, if_neg (mt sameName_lengthName.mp other)]
  · rintro rfl
    exact means_ofBytes line

end Frame

end ToolingHost
