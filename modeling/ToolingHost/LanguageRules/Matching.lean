import ToolingHost.LanguageRules.Pattern
import ToolingHost.Text.Classes

/-! # What patterns match

A pattern is matched from a place in a text on. `Pattern.rests` gives what may be left of the text
behind a match that starts there, and `Pattern.isMatch` asks whether the pattern matches from any
place. The start and the end of the text are those of the whole text, also where it has several
lines.

Which characters are digits, and which belong to words, depends on the version of Unicode that a
host follows; both classes are a parameter. -/

namespace ToolingHost.LanguageRules

/-- The classes of characters that a host decides about. -/
structure CharClasses where
  /-- What counts as a decimal digit. -/
  digit : Char → Bool
  /-- What counts as a character of words. -/
  word : Char → Bool

/-- Whether a character is in a set. -/
def CharSet.contains (classes : CharClasses) : CharSet → Char → Bool
  | .any, c => c != '\n'
  | .blank, c => Text.isBlank c
  | .digit, c => classes.digit c
  | .word, c => classes.word c
  | .only d, c => c == d
  | .noneOf chars orBlank, c => !chars.contains c && !(orBlank && Text.isBlank c)

namespace Pattern

/-- What may be left of a text behind any number of matches, each of which leaves what `step` says.
A match of the empty text changes nothing, so at most as many of them count as the text has
characters. -/
def repeated (step : List Char → List (List Char)) : (count : Nat) → List Char → List (List Char)
  | 0, text => [text]
  | count + 1, text =>
    text :: ((step text).filter (·.length < text.length)).flatMap (repeated step count)

/-- What may be left behind a match that starts at the front of `text`, which is the end of a text
of `size` characters. -/
def rests (classes : CharClasses) (size : Nat) : Pattern → List Char → List (List Char)
  | .empty, text => [text]
  | .start, text => if text.length = size then [text] else []
  | .finish, text => if text.isEmpty then [text] else []
  | .one set, text =>
    match text with
    | [] => []
    | c :: rest => if set.contains classes c then [rest] else []
  | .seq first second, text => (rests classes size first text).flatMap (rests classes size second)
  | .either left right, text => rests classes size left text ++ rests classes size right text
  | .group body, text => rests classes size body text
  | .optional body, text => rests classes size body text ++ [text]
  | .many body, text => repeated (rests classes size body) text.length text
  | .many1 body, text =>
    (rests classes size body text).flatMap fun rest =>
      repeated (rests classes size body) rest.length rest

/-- Whether a pattern matches from some place on in `text`, the end of a text of `size` characters.
-/
def matchesWithin (classes : CharClasses) (size : Nat) (p : Pattern) : List Char → Bool
  | [] => !(rests classes size p []).isEmpty
  | c :: rest => !(rests classes size p (c :: rest)).isEmpty || matchesWithin classes size p rest

/-- Whether a pattern matches a text. -/
def isMatch (classes : CharClasses) (p : Pattern) (text : List Char) : Bool :=
  matchesWithin classes text.length p text

section Rests

variable {classes : CharClasses} {size : Nat} {text rest : List Char}

/-- The empty pattern leaves everything. -/
@[simp] theorem mem_rests_empty : rest ∈ rests classes size .empty text ↔ rest = text :=
  List.mem_singleton

/-- The start of the text is where nothing of it is gone. -/
@[simp] theorem mem_rests_start :
    rest ∈ rests classes size .start text ↔ text.length = size ∧ rest = text := by
  by_cases whole : text.length = size <;> simp [rests, whole]

/-- The end of the text is where nothing is left. -/
@[simp] theorem mem_rests_finish :
    rest ∈ rests classes size .finish text ↔ text = [] ∧ rest = [] := by
  cases text <;> simp [rests]

/-- A set takes one of its characters. -/
@[simp] theorem mem_rests_one {set : CharSet} :
    rest ∈ rests classes size (.one set) text ↔
      ∃ c, set.contains classes c = true ∧ text = c :: rest := by
  cases text with
  | nil => simp [rests]
  | cons c rest' =>
      rw [rests]
      split
      next has =>
        rw [List.mem_singleton]
        constructor
        · rintro rfl
          exact ⟨c, has, rfl⟩
        · rintro ⟨d, -, same⟩
          cases same
          rfl
      next lacks =>
        constructor
        · nofun
        · rintro ⟨d, has, same⟩
          cases same
          exact absurd has lacks

/-- The second of two patterns goes on where the first has ended. -/
@[simp] theorem mem_rests_seq {first second : Pattern} :
    rest ∈ rests classes size (.seq first second) text ↔
      ∃ between, between ∈ rests classes size first text ∧
        rest ∈ rests classes size second between :=
  List.mem_flatMap

/-- Either of two patterns may match. -/
@[simp] theorem mem_rests_either {left right : Pattern} :
    rest ∈ rests classes size (.either left right) text ↔
      rest ∈ rests classes size left text ∨ rest ∈ rests classes size right text :=
  List.mem_append

/-- Parentheses mean nothing. -/
@[simp] theorem mem_rests_group {body : Pattern} :
    rest ∈ rests classes size (.group body) text ↔ rest ∈ rests classes size body text :=
  Iff.rfl

/-- What is optional may also leave everything. -/
@[simp] theorem mem_rests_optional {body : Pattern} :
    rest ∈ rests classes size (.optional body) text ↔
      rest ∈ rests classes size body text ∨ rest = text :=
  List.mem_append.trans (or_congr_right List.mem_singleton)

/-- An empty sequence leaves everything. -/
@[simp] theorem mem_rests_all_nil : rest ∈ rests classes size (all []) text ↔ rest = text :=
  mem_rests_empty

/-- A sequence matches one pattern after the other. -/
@[simp] theorem mem_rests_all_cons {p : Pattern} {parts : List Pattern} :
    rest ∈ rests classes size (all (p :: parts)) text ↔
      ∃ between, between ∈ rests classes size p text ∧
        rest ∈ rests classes size (all parts) between :=
  mem_rests_seq

/-- A character that stands for itself is taken from the front. -/
@[simp] theorem mem_rests_char {c : Char} :
    rest ∈ rests classes size (char c) text ↔ text = c :: rest := by
  simp [char, CharSet.contains]

/-- Any character that is not in a list is taken from the front. -/
@[simp] theorem mem_rests_noneOf {s : String} :
    rest ∈ rests classes size (noneOf s) text ↔ ∃ c, c ∉ s.toList ∧ text = c :: rest := by
  simp [noneOf, CharSet.contains]

/-- A text that stands for itself is taken from the front. -/
@[simp] theorem mem_rests_text {s : String} :
    rest ∈ rests classes size (Pattern.text s) text ↔ text = s.toList ++ rest := by
  unfold Pattern.text
  induction s.toList generalizing text with
  | nil => simp [eq_comm]
  | cons c chars ih =>
      rw [List.map_cons, mem_rests_all_cons]
      simp only [mem_rests_char, ih]
      constructor
      · rintro ⟨between, rfl, rfl⟩
        rfl
      · rintro rfl
        exact ⟨chars ++ rest, rfl, rfl⟩

end Rests

end Pattern

end ToolingHost.LanguageRules
