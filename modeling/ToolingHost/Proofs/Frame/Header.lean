import Mathlib.Algebra.Group.Nat.Defs
import ToolingHost.Frame.Header
import ToolingHost.Proofs.Text.Ascii

/-! # The header that is written, as it is read

The header of a message is one line that gives the length of its body, and a blank line. The line is
written in decimal digits, and read back as that length as long as it has 64 bits (`ofBytes_line`);
the blank line is read as one also without its line feed (`ofBytes_lone`), which the reader sees
when the stream ends there. -/

namespace ToolingHost.Frame

/-! ## Decimal digits -/

/-- Digits that are read one after the other give their number, or the least number that is too
great. -/
theorem foldl_capped (digits : List Char) :
    digits.foldl (fun n c => min (2 ^ 64) (n * 10 + (c.toNat - '0'.toNat))) 0 =
      min (2 ^ 64) (Nat.ofDigitChars 10 digits 0) := by
  have all (n : Nat) :
      digits.foldl (fun n c => min (2 ^ 64) (n * 10 + (c.toNat - '0'.toNat))) (min (2 ^ 64) n) =
        min (2 ^ 64) (Nat.ofDigitChars 10 digits n) := by
    induction digits generalizing n with
    | nil => rfl
    | cons c rest ih =>
        -- a number that is too great stays so
        have step : min (2 ^ 64) (min (2 ^ 64) n * 10 + (c.toNat - '0'.toNat)) =
            min (2 ^ 64) (10 * n + (c.toNat - '0'.toNat)) := by omega
        rw [List.foldl_cons, step, ih, Nat.ofDigitChars_cons]
  exact all 0

/-- The digits of a number, read one after the other, give the number, or the least number that is
too great. -/
theorem foldl_toDigits (n : Nat) :
    (Nat.toDigits 10 n).foldl
      (fun n c => min (2 ^ 64) (n * 10 + (c.toNat - '0'.toNat))) 0 = min (2 ^ 64) n := by
  rw [foldl_capped, Nat.ofDigitChars_toDigits (by decide) (by decide)]

/-- A digit is an ASCII character, no blank and no line feed, and no sign. -/
theorem digit_spec {c : Char} (digit : c.isDigit = true) :
    c.toNat < 128 ∧ Text.isBlank c = false ∧ c ≠ '+' := by
  rw [Char.isDigit, Bool.and_eq_true, decide_eq_true_eq, decide_eq_true_eq] at digit
  obtain ⟨low, high⟩ := digit
  rw [ge_iff_le, UInt32.le_iff_toNat_le] at low
  rw [UInt32.le_iff_toNat_le] at high
  have zero : 48 ≤ c.toNat := low
  have nine : c.toNat ≤ 57 := high
  refine ⟨by omega, ?_, ?_⟩
  · simp only [Text.isBlank, Bool.or_eq_false_iff, Bool.and_eq_false_iff, decide_eq_false_iff_not,
      beq_eq_false_iff_ne]
    omega
  · rintro rfl
    exact absurd zero (by decide)

/-- The digits of a number. -/
abbrev digits (n : Nat) : List Char := Nat.toDigits 10 n

/-- A number is written in its digits. -/
theorem toList_toString (n : Nat) : (toString n).toList = digits n := by
  simp [toString, Nat.repr]

/-- Every character of a number is a digit. -/
theorem isDigit_of_mem {n : Nat} {c : Char} (hc : c ∈ digits n) : c.isDigit = true :=
  Nat.isDigit_of_mem_toDigits (by decide) (by decide) hc

/-- A number is written in ASCII characters. -/
theorem ascii_digits (n : Nat) : Ascii (digits n) := fun _ hc => (digit_spec (isDigit_of_mem hc)).1

/-- Without a sign, a text is read as its digits. -/
theorem natural?_of_unsigned {chars : List Char} (unsigned : '+' ∉ chars) :
    natural? chars =
      if chars.isEmpty || !chars.all Char.isDigit then none
      else
        let n := chars.foldl (fun n c => min (2 ^ 64) (n * 10 + (c.toNat - '0'.toNat))) 0
        if n < 2 ^ 64 then some n else none := by
  unfold natural?
  split
  · exact absurd List.mem_cons_self unsigned
  · rfl

/-- **A number of 64 bits is read back from its digits**, and a greater one is not read. -/
theorem natural?_digits (n : Nat) : natural? (digits n) = if n < 2 ^ 64 then some n else none := by
  have unsigned : '+' ∉ digits n := fun sign => (digit_spec (isDigit_of_mem sign)).2.2 rfl
  have some_ : (digits n).isEmpty = false := by
    rw [List.isEmpty_eq_false_iff]
    exact Nat.toDigits_ne_nil
  have all : (digits n).all Char.isDigit = true :=
    List.all_eq_true.mpr fun c hc => isDigit_of_mem hc
  rw [natural?_of_unsigned unsigned, some_, all, foldl_toDigits, if_neg (by decide)]
  dsimp only
  by_cases small : n < 2 ^ 64
  · have same : min (2 ^ 64) n = n := by omega
    rw [same]
  · have top : min (2 ^ 64) n = 2 ^ 64 := by omega
    rw [top, if_neg small, if_neg (Nat.lt_irrefl _)]

/-- The digits of a number have no blank at either end. -/
theorem trimBack_digits (front : List Char) (n : Nat) :
    Text.trimBack (front ++ digits n) = front ++ digits n := by
  obtain ⟨rest, last, split⟩ := List.eq_nil_or_concat (digits n) |>.resolve_left Nat.toDigits_ne_nil
  have dark : Text.isBlank last = false :=
    (digit_spec (isDigit_of_mem (by rw [split]; simp))).2.1
  rw [split, List.concat_eq_append, ← List.append_assoc]
  exact Text.trimBack_concat dark _

/-- The digits of a number are not trimmed. -/
theorem trim_digits (n : Nat) : Text.trim (digits n) = digits n := by
  cases split : digits n with
  | nil => exact absurd split Nat.toDigits_ne_nil
  | cons first rest =>
      have dark : Text.isBlank first = false :=
        (digit_spec (isDigit_of_mem (by rw [split]; exact List.mem_cons_self))).2.1
      rw [Text.trim_cons dark, ← split]
      exact trimBack_digits [] n

/-! ## Lines -/

/-- The line that gives the length of a body, without its end. -/
def lengthText (n : Nat) : List Char := lengthName ++ ':' :: ' ' :: digits n

/-- The bytes of that line, without its line feed. -/
def lengthLine (n : Nat) : Bytes := Bytes.ofChars (lengthText n ++ ['\r'])

/-- The carriage return, which is a blank line by itself. -/
def carriageReturn : UInt8 := 13

/-- The header is the line that gives the length, and a blank line. -/
theorem header_eq (n : Nat) :
    header n = lengthLine n ++ lineFeed :: [carriageReturn, lineFeed] := by
  have ends : Bytes.ofString "\r\n\r\n" =
      Bytes.ofChars ['\r'] ++ lineFeed :: [carriageReturn, lineFeed] := rfl
  have name : Bytes.ofString "Content-Length: " = Bytes.ofChars (lengthName ++ [':', ' ']) := rfl
  have number : Bytes.ofString (toString n) = Bytes.ofChars (digits n) := by
    rw [Bytes.ofString, toList_toString]
  rw [header, ends, name, number, lengthLine, lengthText]
  simp

/-- The line is made of ASCII characters. -/
theorem ascii_lengthText (n : Nat) : Ascii (lengthText n) := by
  have name : Ascii (lengthName ++ [':', ' ']) := ascii_of_all rfl
  have text : lengthText n = (lengthName ++ [':', ' ']) ++ digits n := by simp [lengthText]
  rw [text, ascii_append]
  exact ⟨name, ascii_digits n⟩

/-- The line holds no line feed. -/
theorem lineFeed_notMem_lengthLine (n : Nat) : lineFeed ∉ lengthLine n := by
  have ascii : Ascii (lengthText n ++ ['\r']) := by simpa using ascii_lengthText n
  rw [lengthLine, Bytes.ofChars_of_ascii ascii]
  intro h
  obtain ⟨c, hc, value⟩ := List.mem_map.mp h
  have feed : c.toNat = 10 := by
    rw [← Bytes.toNat_byte (ascii c hc), value]
    rfl
  have text : lengthText n ++ ['\r'] = (lengthName ++ [':', ' ']) ++ digits n ++ ['\r'] := by
    simp [lengthText]
  -- neither the name, nor a digit, nor the carriage return is a line feed
  rw [text, List.mem_append, List.mem_append] at hc
  rcases hc with (hc | hc) | hc
  · have others : (lengthName ++ [':', ' ']).all (fun c => c.toNat != 10) = true := rfl
    simpa [feed] using List.all_eq_true.mp others c hc
  · have dark := (digit_spec (isDigit_of_mem hc)).2.1
    simp [Text.isBlank, feed] at dark
  · rw [List.mem_singleton.mp hc] at feed
    exact absurd feed (by decide)

/-- **The line that gives a length of 64 bits is read as that.** -/
theorem ofChars_lengthText {n : Nat} (small : n < 2 ^ 64) :
    HeaderLine.ofChars (lengthText n ++ ['\r', '\n']) = .length n := by
  -- the line ends in blanks, and its value starts with one
  have trimmed : Text.trim (lengthText n ++ ['\r', '\n']) = lengthText n := by
    have dark : Text.isBlank 'C' = false := by decide
    have text : lengthText n = (lengthName ++ [':', ' ']) ++ digits n := by simp [lengthText]
    calc Text.trim (lengthText n ++ ['\r', '\n'])
        = Text.trimBack (lengthText n ++ ['\r'] ++ ['\n']) := by
          rw [List.append_assoc]
          exact Text.trim_cons dark _
      _ = Text.trimBack (lengthText n) := by
          rw [Text.trimBack_concat_of_blank (by decide), Text.trimBack_concat_of_blank (by decide)]
      _ = lengthText n := by
          rw [text, trimBack_digits]
  have value : Text.trim (' ' :: digits n) = digits n := by
    rw [Text.trim_cons_of_blank (by decide), trim_digits]
  have behind : (lengthText n).dropWhile (· != ':') = ':' :: ' ' :: digits n := rfl
  have before : (lengthText n).takeWhile (· != ':') = lengthName := rfl
  have name : sameName (Text.trim lengthName) lengthName = true := by decide
  have some_ : (lengthText n).isEmpty = false := rfl
  have number : natural? (digits n) = some n := by rw [natural?_digits, if_pos small]
  unfold HeaderLine.ofChars
  rw [trimmed]
  simp [some_, behind, before, name, value, number]

/-- The bytes of the line are read as its text. -/
theorem ofBytes_lengthLine {n : Nat} (small : n < 2 ^ 64) :
    HeaderLine.ofBytes (lengthLine n ++ [lineFeed]) = .length n := by
  have whole : lengthLine n ++ [lineFeed] = Bytes.ofChars (lengthText n ++ ['\r', '\n']) := by
    rw [lengthLine, show ['\r', '\n'] = ['\r'] ++ ['\n'] from rfl, ← List.append_assoc,
      Bytes.ofChars_append _ ['\n']]
    rfl
  have ascii : Ascii (lengthText n ++ ['\r', '\n']) := by simpa using ascii_lengthText n
  rw [whole, HeaderLine.ofBytes, Utf8.chars?_ofChars ascii]
  exact ofChars_lengthText small

/-- A carriage return and a line feed are a blank line. -/
theorem ofBytes_blank : HeaderLine.ofBytes [carriageReturn, lineFeed] = .blank := by decide

/-- A carriage return alone is a blank line. -/
theorem ofBytes_lone : HeaderLine.ofBytes [carriageReturn] = .blank := by decide

end ToolingHost.Frame
