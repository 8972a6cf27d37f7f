import ToolingHost.Bytes

/-! # ASCII text as bytes

A text of ASCII characters has one byte for each of them, and the decoder reads these bytes back as
the characters that they came from (`chars?_ofChars`). -/

namespace ToolingHost

/-- Whether a text is made of ASCII characters. -/
def Ascii (chars : List Char) : Prop := ∀ c ∈ chars, c.toNat < 128

/-- The characters can be looked at one by one. -/
theorem ascii_of_all {chars : List Char} (all : chars.all (fun c => c.toNat < 128) = true) :
    Ascii chars := by
  intro c hc
  exact of_decide_eq_true (List.all_eq_true.mp all c hc)

/-- The empty text is made of ASCII characters. -/
@[simp] theorem ascii_nil : Ascii [] := by
  simp [Ascii]

/-- A text is made of ASCII characters if the first one and the rest are. -/
@[simp] theorem ascii_cons {c : Char} {rest : List Char} :
    Ascii (c :: rest) ↔ c.toNat < 128 ∧ Ascii rest := by
  simp [Ascii]

/-- Two texts of ASCII characters make one. -/
@[simp] theorem ascii_append {left right : List Char} :
    Ascii (left ++ right) ↔ Ascii left ∧ Ascii right := by
  simp [Ascii, or_imp, forall_and]

namespace Bytes

/-- An ASCII character is one byte. -/
theorem utf8EncodeChar_of_ascii {c : Char} (ascii : c.toNat < 128) :
    String.utf8EncodeChar c = [byte c] := by
  have small : c.utf8Size = 1 := by
    rw [Char.utf8Size_eq_one_iff, UInt32.le_iff_toNat_le]
    have bound : (127 : UInt32).toNat = 127 := rfl
    have value : c.toNat = c.val.toNat := rfl
    omega
  rw [String.utf8EncodeChar_eq_singleton small]
  rfl

/-- A text of ASCII characters has one byte for each. -/
theorem ofChars_of_ascii {chars : List Char} (ascii : Ascii chars) :
    ofChars chars = chars.map byte := by
  induction chars with
  | nil => rfl
  | cons c rest ih =>
      rw [ascii_cons] at ascii
      rw [ofChars_cons, utf8EncodeChar_of_ascii ascii.1, ih ascii.2]
      rfl

/-- The byte of an ASCII character has the value of the character. -/
theorem toNat_byte {c : Char} (ascii : c.toNat < 128) : (byte c).toNat = c.toNat := by
  unfold byte
  simp only [Nat.toUInt8_eq, UInt8.toNat_ofNat']
  omega

end Bytes

namespace Utf8

/-- The decoder takes an ASCII character for what it is. -/
theorem step_byte {c : Char} (ascii : c.toNat < 128) :
    step none (Bytes.byte c) = (none, [.char c]) := by
  have value := Bytes.toNat_byte ascii
  have small : Bytes.byte c < 0x80 := by
    rw [UInt8.lt_iff_toNat_lt, value]
    exact ascii
  simp only [step, start, if_pos small, value, Char.ofNat_toNat]

/-- ASCII characters are decoded one after the other. -/
theorem scan_ascii {chars : List Char} (ascii : Ascii chars) (found : List Piece) :
    scan found none (chars.map Bytes.byte) = found.reverse ++ chars.map .char := by
  induction chars generalizing found with
  | nil => simp [scan]
  | cons c rest ih =>
      rw [ascii_cons] at ascii
      rw [List.map_cons, scan, step_byte ascii.1]
      dsimp only
      rw [ih ascii.2]
      simp

/-- **ASCII text is read back from its bytes.** -/
theorem chars?_ofChars {chars : List Char} (ascii : Ascii chars) :
    chars? (Bytes.ofChars chars) = some chars := by
  have all : pieces (Bytes.ofChars chars) = chars.map .char := by
    rw [pieces, Bytes.ofChars_of_ascii ascii, scan_ascii ascii]
    rfl
  have whole : (chars.map Piece.char).all Piece.isChar = true := by simp [Piece.isChar]
  rw [chars?, all, if_pos whole, List.filterMap_map]
  simp [Function.comp_def, Piece.char?]

end Utf8

end ToolingHost
