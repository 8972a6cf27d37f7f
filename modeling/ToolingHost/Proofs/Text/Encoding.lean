import Mathlib.Data.FinEnum
import Mathlib.Tactic.NormNum
import ToolingHost.Proofs.Text.Ascii
import ToolingHost.Proofs.Text.Utf8

/-! # Which bytes are text

The decoder takes nothing from a byte string and adds nothing to it: its pieces, written one after
the other, are the bytes (`written_pieces`). A character that is read is written as the bytes that
it was read from, which `Genuine` says of a character while it is open, and a character that was
written is read again (`scan_encoded`). So a byte string is text exactly if it is the written form
of some characters, and these are its characters (`chars?_eq_some_iff`). -/

namespace ToolingHost.Utf8

/-! ## Characters in digits of six bits -/

/-- The bytes that continue a character: the last `n` digits of its value. -/
def continuation : (n v : Nat) → Bytes
  | 0, _ => []
  | n + 1, v => UInt8.ofNat (128 + v / 64 ^ n % 64) :: continuation n v

/-- A character has its value. -/
theorem toNat_val_ofNat {v : Nat} (valid : v.isValidChar) : (Char.ofNat v).val.toNat = v := by
  rw [Char.ofNat, dif_pos valid]
  rfl

/-- The written form of a character of two bytes. -/
theorem encode_two {v : Nat} (low : 128 ≤ v) (high : v < 2048) :
    String.utf8EncodeChar (Char.ofNat v) = UInt8.ofNat (192 + v / 64) :: continuation 1 v := by
  have lead : v / 64 % 32 + 192 = 192 + v / 64 := by omega
  have last : v % 64 + 128 = 128 + v % 64 := Nat.add_comm ..
  unfold String.utf8EncodeChar
  rw [toNat_val_ofNat (.inl (by omega))]
  dsimp only
  rw [if_neg (by omega), if_pos (by omega)]
  simp [continuation, lead, last]

/-- The written form of a character of three bytes. -/
theorem encode_three {v : Nat} (low : 2048 ≤ v) (high : v < 65536) (valid : v.isValidChar) :
    String.utf8EncodeChar (Char.ofNat v) = UInt8.ofNat (224 + v / 4096) :: continuation 2 v := by
  have lead : v / 4096 % 16 + 224 = 224 + v / 4096 := by omega
  have second : v / 64 % 64 + 128 = 128 + v / 64 % 64 := Nat.add_comm ..
  have last : v % 64 + 128 = 128 + v % 64 := Nat.add_comm ..
  unfold String.utf8EncodeChar
  rw [toNat_val_ofNat valid]
  dsimp only
  rw [if_neg (by omega), if_neg (by omega), if_pos (by omega)]
  simp [continuation, lead, second, last]

/-- The written form of a character of four bytes. -/
theorem encode_four {v : Nat} (low : 65536 ≤ v) (high : v < 1114112) :
    String.utf8EncodeChar (Char.ofNat v) = UInt8.ofNat (240 + v / 262144) :: continuation 3 v := by
  have lead : v / 262144 % 8 + 240 = 240 + v / 262144 := by omega
  have second : v / 4096 % 64 + 128 = 128 + v / 4096 % 64 := Nat.add_comm ..
  have third : v / 64 % 64 + 128 = 128 + v / 64 % 64 := Nat.add_comm ..
  have last : v % 64 + 128 = 128 + v % 64 := Nat.add_comm ..
  unfold String.utf8EncodeChar
  rw [toNat_val_ofNat (.inr ⟨by omega, high⟩)]
  dsimp only
  rw [if_neg (by omega), if_neg (by omega), if_neg (by omega)]
  simp [continuation, lead, second, third, last]

/-! ## First bytes -/

/-- A byte below 128 is a character. -/
theorem start_one {b : UInt8} (high : b.toNat < 128) :
    start b = (none, [.char (Char.ofNat b.toNat)]) :=
  if_pos (UInt8.lt_iff_toNat_lt.mpr high)

/-- The bytes that begin a character of two. -/
theorem start_two : ∀ b : UInt8, 194 ≤ b.toNat → b.toNat < 224 →
    start b = (some ⟨[b], b.toNat - 192, 1, 0x80, 0xBF⟩, []) := by
  decide +kernel

/-- The bytes that begin a character of three; a second byte that would make it overlong, or a
surrogate, is not waited for. -/
theorem start_three : ∀ b : UInt8, 224 ≤ b.toNat → b.toNat < 240 →
    start b = (some ⟨[b], b.toNat - 224, 2, if b.toNat = 224 then 0xA0 else 0x80,
      if b.toNat = 237 then 0x9F else 0xBF⟩, []) := by
  decide +kernel

/-- The bytes that begin a character of four; a second byte that would make it overlong, or too
great, is not waited for. -/
theorem start_four : ∀ b : UInt8, 240 ≤ b.toNat → b.toNat < 245 →
    start b = (some ⟨[b], b.toNat - 240, 3, if b.toNat = 240 then 0x90 else 0x80,
      if b.toNat = 244 then 0x8F else 0xBF⟩, []) := by
  decide +kernel

/-- The other bytes begin no character. -/
theorem start_stray : ∀ b : UInt8, 128 ≤ b.toNat → b.toNat < 194 ∨ 245 ≤ b.toNat →
    start b = (none, [.stray [b]]) := by
  decide +kernel

/-! ## Characters that are open -/

/-- The character with a value may be the one that is open: its digits so far are those that have
been seen, and the next one is waited for. -/
structure Begins (s : Sequence) (v : Nat) : Prop where
  /-- The digits that have been seen. -/
  code : v / 64 ^ s.missing = s.code
  /-- The next one is not too small. -/
  low : s.low.toNat ≤ 128 + v / 64 ^ (s.missing - 1) % 64
  /-- Nor is it too great. -/
  high : 128 + v / 64 ^ (s.missing - 1) % 64 ≤ s.high.toNat

/-- Whatever an open character becomes, it is written as the bytes that have been seen and those
that are missing. -/
structure Genuine (s : Sequence) : Prop where
  /-- Bytes are missing. -/
  missing : 1 ≤ s.missing
  /-- The least next byte is one that continues a character. -/
  low : 128 ≤ s.low.toNat
  /-- So is the greatest. -/
  high : s.high.toNat < 192
  /-- The characters that it may become are written like that. -/
  spelled : ∀ v, Begins s v →
    String.utf8EncodeChar (Char.ofNat v) = s.seen.reverse ++ continuation s.missing v

namespace Genuine

variable {b : UInt8} {s : Sequence}

/-- A character of two bytes, after its first one. -/
theorem two (low : 194 ≤ b.toNat) (high : b.toNat < 224) :
    Genuine ⟨[b], b.toNat - 192, 1, 0x80, 0xBF⟩ where
  missing := Nat.le_refl 1
  low := Nat.le_refl 128
  high := Nat.lt_succ_self 191
  spelled := by
    rintro v ⟨code, -, -⟩
    dsimp only at code
    have lead : 192 + v / 64 = b.toNat := by omega
    rw [encode_two (by omega) (by omega), lead, UInt8.ofNat_toNat]
    rfl

/-- A character of three bytes, after its first one. -/
theorem three (low : 224 ≤ b.toNat) (high : b.toNat < 240) :
    Genuine ⟨[b], b.toNat - 224, 2, if b.toNat = 224 then 0xA0 else 0x80,
      if b.toNat = 237 then 0x9F else 0xBF⟩ where
  missing := Nat.succ_le_succ (Nat.zero_le 1)
  low := by dsimp only; split <;> decide
  high := by dsimp only; split <;> decide
  spelled := by
    rintro v ⟨code, least, greatest⟩
    dsimp only at code least greatest
    have lead : 224 + v / 4096 = b.toNat := by omega
    -- the second byte keeps the value away from the shorter characters and from the surrogates
    have long : 2048 ≤ v := by
      by_cases first : b.toNat = 224
      · rw [if_pos first] at least
        have bound : (0xA0 : UInt8).toNat = 160 := rfl
        omega
      · omega
    have proper : v < 55296 ∨ 57343 < v := by
      by_cases surrogate : b.toNat = 237
      · rw [if_pos surrogate] at greatest
        have bound : (0x9F : UInt8).toNat = 159 := rfl
        omega
      · omega
    have valid : v.isValidChar := by
      rcases proper with small | large
      · exact .inl small
      · exact .inr ⟨large, by omega⟩
    rw [encode_three long (by omega) valid, lead, UInt8.ofNat_toNat]
    rfl

/-- A character of four bytes, after its first one. -/
theorem four (low : 240 ≤ b.toNat) (high : b.toNat < 245) :
    Genuine ⟨[b], b.toNat - 240, 3, if b.toNat = 240 then 0x90 else 0x80,
      if b.toNat = 244 then 0x8F else 0xBF⟩ where
  missing := Nat.succ_le_succ (Nat.zero_le 2)
  low := by dsimp only; split <;> decide
  high := by dsimp only; split <;> decide
  spelled := by
    rintro v ⟨code, least, greatest⟩
    dsimp only at code least greatest
    have lead : 240 + v / 262144 = b.toNat := by omega
    -- the second byte keeps the value away from the shorter characters, and below the last one
    have long : 65536 ≤ v := by
      by_cases first : b.toNat = 240
      · rw [if_pos first] at least
        have bound : (0x90 : UInt8).toNat = 144 := rfl
        omega
      · omega
    have small : v < 1114112 := by
      by_cases last : b.toNat = 244
      · rw [if_pos last] at greatest
        have bound : (0x8F : UInt8).toNat = 143 := rfl
        omega
      · omega
    rw [encode_four long small, lead, UInt8.ofNat_toNat]
    rfl

/-- A byte that continues the open character is a digit. -/
theorem digit (genuine : Genuine s) (low : s.low ≤ b) (high : b ≤ s.high) :
    128 ≤ b.toNat ∧ b.toNat < 192 ∧ (b - 0x80).toNat = b.toNat - 128 := by
  have least := Nat.le_trans genuine.low (UInt8.le_iff_toNat_le.mp low)
  have greatest := Nat.lt_of_le_of_lt (UInt8.le_iff_toNat_le.mp high) genuine.high
  have bits := UInt8.toNat_sub_of_le b 0x80 (UInt8.le_iff_toNat_le.mpr least)
  exact ⟨least, greatest, bits⟩

/-- The last byte makes the character that is written as the bytes that have been seen. -/
theorem last (genuine : Genuine s) (one : s.missing = 1) (low : s.low ≤ b) (high : b ≤ s.high) :
    String.utf8EncodeChar (Char.ofNat (s.code * 64 + (b - 0x80).toNat)) =
      s.seen.reverse ++ [b] := by
  obtain ⟨least, greatest, bits⟩ := genuine.digit low high
  rw [UInt8.le_iff_toNat_le] at low high
  rw [bits]
  have begins : Begins s (s.code * 64 + (b.toNat - 128)) := by
    constructor <;> rw [one] <;> omega
  have value : 128 + (s.code * 64 + (b.toNat - 128)) / 64 ^ 0 % 64 = b.toNat := by omega
  rw [genuine.spelled _ begins, one, continuation, value, UInt8.ofNat_toNat]
  rfl

/-- After another byte the character is still written as the bytes that have been seen. -/
theorem next {n : Nat} (genuine : Genuine s) (more : s.missing = n + 2) (low : s.low ≤ b)
    (high : b ≤ s.high) :
    Genuine ⟨b :: s.seen, s.code * 64 + (b - 0x80).toNat, n + 1, 0x80, 0xBF⟩ where
  missing := Nat.succ_le_succ (Nat.zero_le n)
  low := Nat.le_refl 128
  high := Nat.lt_succ_self 191
  spelled := by
    rintro v ⟨code, -, -⟩
    obtain ⟨least, greatest, bits⟩ := genuine.digit low high
    rw [UInt8.le_iff_toNat_le] at low high
    dsimp only at code
    rw [bits] at code
    -- the code is the number without the digits that are missing, of which this byte is the next
    have earlier : v / 64 ^ (n + 2) = s.code := by
      rw [Nat.pow_succ, ← Nat.div_div_eq_div_mul, code]
      omega
    have value : 128 + v / 64 ^ (n + 1) % 64 = b.toNat := by
      rw [code]
      omega
    have begins : Begins s v := by
      constructor
      · rw [more]
        exact earlier
      all_goals
        rw [more, Nat.add_sub_cancel (n + 1) 1, value]
        assumption
    rw [genuine.spelled v begins, more, continuation, value, UInt8.ofNat_toNat]
    simp

end Genuine

/-! ## The pieces are the bytes -/

/-- The bytes of a piece. -/
def Piece.written : Piece → Bytes
  | .char c => String.utf8EncodeChar c
  | .stray bytes => bytes

/-- The bytes of the character that is open. -/
def pending : Option Sequence → Bytes
  | none => []
  | some s => s.seen.reverse

/-- Nothing is open, or something that will be written as its bytes. -/
def Sound (o : Option Sequence) : Prop := ∀ s, o = some s → Genuine s

/-- A state in which no character is open is sound. -/
theorem sound_none : Sound none := by
  intro s h
  cases h

/-- Something is open that will be written as its bytes. -/
theorem sound_some {s : Sequence} (genuine : Genuine s) : Sound (some s) := by
  intro t h
  cases h
  exact genuine

/-- A byte between characters goes into a piece, or it is pending. -/
theorem start_written (b : UInt8) :
    ((start b).2.reverse.flatMap Piece.written ++ pending (start b).1 = [b]) ∧
      Sound (start b).1 := by
  have below : b.toNat < 256 := UInt8.toNat_lt b
  -- the first byte tells how many there are, or that it begins no character
  rcases Nat.lt_or_ge b.toNat 128 with one | multi
  · rw [start_one one]
    refine ⟨?_, sound_none⟩
    have ascii : (Char.ofNat b.toNat).toNat < 128 := by
      have value : (Char.ofNat b.toNat).toNat = b.toNat := toNat_val_ofNat (.inl (by omega))
      rw [value]
      exact one
    have same : Bytes.byte (Char.ofNat b.toNat) = b := by
      apply UInt8.toNat_inj.mp
      rw [Bytes.toNat_byte ascii]
      exact toNat_val_ofNat (.inl (by omega))
    simp [Piece.written, pending, Bytes.utf8EncodeChar_of_ascii ascii, same]
  · by_cases none_ : b.toNat < 194 ∨ 245 ≤ b.toNat
    · rw [start_stray b multi none_]
      exact ⟨rfl, sound_none⟩
    · rcases Nat.lt_or_ge b.toNat 224 with two | _
      · rw [start_two b (by omega) two]
        exact ⟨rfl, sound_some (Genuine.two (by omega) two)⟩
      · rcases Nat.lt_or_ge b.toNat 240 with three | _
        · rw [start_three b (by omega) three]
          exact ⟨rfl, sound_some (Genuine.three (by omega) three)⟩
        · rw [start_four b (by omega) (by omega)]
          exact ⟨rfl, sound_some (Genuine.four (by omega) (by omega))⟩

/-- A byte goes into a piece, or it is pending. -/
theorem step_written {o : Option Sequence} (sound : Sound o) (b : UInt8) :
    ((step o b).2.reverse.flatMap Piece.written ++ pending (step o b).1 = pending o ++ [b]) ∧
      Sound (step o b).1 := by
  cases o with
  | none => exact start_written b
  | some s =>
      have genuine := sound s rfl
      rw [step]
      dsimp only
      -- a byte that fits ends the character or leaves it open; any other one begins a new piece
      by_cases fits : s.low ≤ b ∧ b ≤ s.high
      · rw [if_pos fits]
        obtain ⟨low, high⟩ := fits
        obtain ⟨n, hn⟩ := Nat.exists_eq_add_of_le' genuine.missing
        cases n with
        | zero =>
            rw [if_pos (Nat.le_of_eq hn)]
            refine ⟨?_, sound_none⟩
            simpa [Piece.written, pending] using genuine.last hn low high
        | succ n =>
            have missing : s.missing - 1 = n + 1 := by omega
            rw [if_neg (by omega), missing]
            refine ⟨?_, sound_some (genuine.next hn low high)⟩
            simp [pending]
      · rw [if_neg fits]
        obtain ⟨written, later⟩ := start_written b
        refine ⟨?_, later⟩
        simpa [Piece.written, pending] using written

/-- The pieces that are read are the pending bytes and those that are read. -/
theorem scan_written {o : Option Sequence} (sound : Sound o) (bytes : Bytes) :
    (scan [] o bytes).flatMap Piece.written = pending o ++ bytes := by
  induction bytes generalizing o with
  | nil => cases o <;> simp [scan, pending, Piece.written]
  | cons b rest ih =>
      obtain ⟨written, later⟩ := step_written sound b
      have first : scan [] o (b :: rest) = (step o b).2.reverse ++ scan [] (step o b).1 rest := by
        rw [scan]
        simpa using scan_eq (step o b).2 (step o b).1 rest
      rw [first, List.flatMap_append, ih later, ← List.append_assoc, written]
      simp

/-- **The pieces of a byte string, one after the other, are the byte string.** -/
theorem written_pieces (bytes : Bytes) : (pieces bytes).flatMap Piece.written = bytes :=
  scan_written sound_none bytes

/-! ## What was written is read -/

/-- A byte with a digit carries it. -/
theorem toNat_continuation {d : Nat} (small : d < 64) :
    (UInt8.ofNat (128 + d)).toNat = 128 + d ∧ (UInt8.ofNat (128 + d) - 0x80).toNat = d := by
  have value : (UInt8.ofNat (128 + d)).toNat = 128 + d := by
    rw [UInt8.toNat_ofNat']
    omega
  refine ⟨value, ?_⟩
  rw [UInt8.toNat_sub_of_le _ _ (UInt8.le_iff_toNat_le.mpr (by
    rw [value]
    exact Nat.le_add_right 128 d)), value]
  exact Nat.add_sub_cancel_left 128 d

/-- The digit that an open character waits for is taken. -/
theorem step_digit {s : Sequence} {v : Nat} (begins : Begins s v) {n : Nat}
    (missing : s.missing = n + 1) :
    step (some s) (UInt8.ofNat (128 + v / 64 ^ n % 64)) =
      if n = 0 then (none, [.char (Char.ofNat v)])
      else
        (some ⟨UInt8.ofNat (128 + v / 64 ^ n % 64) :: s.seen, v / 64 ^ n, n, 0x80, 0xBF⟩, []) := by
  obtain ⟨code, low, high⟩ := begins
  rw [missing, Nat.add_sub_cancel] at low high
  obtain ⟨value, bits⟩ := toNat_continuation (Nat.mod_lt (v / 64 ^ n) (by decide : 0 < 64))
  have fits : s.low ≤ UInt8.ofNat (128 + v / 64 ^ n % 64) ∧
      UInt8.ofNat (128 + v / 64 ^ n % 64) ≤ s.high := by
    rw [UInt8.le_iff_toNat_le, UInt8.le_iff_toNat_le, value]
    exact ⟨low, high⟩
  have digits : s.code * 64 + v / 64 ^ n % 64 = v / 64 ^ n := by
    rw [← code, missing, Nat.pow_succ, ← Nat.div_div_eq_div_mul]
    omega
  rw [step]
  dsimp only
  rw [if_pos fits, bits, digits, missing, Nat.add_sub_cancel]
  by_cases last : n = 0
  · rw [if_pos last, if_pos (by omega), last, Nat.pow_zero, Nat.div_one]
  · rw [if_neg last, if_neg (by omega)]

/-- The digits that an open character waits for are read, and it is the character that it began. -/
theorem scan_continuation {s : Sequence} {v n : Nat} (missing : s.missing = n + 1)
    (begins : Begins s v) (found : List Piece) (rest : Bytes) :
    scan found (some s) (continuation (n + 1) v ++ rest) =
      scan (.char (Char.ofNat v) :: found) none rest := by
  induction n generalizing s with
  | zero =>
      rw [continuation, List.cons_append, scan, step_digit begins missing]
      rfl
  | succ n ih =>
      rw [continuation, List.cons_append, scan, step_digit begins missing,
        if_neg (Nat.succ_ne_zero n)]
      -- from the second digit on any byte that continues a character is waited for
      have digit := Nat.mod_lt (v / 64 ^ n) (by decide : 0 < 64)
      have greatest : 128 + v / 64 ^ n % 64 ≤ 191 := by omega
      exact ih rfl ⟨rfl, Nat.le_add_right 128 _, greatest⟩

/-- A first byte and the digits that it waits for are read. -/
theorem scan_of_start {b : UInt8} {s : Sequence} {v n : Nat} (first : start b = (some s, []))
    (missing : s.missing = n + 1) (begins : Begins s v) (found : List Piece) (rest : Bytes) :
    scan found none (b :: continuation (n + 1) v ++ rest) =
      scan (.char (Char.ofNat v) :: found) none rest := by
  rw [List.cons_append, scan, step, first]
  exact scan_continuation missing begins found rest

/-- A number below 256 is the value of its byte. -/
theorem toNat_ofNat_byte {n : Nat} (small : n < 256) : (UInt8.ofNat n).toNat = n := by
  rw [UInt8.toNat_ofNat']
  exact Nat.mod_eq_of_lt small

/-- A character of two bytes is read. -/
theorem scan_two {v : Nat} (low : 128 ≤ v) (high : v < 2048) (found : List Piece) (rest : Bytes) :
    scan found none (String.utf8EncodeChar (Char.ofNat v) ++ rest) =
      scan (.char (Char.ofNat v) :: found) none rest := by
  have lead : (UInt8.ofNat (192 + v / 64)).toNat = 192 + v / 64 := toNat_ofNat_byte (by omega)
  have code : v / 64 ^ 1 = (UInt8.ofNat (192 + v / 64)).toNat - 192 := by omega
  have greatest : 128 + v / 64 ^ 0 % 64 ≤ 191 := by omega
  rw [encode_two low high]
  exact scan_of_start (start_two _ (by omega) (by omega)) rfl
    ⟨code, Nat.le_add_right 128 _, greatest⟩ found rest

/-- A character of three bytes is read. -/
theorem scan_three {v : Nat} (low : 2048 ≤ v) (high : v < 65536) (valid : v.isValidChar)
    (found : List Piece) (rest : Bytes) :
    scan found none (String.utf8EncodeChar (Char.ofNat v) ++ rest) =
      scan (.char (Char.ofNat v) :: found) none rest := by
  have lead : (UInt8.ofNat (224 + v / 4096)).toNat = 224 + v / 4096 := toNat_ofNat_byte (by omega)
  have code : v / 64 ^ 2 = (UInt8.ofNat (224 + v / 4096)).toNat - 224 := by omega
  rw [encode_three low high valid]
  refine scan_of_start (start_three _ (by omega) (by omega)) rfl ⟨code, ?_, ?_⟩ found rest
  · dsimp only
    split
    · have bound : (0xA0 : UInt8).toNat = 160 := rfl
      omega
    · exact Nat.le_add_right 128 _
  · dsimp only
    split
    · -- a surrogate would come next, and it is no character
      have bound : (0x9F : UInt8).toNat = 159 := rfl
      unfold Nat.isValidChar at valid
      omega
    · have bound : (0xBF : UInt8).toNat = 191 := rfl
      omega

/-- A character of four bytes is read. -/
theorem scan_four {v : Nat} (low : 65536 ≤ v) (high : v < 1114112) (found : List Piece)
    (rest : Bytes) :
    scan found none (String.utf8EncodeChar (Char.ofNat v) ++ rest) =
      scan (.char (Char.ofNat v) :: found) none rest := by
  have lead : (UInt8.ofNat (240 + v / 262144)).toNat = 240 + v / 262144 :=
    toNat_ofNat_byte (by omega)
  have code : v / 64 ^ 3 = (UInt8.ofNat (240 + v / 262144)).toNat - 240 := by omega
  rw [encode_four low high]
  refine scan_of_start (start_four _ (by omega) (by omega)) rfl ⟨code, ?_, ?_⟩ found rest
  · dsimp only
    split
    · have bound : (0x90 : UInt8).toNat = 144 := rfl
      omega
    · exact Nat.le_add_right 128 _
  · dsimp only
    split
    · have bound : (0x8F : UInt8).toNat = 143 := rfl
      omega
    · have bound : (0xBF : UInt8).toNat = 191 := rfl
      omega

/-- **A character that is written is read.** -/
theorem scan_encoded (found : List Piece) (c : Char) (rest : Bytes) :
    scan found none (String.utf8EncodeChar c ++ rest) = scan (.char c :: found) none rest := by
  obtain ⟨v, valid, rfl⟩ : ∃ v : Nat, v.isValidChar ∧ Char.ofNat v = c :=
    ⟨c.toNat, c.valid, Char.ofNat_toNat c⟩
  have high : v < 1114112 := by
    rcases valid with low | ⟨-, high⟩
    · omega
    · exact high
  rcases Nat.lt_or_ge v 128 with one | multi
  · have ascii : (Char.ofNat v).toNat < 128 := (toNat_val_ofNat valid).trans_lt one
    rw [Bytes.utf8EncodeChar_of_ascii ascii, List.singleton_append, scan, step_byte ascii]
    rfl
  · rcases Nat.lt_or_ge v 2048 with two | long
    · exact scan_two multi two found rest
    · rcases Nat.lt_or_ge v 65536 with three | four
      · exact scan_three long three valid found rest
      · exact scan_four four high found rest

/-! ## Text -/

/-- The pieces of a written text are its characters. -/
theorem pieces_ofChars (chars : List Char) : pieces (Bytes.ofChars chars) = chars.map .char := by
  have all (found : List Piece) :
      scan found none (Bytes.ofChars chars) = found.reverse ++ chars.map .char := by
    induction chars generalizing found with
    | nil => simp [scan]
    | cons c rest ih =>
        rw [Bytes.ofChars_cons, scan_encoded, ih]
        simp
  exact all []

/-- Pieces that are all characters are written as these. -/
theorem flatMap_written {all : List Piece} (whole : all.all Piece.isChar = true) :
    all.flatMap Piece.written = Bytes.ofChars (all.filterMap Piece.char?) := by
  induction all with
  | nil => rfl
  | cons piece rest ih =>
      rw [List.all_cons, Bool.and_eq_true] at whole
      cases piece with
      | stray bytes => cases whole.1
      | char c => rw [List.flatMap_cons, ih whole.2]; rfl

/-- **A byte string is read as some text exactly if it is that text in UTF-8.** -/
theorem chars?_eq_some_iff {bytes : Bytes} {chars : List Char} :
    chars? bytes = some chars ↔ Bytes.ofChars chars = bytes := by
  constructor
  · intro read
    unfold chars? at read
    dsimp only at read
    split at read
    next whole =>
      cases read
      rw [← flatMap_written whole, written_pieces]
    · cases read
  · rintro rfl
    have whole : (chars.map Piece.char).all Piece.isChar = true := by simp [Piece.isChar]
    unfold chars?
    dsimp only
    rw [pieces_ofChars, if_pos whole, List.filterMap_map]
    simp [Function.comp_def, Piece.char?]

/-- A byte string is no text exactly if it is not the written form of any. -/
theorem chars?_eq_none_iff {bytes : Bytes} :
    chars? bytes = none ↔ ∀ chars, Bytes.ofChars chars ≠ bytes := by
  rw [Option.eq_none_iff_forall_ne_some]
  exact forall_congr' fun chars => not_congr chars?_eq_some_iff

/-- A byte string is read as the text that it is the written form of. -/
theorem text?_eq_some_iff {bytes : Bytes} {text : String} :
    text? bytes = some text ↔ Bytes.ofString text = bytes := by
  rw [text?, Option.map_eq_some_iff, Bytes.ofString]
  constructor
  · rintro ⟨chars, read, rfl⟩
    rw [String.toList_ofList]
    exact chars?_eq_some_iff.mp read
  · intro written
    exact ⟨text.toList, chars?_eq_some_iff.mpr written, String.ofList_toList⟩

/-- The written form of a text is read as the text. -/
@[simp] theorem text?_ofString (text : String) : text? (Bytes.ofString text) = some text :=
  text?_eq_some_iff.mpr rfl

/-- A byte string is read as no text exactly if it is not the written form of any. -/
theorem text?_eq_none_iff {bytes : Bytes} :
    text? bytes = none ↔ ∀ text, Bytes.ofString text ≠ bytes := by
  rw [Option.eq_none_iff_forall_ne_some]
  exact forall_congr' fun text => not_congr text?_eq_some_iff

end ToolingHost.Utf8
