import ToolingHost.Bytes

/-! # Where ASCII bytes stand in a byte string

An ASCII byte belongs to no longer character: whatever the decoder is in the middle of, it ends
there, and what follows is decoded on its own. So a byte string can be cut at a run of ASCII bytes
(`pieces_append_ascii`), and the characters of the run are the bytes themselves. -/

namespace ToolingHost.Utf8

/-- The character of an ASCII byte. -/
def asciiChar (b : UInt8) : Char := Char.ofNat b.toNat

/-- A decoder that does not wait for an ASCII byte. -/
def Awaits (o : Option Sequence) : Prop := ∀ s, o = some s → 0x80 ≤ s.low

/-- The piece of a character that has been begun and is not finished. -/
def unfinished : Option Sequence → List Piece
  | none => []
  | some s => [.stray s.seen.reverse]

/-- Between characters, the decoder waits for none. -/
theorem awaits_none : Awaits none := by
  intro s h
  cases h

/-- After a byte that comes between characters, no ASCII byte is waited for. -/
theorem awaits_start (b : UInt8) : Awaits (start b).1 := by
  intro s h
  unfold start at h
  -- the least second byte is 0x80, and for two leads that could begin an overlong form it is more
  repeat' split at h
  all_goals cases h
  all_goals dsimp only
  all_goals decide

/-- No byte makes the decoder wait for an ASCII byte. -/
theorem awaits_step (o : Option Sequence) (b : UInt8) : Awaits (step o b).1 := by
  cases o with
  | none => exact awaits_start b
  | some s =>
      rw [step]
      dsimp only
      by_cases fits : s.low ≤ b ∧ b ≤ s.high
      · rw [if_pos fits]
        by_cases last : s.missing ≤ 1
        · rw [if_pos last]
          exact awaits_none
        · rw [if_neg last]
          intro next h
          cases h
          exact UInt8.le_refl _
      · rw [if_neg fits]
        exact awaits_start b

/-- What was found before does not matter. -/
theorem scan_eq (found : List Piece) (o : Option Sequence) (bytes : Bytes) :
    scan found o bytes = found.reverse ++ scan [] o bytes := by
  induction bytes generalizing found o with
  | nil => cases o <;> simp [scan]
  | cons b rest ih =>
      rcases e : step o b with ⟨next, now⟩
      have first (found : List Piece) :
          scan found o (b :: rest) = scan (now ++ found) next rest := by rw [scan, e]
      rw [first, first, ih, ih (now ++ [])]
      simp

/-- An ASCII byte ends what was begun. -/
theorem step_ascii {b : UInt8} (ascii : b < 0x80) {o : Option Sequence} (ho : Awaits o) :
    step o b = (none, .char (asciiChar b) :: unfinished o) := by
  have first : start b = (none, [.char (asciiChar b)]) := by
    unfold start
    rw [if_pos ascii]
    rfl
  cases o with
  | none => exact first
  | some s =>
      have short : ¬(s.low ≤ b ∧ b ≤ s.high) := by
        rintro ⟨low, -⟩
        have bound := ho s rfl
        rw [UInt8.le_iff_toNat_le] at low bound
        rw [UInt8.lt_iff_toNat_lt] at ascii
        omega
      rw [step, if_neg short, first]
      rfl

/-- A byte string can be cut at an ASCII byte. -/
theorem scan_cut {b : UInt8} (ascii : b < 0x80) (left right : Bytes) {o : Option Sequence}
    (ho : Awaits o) :
    scan [] o (left ++ b :: right) =
      scan [] o left ++ .char (asciiChar b) :: scan [] none right := by
  induction left generalizing o with
  | nil =>
      have begun : scan [] o [] = (unfinished o).reverse := by cases o <;> rfl
      have first : scan [] o (b :: right) =
          scan (.char (asciiChar b) :: unfinished o) none right := by
        rw [scan, step_ascii ascii ho]
        simp
      rw [begun, List.nil_append, first, scan_eq]
      simp
  | cons c left ih =>
      have later := ih (awaits_step o c)
      rcases e : step o c with ⟨next, now⟩
      rw [e] at later
      have first (bytes : Bytes) : scan [] o (c :: bytes) = now.reverse ++ scan [] next bytes := by
        rw [scan, e]
        simp [scan_eq now]
      rw [List.cons_append, first, first, later, List.append_assoc]

/-- A byte string can be cut at a run of ASCII bytes. -/
theorem pieces_append_ascii {run : Bytes} (some_ : run ≠ []) (ascii : ∀ b ∈ run, b < 0x80)
    (left right : Bytes) :
    pieces (left ++ run ++ right) =
      pieces left ++ run.map (fun b => .char (asciiChar b)) ++ pieces right := by
  induction run generalizing left with
  | nil => exact absurd rfl some_
  | cons b rest ih =>
      obtain ⟨now, later⟩ := List.forall_mem_cons.mp ascii
      have cut : pieces (left ++ b :: rest ++ right) =
          pieces left ++ .char (asciiChar b) :: pieces (rest ++ right) := by
        rw [List.append_assoc]
        exact scan_cut now left (rest ++ right) awaits_none
      cases rest with
      | nil => simpa using cut
      | cons c rest =>
          have next := ih (List.cons_ne_nil c rest) later []
          rw [List.nil_append] at next
          rw [cut, next]
          simp [pieces, scan]

/-- In a text, the characters of a run of ASCII bytes stand where the bytes stand. -/
theorem chars?_append_ascii {left run right : Bytes} {chars : List Char}
    (h : chars? (left ++ run ++ right) = some chars) (some_ : run ≠ [])
    (ascii : ∀ b ∈ run, b < 0x80) :
    ∃ before after, chars = before ++ run.map asciiChar ++ after ∧
      (left = [] → before = []) ∧ (right = [] → after = []) := by
  have all : chars = (pieces (left ++ run ++ right)).filterMap Piece.char? := by
    unfold chars? at h
    dsimp only at h
    split at h
    · exact (Option.some.inj h).symm
    · cases h
  refine ⟨(pieces left).filterMap Piece.char?, (pieces right).filterMap Piece.char?, ?_, ?_, ?_⟩
  · rw [all, pieces_append_ascii some_ ascii, List.filterMap_append, List.filterMap_append,
      List.filterMap_map]
    simp [Function.comp_def, Piece.char?]
  · rintro rfl
    rfl
  · rintro rfl
    rfl

end ToolingHost.Utf8
