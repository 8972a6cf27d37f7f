import ToolingHost.Proofs.Frame.Reading

/-! # Calls on one stream come to its end

A call that finds bytes takes some of them and does not come to a clean end, whatever it comes to
instead; a call that finds none does. So calls that go on after every failure go through the stream
from one end to the other: each of them takes a part of it, in order, and there are no more of them
than bytes before the first clean end (`calls_reach_end`). -/

namespace ToolingHost.Frame

/-! ## One call -/

/-- No line of a stream is empty. -/
theorem Lines.ne_nil {all : List Bytes} (shape : Lines all) : ∀ line ∈ all, line ≠ [] := by
  induction shape with
  | nil => simp
  | cut some_ single => simpa using some_
  | cons complete later ih =>
      obtain ⟨text, -, rfl⟩ := complete
      rw [List.forall_mem_cons]
      exact ⟨by simp, ih⟩

/-- **A call makes progress**: it comes to a clean end where there is nothing, and else to something
else, having taken bytes from the front of the stream. -/
theorem Reads.progress {all : List Bytes} {outcome : Outcome} {rest : Bytes} (shape : Lines all)
    (reads : Reads all outcome rest) :
    (all = [] ∧ outcome = .ended ∧ rest = []) ∨
      (outcome ≠ .ended ∧ ∃ used, all.flatten = used ++ rest ∧ used ≠ []) := by
  -- what is taken holds at least the line that stops the call, and no line is empty
  have takes {passed others : List Bytes} {line left : Bytes}
      (here : all = passed ++ line :: others) (body : Bytes)
      (split : others.flatten = body ++ left) :
      ∃ used, all.flatten = used ++ left ∧ used ≠ [] := by
    have some_ : line ≠ [] := shape.ne_nil line (by simp [here])
    exact ⟨passed.flatten ++ line ++ body, by simp [here, split], by simp [some_]⟩
  cases reads with
  | ended => exact .inl ⟨rfl, rfl, rfl⟩
  | truncated passes some_ =>
      obtain ⟨line, others, rfl⟩ := List.exists_cons_of_ne_nil some_
      exact .inr ⟨nofun, takes (List.nil_append _).symm others.flatten (List.append_nil _).symm⟩
  | garbled passes stops => exact .inr ⟨nofun, takes rfl [] rfl⟩
  | badLength passes stops => exact .inr ⟨nofun, takes rfl [] rfl⟩
  | missing passes stops => exact .inr ⟨nofun, takes rfl [] rfl⟩
  | tooLarge passes stops large => exact .inr ⟨nofun, takes rfl [] rfl⟩
  | cut passes stops fits short => exact .inr ⟨nofun, takes rfl _ (List.append_nil _).symm⟩
  | message passes stops fits split spelled => exact .inr ⟨nofun, takes rfl _ split⟩
  | notJson passes stops fits split unspelled => exact .inr ⟨nofun, takes rfl _ split⟩

/-- A call on a stream that has bytes takes some of them, and comes to no clean end. -/
theorem read_of_ne_nil {bytes : Bytes} (some_ : bytes ≠ []) :
    (read bytes).1 ≠ .ended ∧ ∃ used, bytes = used ++ (read bytes).2 ∧ used ≠ [] := by
  obtain ⟨shape, whole⟩ := lines_eq_iff.mp (rfl : lines bytes = lines bytes)
  have reads : Reads (lines bytes) (read bytes).1 (read bytes).2 := read_eq_iff.mp rfl
  rcases reads.progress shape with ⟨none_, -, -⟩ | ⟨goesOn, used, split, filled⟩
  · rw [none_] at whole
    exact absurd whole.symm some_
  · exact ⟨goesOn, used, whole.symm.trans split, filled⟩

/-! ## All calls -/

/-- A call on a stream: the bytes that it takes, and what it comes to. -/
structure Call where
  /-- The bytes at the front of the stream that it does not leave. -/
  taken : Bytes
  /-- What it comes to. -/
  outcome : Outcome

/-- The first calls on a stream, each on what the one before it leaves, whatever they come to. -/
def callsOn : (calls : Nat) → Bytes → List Call
  | 0, _ => []
  | calls + 1, bytes =>
    let (outcome, rest) := read bytes
    ⟨bytes.take (bytes.length - rest.length), outcome⟩ :: callsOn calls rest

/-- A call that finds nothing. -/
def Call.idle : Call := ⟨[], .ended⟩

/-- Where there is nothing to read, every call finds nothing. -/
theorem callsOn_nil (calls : Nat) : callsOn calls [] = List.replicate calls Call.idle := by
  induction calls with
  | zero => rfl
  | succ calls ih =>
      rw [callsOn, read_nil, List.replicate_succ]
      dsimp only
      rw [ih]
      rfl

/-- The first call takes what it does not leave. -/
theorem callsOn_succ {bytes used : Bytes} (split : bytes = used ++ (read bytes).2) (calls : Nat) :
    callsOn (calls + 1) bytes = ⟨used, (read bytes).1⟩ :: callsOn calls (read bytes).2 := by
  have taken : bytes.take (bytes.length - (read bytes).2.length) = used := by
    have size : bytes.length - (read bytes).2.length = used.length := by
      have whole := congrArg List.length split
      rw [List.length_append] at whole
      omega
    rw [size]
    exact (congrArg (List.take used.length) split).trans List.take_left
  rw [callsOn]
  dsimp only
  rw [taken]

/-- Calls that stop at the first clean end stop after the first call where there is nothing. -/
theorem readAll_succ {bytes : Bytes} (goesOn : (read bytes).1 ≠ .ended) (calls : Nat) :
    readAll (calls + 1) bytes = (read bytes).1 :: readAll calls (read bytes).2 := by
  rcases call : read bytes with ⟨outcome, rest⟩
  rw [call] at goesOn
  cases outcome with
  | message v => exact readAll_message call calls
  | failed e => exact readAll_failed call calls
  | ended => exact absurd rfl goesOn

/-- `Covers bytes calls`: these calls take a stream apart, from one end to the other. -/
structure Covers (bytes : Bytes) (calls : List Call) : Prop where
  /-- There are no more of them than bytes. -/
  count : calls.length ≤ bytes.length
  /-- Each of them takes something, and comes to no clean end. -/
  progress : ∀ call ∈ calls, call.taken ≠ [] ∧ call.outcome ≠ .ended
  /-- What they take, one after the other, is the stream. -/
  whole : (calls.map Call.taken).flatten = bytes
  /-- Any number of calls are the first of these, and then calls that find nothing. -/
  first : ∀ n, callsOn n bytes = (calls ++ List.replicate n Call.idle).take n
  /-- Calls that stop at the first clean end make one more. -/
  outcomes : ∀ n, readAll n bytes = (calls.map Call.outcome ++ [Outcome.ended]).take n

namespace Covers

/-- Nothing has to be taken where there is nothing. -/
theorem nil : Covers [] [] where
  count := Nat.le_refl 0
  progress := by simp
  whole := rfl
  first := by
    intro n
    rw [callsOn_nil, List.nil_append, List.take_replicate, Nat.min_self]
  outcomes := readAll_nil

/-- A call takes the front of the stream, and those after it take what it leaves. -/
theorem cons {bytes used : Bytes} {calls : List Call} (goesOn : (read bytes).1 ≠ .ended)
    (split : bytes = used ++ (read bytes).2) (some_ : used ≠ [])
    (later : Covers (read bytes).2 calls) : Covers bytes (⟨used, (read bytes).1⟩ :: calls) where
  count := by
    have size := congrArg List.length split
    have pos := List.length_pos_iff.mpr some_
    have fewer := later.count
    rw [List.length_append] at size
    rw [List.length_cons]
    omega
  progress := by
    rw [List.forall_mem_cons]
    exact ⟨⟨some_, goesOn⟩, later.progress⟩
  whole := by
    rw [List.map_cons, List.flatten_cons, later.whole]
    exact split.symm
  first := by
    intro n
    cases n with
    | zero => rfl
    | succ n =>
        -- one idle call fewer is enough behind one call more
        have enough : n ≤ (calls ++ List.replicate n Call.idle).length := by simp
        rw [callsOn_succ split, List.cons_append, List.take_succ_cons, later.first n,
          List.replicate_succ', ← List.append_assoc, List.take_append_of_le_length enough]
  outcomes := by
    intro n
    cases n with
    | zero => rfl
    | succ n =>
        rw [readAll_succ goesOn, List.map_cons, List.cons_append, List.take_succ_cons,
          later.outcomes n]

end Covers

/-- Every stream is taken apart by some calls. -/
theorem exists_covers (bytes : Bytes) : ∃ calls, Covers bytes calls := by
  induction size : bytes.length using Nat.strongRecOn generalizing bytes with
  | ind n ih =>
      by_cases none_ : bytes = []
      · rw [none_]
        exact ⟨[], .nil⟩
      · obtain ⟨goesOn, used, split, some_⟩ := read_of_ne_nil none_
        have shorter : (read bytes).2.length < n := by
          have whole := congrArg List.length split
          have pos := List.length_pos_iff.mpr some_
          rw [List.length_append] at whole
          omega
        obtain ⟨calls, later⟩ := ih _ shorter _ rfl
        exact ⟨_, later.cons goesOn split some_⟩

/-- **Calls on one stream come to its end.** A call comes to a clean end exactly if no byte remains,
and takes bytes from the front of the stream exactly if some do. So calls that go on, whatever they
come to, take every stream apart from one end to the other, in no more calls than it has bytes, and
the next call is the first that comes to a clean end. -/
theorem calls_reach_end (bytes : Bytes) :
    ((read bytes).1 = .ended ↔ bytes = []) ∧
      (∃ used, bytes = used ++ (read bytes).2 ∧ (used = [] ↔ bytes = [])) ∧
      ∃ calls, Covers bytes calls := by
  refine ⟨?_, ?_, exists_covers bytes⟩
  · constructor
    · intro ended
      by_contra some_
      exact (read_of_ne_nil some_).1 ended
    · rintro rfl
      rw [read_nil]
  · by_cases none_ : bytes = []
    · exact ⟨[], by rw [none_, read_nil]; rfl, by simp [none_]⟩
    · obtain ⟨-, used, split, some_⟩ := read_of_ne_nil none_
      exact ⟨used, split, by simp [some_, none_]⟩

end ToolingHost.Frame
