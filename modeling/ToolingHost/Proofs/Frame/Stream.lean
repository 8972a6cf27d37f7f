import ToolingHost.Frame.Reader
import ToolingHost.Proofs.Frame.Header

/-! # Reading what was written

A stream of written messages that is cut off anywhere is read as the messages that lie before the
cut, and then as a clean end or a failure (`reads_back`). What one call reads is known for every cut
of one message: at its end (`read_encode`), inside its header (`read_header_take`), or inside its
body (`read_body_take`). The lines of the header that the cut leaves incomplete need not be
understood: a header whose first line is incomplete always fails (`afterLine_none`). -/

namespace ToolingHost.Frame

/-! ## Headers -/

/-- The first line of a header does not complete it. -/
theorem afterLine_none (line : Bytes) :
    (∃ e, afterLine none line = .inl (.failed e)) ∨
      ∃ length, afterLine none line = .inr length := by
  unfold afterLine
  cases HeaderLine.ofBytes line with
  | garbled => exact .inl ⟨_, rfl⟩
  | blank => exact .inl ⟨_, rfl⟩
  | length n => exact .inr ⟨_, rfl⟩
  | badLength value => exact .inl ⟨_, rfl⟩
  | other => exact .inr ⟨_, rfl⟩

/-- A complete line takes the header further or ends it. -/
theorem readHeader?_line (ended : Bool) (length : Option Nat) (fresh : Bool) {text : Bytes}
    (single : lineFeed ∉ text) (line rest : Bytes) :
    readHeader? ended line length fresh (text ++ lineFeed :: rest) =
      (afterLine length (line.reverse ++ text ++ [lineFeed])).elim
        (fun outcome => some (outcome, rest))
        (fun length => readHeader? ended [] length false rest) := by
  induction text generalizing line with
  | nil =>
      rw [List.append_nil, List.nil_append, readHeader?, if_pos rfl, List.reverse_cons]
      cases afterLine length (line.reverse ++ [lineFeed]) <;> rfl
  | cons b more ih =>
      rw [List.mem_cons, not_or] at single
      rw [List.cons_append, readHeader?, if_neg (Ne.symm single.1), ih single.2]
      simp

/-- A line that the end of the stream cuts off is the last that is looked at. -/
theorem readHeader?_cut (length : Option Nat) (fresh : Bool) {text : Bytes}
    (single : lineFeed ∉ text) (line : Bytes) (some_ : line.reverse ++ text ≠ []) :
    readHeader? true line length fresh text =
      (afterLine length (line.reverse ++ text)).elim (fun outcome => some (outcome, []))
        (fun _ => some (.failed .truncatedHeader, [])) := by
  induction text generalizing line with
  | nil =>
      rw [List.append_nil] at some_ ⊢
      have busy : ¬line.isEmpty = true := by simpa using some_
      rw [readHeader?, if_neg (by simp), if_neg busy]
      cases afterLine length line.reverse <;> rfl
  | cons b more ih =>
      rw [List.mem_cons, not_or] at single
      rw [readHeader?, if_neg (Ne.symm single.1), ih single.2 _ (by simp)]
      simp

/-- After the line that gives the length, a blank line ends the header. -/
theorem readHeader?_lengthLine (ended : Bool) {n : Nat} (small : n < 2 ^ 64) (rest : Bytes) :
    readHeader? ended [] none true (lengthLine n ++ lineFeed :: rest) =
      readHeader? ended [] (some n) false rest := by
  rw [readHeader?_line ended none true (lineFeed_notMem_lengthLine n)]
  have given : afterLine none (lengthLine n ++ [lineFeed]) = .inr (some n) := by
    rw [afterLine, ofBytes_lengthLine small]
  simp [given]

/-- **A written header is read as the length that it was written for.** -/
theorem readHeader?_header (ended : Bool) {n : Nat} (small : n < 2 ^ 64) (rest : Bytes) :
    readHeader? ended [] none true (header n ++ rest) = some (.length n, rest) := by
  have single : lineFeed ∉ [carriageReturn] := by decide
  rw [header_eq, List.append_assoc, List.cons_append, readHeader?_lengthLine ended small]
  have complete : afterLine (some n) [carriageReturn, lineFeed] = .inl (.length n) := by
    rw [afterLine, ofBytes_blank]
  exact (readHeader?_line ended (some n) false single [] rest).trans (by simp [complete])

/-! ## One message -/

/-- What a call on an ended stream answers. -/
theorem read_eq {bytes : Bytes} {answer : Outcome × Bytes} (h : read? true bytes = some answer) :
    read bytes = answer := by
  simp [read, h]

/-- After a header, the body is read. -/
theorem read_header {n : Nat} (small : n < 2 ^ 64) (rest : Bytes) :
    read? true (header n ++ rest) = readBody? true n rest := by
  rw [read?, readHeader?_header true small]

/-- **A message that is too long is refused**, and its body left where it is. -/
theorem read_tooLarge {n : Nat} (large : maxBytes < n) (small : n < 2 ^ 64) (rest : Bytes) :
    read (header n ++ rest) = (.failed (.tooLarge n), rest) := by
  apply read_eq
  rw [read_header small, readBody?, if_pos large]

/-- An empty stream ends cleanly. -/
theorem read_nil : read [] = (.ended, []) := read_eq rfl

/-- What the reader can read back: a message whose written form spells it, and is not too long. -/
structure Readable (message : Json.Value) : Prop where
  /-- The written form spells the message. -/
  spelled : Json.parseBytes? message.toBytes = some message
  /-- The written form is not too long. -/
  short : message.toBytes.length ≤ maxBytes

namespace Readable

variable {message : Json.Value}

/-- The length of a body has 64 bits. -/
theorem small (h : Readable message) : message.toBytes.length < 2 ^ 64 :=
  Nat.lt_of_le_of_lt h.short (by decide)

/-- No message is written as nothing: nothing spells no message. -/
theorem length_pos (h : Readable message) : 0 < message.toBytes.length := by
  cases empty : message.toBytes with
  | nil =>
      have spelled := h.spelled
      rw [empty, show Json.parseBytes? [] = none from rfl] at spelled
      cases spelled
  | cons b rest => simp

/-- A body that is cut off is a failure. -/
theorem readBody?_cut (h : Readable message) {bytes : Bytes}
    (cut : bytes.length < message.toBytes.length) :
    readBody? true message.toBytes.length bytes = some (.failed (.io .unexpectedEnd), []) := by
  have fits : ¬maxBytes < message.toBytes.length := Nat.not_lt.mpr h.short
  have short : (bytes.take message.toBytes.length).length < message.toBytes.length := by
    rw [List.length_take]
    omega
  rw [readBody?, if_neg fits]
  dsimp only
  rw [if_pos short]
  rfl

/-- **A written message is read back**, and nothing behind it is used. -/
theorem read_encode (h : Readable message) (rest : Bytes) :
    read (encode message ++ rest) = (.message message, rest) := by
  have fits : ¬maxBytes < message.toBytes.length := Nat.not_lt.mpr h.short
  apply read_eq
  rw [encode, List.append_assoc, read_header h.small, readBody?, if_neg fits]
  simp [h.spelled]

/-- A message that is cut off inside its body is a failure. -/
theorem read_body_take (h : Readable message) {k : Nat} (cut : k < message.toBytes.length) :
    read (header message.toBytes.length ++ message.toBytes.take k) =
      (.failed (.io .unexpectedEnd), []) := by
  apply read_eq
  rw [read_header h.small]
  exact h.readBody?_cut (by rw [List.length_take]; omega)

/-- A message that is cut off inside its header is a failure. -/
theorem read_header_take (h : Readable message) {k : Nat} (begun : 0 < k)
    (cut : k < (header message.toBytes.length).length) :
    ∃ e, read ((header message.toBytes.length).take k) = (.failed e, []) := by
  generalize hn : message.toBytes.length = n at cut ⊢
  have small : n < 2 ^ 64 := hn ▸ h.small
  have single := lineFeed_notMem_lengthLine n
  rw [header_eq, List.length_append, List.length_cons, List.length_cons, List.length_cons,
    List.length_nil] at cut
  rw [header_eq]
  by_cases within : k ≤ (lengthLine n).length
  · -- inside the first line: whatever is left of it, it does not complete the header
    have some_ : (lengthLine n).take k ≠ [] := by
      rw [← List.length_pos_iff, List.length_take]
      omega
    have single : lineFeed ∉ (lengthLine n).take k := fun hf => single (List.mem_of_mem_take hf)
    have answer := readHeader?_cut none true single [] (by simpa using some_)
    rw [List.take_append_of_le_length within]
    rcases afterLine_none ((lengthLine n).take k) with ⟨e, he⟩ | ⟨length, hl⟩
    · exact ⟨e, read_eq (by rw [read?, answer]; simp [he])⟩
    · exact ⟨.truncatedHeader, read_eq (by rw [read?, answer]; simp [hl])⟩
  · have behind : k = (lengthLine n).length + 1 ∨ k = (lengthLine n).length + 2 := by omega
    rcases behind with rfl | rfl
    · -- behind the line feed of the first line
      refine ⟨.truncatedHeader, read_eq ?_⟩
      rw [List.take_length_add_append, List.take_succ_cons, List.take_zero, read?,
        readHeader?_lengthLine true small]
      rfl
    · -- behind the carriage return of the blank line, which is blank without its line feed
      refine ⟨.io .unexpectedEnd, read_eq ?_⟩
      have complete :
          readHeader? true [] (some n) false [carriageReturn] = some (.length n, []) := by
        rw [readHeader?_cut (some n) false (by decide) [] (by simp)]
        simp [afterLine, ofBytes_lone]
      rw [List.take_length_add_append, List.take_succ_cons, List.take_succ_cons, List.take_zero,
        read?, readHeader?_lengthLine true small, complete, ← hn]
      exact h.readBody?_cut h.length_pos

/-- **A message that is cut off anywhere is a failure**, and nothing is left of it. -/
theorem read_take (h : Readable message) {k : Nat} (begun : 0 < k)
    (cut : k < (encode message).length) :
    ∃ e, read ((encode message).take k) = (.failed e, []) := by
  rw [encode, List.length_append] at cut
  rw [encode]
  by_cases within : k < (header message.toBytes.length).length
  · rw [List.take_append_of_le_length (Nat.le_of_lt within)]
    exact h.read_header_take begun within
  -- the header is complete, so the cut is in the body
  · obtain ⟨more, rfl⟩ := Nat.exists_eq_add_of_le (Nat.not_lt.mp within)
    rw [List.take_length_add_append]
    exact ⟨_, h.read_body_take (by omega)⟩

end Readable

/-! ## Streams -/

section Calls

variable {bytes rest : Bytes}

/-- After a message, the next call goes on behind it. -/
theorem readAll_message {message : Json.Value} (h : read bytes = (.message message, rest))
    (calls : Nat) : readAll (calls + 1) bytes = .message message :: readAll calls rest := by
  rw [readAll, h]

/-- After a failure, the next call goes on with what is left. -/
theorem readAll_failed {e : Error} (h : read bytes = (.failed e, rest)) (calls : Nat) :
    readAll (calls + 1) bytes = .failed e :: readAll calls rest := by
  rw [readAll, h]

/-- Where there is nothing to read, all calls together give one clean end. -/
theorem readAll_nil (calls : Nat) : readAll calls [] = [Outcome.ended].take calls := by
  cases calls with
  | zero => rfl
  | succ calls => rw [readAll, read_nil, List.take_succ_cons, List.take_nil]

end Calls

/-- Whether a place in the stream of some messages is at the end of one of them, or at the start. -/
def IsBoundary (messages : List Json.Value) (k : Nat) : Prop :=
  ∃ j ≤ messages.length, k = (encodeAll (messages.take j)).length

/-- Every message is written as something. -/
theorem length_encode_pos (message : Json.Value) : 0 < (encode message).length := by
  rw [encode, header_eq]
  simp only [List.length_append, List.length_cons]
  omega

section Boundary

variable {first : Json.Value} {rest : List Json.Value} {k : Nat}

/-- Inside the first message there is no boundary. -/
theorem not_isBoundary_cons (begun : 0 < k) (cut : k < (encode first).length) :
    ¬IsBoundary (first :: rest) k := by
  rintro ⟨j, -, hk⟩
  cases j with
  | zero =>
      rw [List.take_zero, encodeAll_nil, List.length_nil] at hk
      omega
  | succ j =>
      rw [List.take_succ_cons, encodeAll_cons, List.length_append] at hk
      omega

/-- Behind the first message, the boundaries are those of the others. -/
theorem isBoundary_cons (behind : (encode first).length ≤ k) :
    IsBoundary (first :: rest) k ↔ IsBoundary rest (k - (encode first).length) := by
  have some_ := length_encode_pos first
  constructor
  · rintro ⟨j, hj, hk⟩
    cases j with
    | zero =>
        rw [List.take_zero, encodeAll_nil, List.length_nil] at hk
        omega
    | succ j =>
        rw [List.take_succ_cons, encodeAll_cons, List.length_append] at hk
        exact ⟨j, Nat.le_of_succ_le_succ hj, by omega⟩
  · rintro ⟨j, hj, hk⟩
    refine ⟨j + 1, Nat.succ_le_succ hj, ?_⟩
    rw [List.take_succ_cons, encodeAll_cons, List.length_append]
    omega

end Boundary

/-- `ReadsBack messages k n tail`: what the reader makes of the first `k` bytes of a stream of
messages. -/
structure ReadsBack (messages : List Json.Value) (k n : Nat) (tail : List Outcome) : Prop where
  /-- There are so many messages. -/
  count : n ≤ messages.length
  /-- The first `n` messages are those that lie within these bytes. -/
  whole : ∀ i < messages.length, (encodeAll (messages.take (i + 1))).length ≤ k ↔ i < n
  /-- After them comes a clean end if the stream was cut at a boundary, and else a failure. -/
  ending : (IsBoundary messages k ∧ tail = [.ended]) ∨
    (¬IsBoundary messages k ∧ ∃ e, tail = [.failed e, .ended])
  /-- That is all that any number of calls gives. -/
  outcomes : ∀ calls, readAll calls ((encodeAll messages).take k) =
    ((messages.take n).map Outcome.message ++ tail).take calls

namespace ReadsBack

variable {first : Json.Value} {k n : Nat} {tail : List Outcome}

/-- Where nothing is left of the stream, it ends cleanly. -/
theorem zero (messages : List Json.Value) : ReadsBack messages 0 0 [.ended] where
  count := Nat.zero_le _
  whole := by
    intro i hi
    cases messages with
    | nil => simp at hi
    | cons first rest =>
        have some_ := length_encode_pos first
        rw [List.take_succ_cons, encodeAll_cons, List.length_append]
        omega
  ending := .inl ⟨⟨0, Nat.zero_le _, rfl⟩, rfl⟩
  outcomes := readAll_nil

/-- Where the stream is cut inside the first message, it fails. -/
theorem inside (rest : List Json.Value) (readable : Readable first) (begun : 0 < k)
    (cut : k < (encode first).length) :
    ∃ tail, ReadsBack (first :: rest) k 0 tail := by
  obtain ⟨e, failed⟩ := readable.read_take begun cut
  refine ⟨[.failed e, .ended], Nat.zero_le _, fun i _ => ?_,
    .inr ⟨not_isBoundary_cons begun cut, e, rfl⟩, fun calls => ?_⟩
  · rw [List.take_succ_cons, encodeAll_cons, List.length_append]
    omega
  · rw [encodeAll_cons, List.take_append_of_le_length (Nat.le_of_lt cut)]
    cases calls with
    | zero => rfl
    | succ calls => rw [readAll_failed failed, readAll_nil]; rfl

/-- Where the stream is cut behind the first message, that is read and then the others. -/
theorem cons {rest : List Json.Value} (readable : Readable first)
    (behind : (encode first).length ≤ k) (h : ReadsBack rest (k - (encode first).length) n tail) :
    ReadsBack (first :: rest) k (n + 1) tail where
  count := Nat.succ_le_succ h.count
  whole := by
    intro i hi
    rw [List.take_succ_cons, encodeAll_cons, List.length_append]
    cases i with
    | zero => simp [behind]
    | succ i =>
        -- the others are counted from the end of the first
        have others := h.whole i (Nat.lt_of_succ_lt_succ hi)
        omega
  ending := by rw [isBoundary_cons behind]; exact h.ending
  outcomes := by
    intro calls
    cases calls with
    | zero => rfl
    | succ calls =>
        have read := readable.read_encode ((encodeAll rest).take (k - (encode first).length))
        have split : (encodeAll (first :: rest)).take k =
            encode first ++ (encodeAll rest).take (k - (encode first).length) := by
          rw [encodeAll_cons, List.take_append, List.take_of_length_le behind]
        rw [split, readAll_message read, h.outcomes calls]
        rfl

end ReadsBack

/-- Every cut of a stream of messages that can be read back is read like that. -/
theorem readsBack_of_le {messages : List Json.Value} (readable : ∀ m ∈ messages, Readable m)
    {k : Nat} (cut : k ≤ (encodeAll messages).length) :
    ∃ n tail, ReadsBack messages k n tail := by
  induction messages generalizing k with
  | nil =>
      obtain rfl : k = 0 := Nat.le_zero.mp cut
      exact ⟨0, _, .zero []⟩
  | cons first rest ih =>
      have own := readable first List.mem_cons_self
      rw [encodeAll_cons, List.length_append] at cut
      rcases Nat.eq_zero_or_pos k with rfl | begun
      · exact ⟨0, _, .zero _⟩
      · by_cases inside : k < (encode first).length
        · obtain ⟨tail, h⟩ := ReadsBack.inside rest own begun inside
          exact ⟨0, tail, h⟩
        · obtain ⟨n, tail, h⟩ := ih (fun m hm => readable m (List.mem_cons_of_mem _ hm))
            (k := k - (encode first).length) (by omega)
          exact ⟨n + 1, tail, h.cons own (Nat.not_lt.mp inside)⟩

/-- Messages that can be read back are read before whatever follows them. -/
theorem readAll_encodeAll {messages : List Json.Value} (readable : ∀ m ∈ messages, Readable m)
    (calls : Nat) (rest : Bytes) :
    readAll (messages.length + calls) (encodeAll messages ++ rest) =
      messages.map Outcome.message ++ readAll calls rest := by
  induction messages with
  | nil => simp
  | cons first others ih =>
      have own := readable first List.mem_cons_self
      rw [List.length_cons, Nat.add_right_comm, encodeAll_cons, List.append_assoc,
        readAll_message (own.read_encode _), ih fun m hm => readable m (List.mem_cons_of_mem _ hm)]
      rfl

/-- **A stream that was written is read back up to any cut.** For messages whose written forms spell
them and have at most `maxBytes` bytes, and for every cut of the stream of all of them: any number
of calls gives the messages that lie before the cut, in order, and then a clean end if the cut is a
boundary and a failure if it is not. A message whose body is longer (its length has 64 bits, like
that of all bytes in memory) is answered with its length, whatever follows its header, and the next
call goes on behind the header. -/
theorem reads_back {messages : List Json.Value}
    (spelled : ∀ m ∈ messages, Json.parseBytes? m.toBytes = some m)
    (short : ∀ m ∈ messages, m.toBytes.length ≤ maxBytes) :
    (∀ k ≤ (encodeAll messages).length, ∃ n tail, ReadsBack messages k n tail) ∧
      ∀ (long : Json.Value) (rest : Bytes) (calls : Nat), maxBytes < long.toBytes.length →
        long.toBytes.length < 2 ^ 64 →
          readAll (messages.length + (calls + 1))
              (encodeAll messages ++ (header long.toBytes.length ++ rest)) =
            messages.map Outcome.message ++
              .failed (.tooLarge long.toBytes.length) :: readAll calls rest := by
  have readable : ∀ m ∈ messages, Readable m := fun m hm => ⟨spelled m hm, short m hm⟩
  refine ⟨fun k cut => readsBack_of_le readable cut, fun long rest calls large small => ?_⟩
  rw [readAll_encodeAll readable, readAll_failed (read_tooLarge large small rest)]

/-- Two messages of four bytes each. -/
def twoMessages : List Json.Value := [.null, .bool true]

/-- A stream that is cut off inside the header of the second message. -/
theorem reads_back_two :
    ∃ e, readAll 3 ((encodeAll twoMessages).take 30) = [.message .null, .failed e, .ended] := by
  have spelled : ∀ m ∈ twoMessages, Json.parseBytes? m.toBytes = some m := by
    intro m hm
    simp only [twoMessages, List.mem_cons, List.not_mem_nil, or_false] at hm
    rcases hm with rfl | rfl <;> rfl
  have short : ∀ m ∈ twoMessages, m.toBytes.length ≤ maxBytes := by
    intro m hm
    simp only [twoMessages, List.mem_cons, List.not_mem_nil, or_false] at hm
    rcases hm with rfl | rfl <;> decide
  obtain ⟨n, tail, h⟩ := (reads_back spelled short).1 30 (by decide)
  have one : n = 1 := by
    have first := (h.whole 0 (by decide)).mp (by decide)
    have second := mt (h.whole 1 (by decide)).mpr (by decide)
    omega
  have inside : ¬IsBoundary twoMessages 30 := by
    rintro ⟨j, hj, hk⟩
    have others : ∀ j ≤ 2, 30 ≠ (encodeAll (twoMessages.take j)).length := by decide
    exact others j hj hk
  rcases h.ending with ⟨boundary, -⟩ | ⟨-, e, rfl⟩
  · exact absurd boundary inside
  · exact ⟨e, by rw [h.outcomes 3, one]; rfl⟩

end ToolingHost.Frame
