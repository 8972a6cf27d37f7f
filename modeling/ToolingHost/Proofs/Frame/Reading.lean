import ToolingHost.Proofs.Frame.Line
import ToolingHost.Proofs.Frame.Stream

/-! # What one call reads, line by line

The reader works byte by byte, with the line and the last length so far in its hands. `Reads` says
what comes of a call in terms of the lines of the stream (`lines`) alone: which line stops it, what
the lines before that one give, and what is left. Every call comes to what the rule says
(`read_eq_iff`). Lines that are passed over matter only through the last length that they give, so
others can be added to a header, taken away and moved (`read_passed`). While the stream is open, a
call that has come to something would have come to it whatever arrives later (`read?_more`). -/

namespace ToolingHost.Frame

/-! ## The lines of a stream -/

/-- A complete line: it ends in its line feed, which is the only one. -/
def IsLine (line : Bytes) : Prop := ∃ text, lineFeed ∉ text ∧ line = text ++ [lineFeed]

/-- `Lines all`: these can be the lines of a stream. -/
inductive Lines : List Bytes → Prop where
  /-- There are none. -/
  | nil : Lines []
  /-- The last line ends at the end of the stream, without a line feed. -/
  | cut {text : Bytes} (some_ : text ≠ []) (single : lineFeed ∉ text) : Lines [text]
  /-- A complete line stands before others. -/
  | cons {line : Bytes} {rest : List Bytes} (complete : IsLine line) (later : Lines rest) :
      Lines (line :: rest)

/-- The lines of a stream. -/
def lines : Bytes → List Bytes
  | [] => []
  | b :: rest =>
    if b = lineFeed then [b] :: lines rest
    else match lines rest with
      | [] => [[b]]
      | line :: more => (b :: line) :: more

/-- A line of the stream ends where its line feed is. -/
theorem lines_line {text : Bytes} (single : lineFeed ∉ text) (rest : Bytes) :
    lines (text ++ lineFeed :: rest) = (text ++ [lineFeed]) :: lines rest := by
  induction text with
  | nil => rw [List.nil_append, lines, if_pos rfl]; rfl
  | cons b more ih =>
      rw [List.mem_cons, not_or] at single
      rw [List.cons_append, lines, if_neg (Ne.symm single.1), ih single.2]
      rfl

/-- Without a line feed there is one line. -/
theorem lines_cut {text : Bytes} (some_ : text ≠ []) (single : lineFeed ∉ text) :
    lines text = [text] := by
  induction text with
  | nil => exact absurd rfl some_
  | cons b more ih =>
      rw [List.mem_cons, not_or] at single
      rw [lines, if_neg (Ne.symm single.1)]
      cases more with
      | nil => rfl
      | cons c more => rw [ih (List.cons_ne_nil c more) single.2]

/-- **A stream has one decomposition into lines.** -/
theorem lines_eq_iff {bytes : Bytes} {all : List Bytes} :
    lines bytes = all ↔ Lines all ∧ all.flatten = bytes := by
  have decomposes (bytes : Bytes) : Lines (lines bytes) ∧ (lines bytes).flatten = bytes := by
    induction bytes with
    | nil => exact ⟨.nil, rfl⟩
    | cons b rest ih =>
        rw [lines]
        by_cases feed : b = lineFeed
        · rw [if_pos feed, feed]
          exact ⟨.cons ⟨[], by simp, rfl⟩ ih.1, by simp [ih.2]⟩
        · rw [if_neg feed]
          have other {text : Bytes} (single : lineFeed ∉ text) : lineFeed ∉ b :: text := by
            rw [List.mem_cons, not_or]
            exact ⟨Ne.symm feed, single⟩
          obtain ⟨shape, whole⟩ := ih
          generalize lines rest = all at shape whole
          -- the byte goes to the front of the first line there is
          cases shape with
          | nil => exact ⟨.cut (by simp) (other (by simp)), by simp [← whole]⟩
          | cut some_ single => exact ⟨.cut (by simp) (other single), by simp [← whole]⟩
          | cons complete later =>
              obtain ⟨text, single, rfl⟩ := complete
              exact ⟨.cons ⟨b :: text, other single, rfl⟩ later, by simp [← whole]⟩
  constructor
  · rintro rfl
    exact decomposes bytes
  · rintro ⟨shape, rfl⟩
    induction shape with
    | nil => rfl
    | cut some_ single => simpa using lines_cut some_ single
    | cons complete later ih =>
        obtain ⟨text, single, rfl⟩ := complete
        rw [List.flatten_cons, List.append_assoc, List.singleton_append, lines_line single, ih]

/-! ## The rule -/

/-- `Passes passed length`: a header passes over these lines, and `length` is what the last of them
that gives one gives as the length of the body. -/
inductive Passes : List Bytes → Option Nat → Prop where
  /-- No line has been read. -/
  | nil : Passes [] none
  /-- A line gives the length, whatever was given before. -/
  | length {passed : List Bytes} {before : Option Nat} {line : Bytes} {n : Nat}
      (earlier : Passes passed before) (gives : Means line (.length n)) :
      Passes (passed ++ [line]) (some n)
  /-- A line gives something else. -/
  | other {passed : List Bytes} {length : Option Nat} {line : Bytes}
      (earlier : Passes passed length) (gives : Means line .other) :
      Passes (passed ++ [line]) length

/-- `Reads all outcome rest`: one call on a stream of these lines comes to `outcome`, and leaves
`rest`. -/
inductive Reads : List Bytes → Outcome → Bytes → Prop where
  /-- There is no line. -/
  | ended : Reads [] .ended []
  /-- There are lines, and all of them are passed over. -/
  | truncated {passed : List Bytes} {length : Option Nat} (passes : Passes passed length)
      (some_ : passed ≠ []) : Reads passed (.failed .truncatedHeader) []
  /-- The first line that is not passed over is no text. -/
  | garbled {passed rest : List Bytes} {length : Option Nat} {line : Bytes}
      (passes : Passes passed length) (stops : Means line .garbled) :
      Reads (passed ++ line :: rest) (.failed (.io .notText)) rest.flatten
  /-- It gives a length that is no number. -/
  | badLength {passed rest : List Bytes} {length : Option Nat} {line : Bytes} {value : String}
      (passes : Passes passed length) (stops : Means line (.badLength value)) :
      Reads (passed ++ line :: rest) (.failed (.invalidContentLength value)) rest.flatten
  /-- It is blank, and no length was given. -/
  | missing {passed rest : List Bytes} {line : Bytes}
      (passes : Passes passed none) (stops : Means line .blank) :
      Reads (passed ++ line :: rest) (.failed .missingContentLength) rest.flatten
  /-- It is blank, and the length that was given last is too great. -/
  | tooLarge {passed rest : List Bytes} {line : Bytes} {n : Nat}
      (passes : Passes passed (some n)) (stops : Means line .blank) (large : maxBytes < n) :
      Reads (passed ++ line :: rest) (.failed (.tooLarge n)) rest.flatten
  /-- It is blank, and fewer bytes follow than were promised. -/
  | cut {passed rest : List Bytes} {line : Bytes} {n : Nat}
      (passes : Passes passed (some n)) (stops : Means line .blank) (fits : n ≤ maxBytes)
      (short : rest.flatten.length < n) :
      Reads (passed ++ line :: rest) (.failed (.io .unexpectedEnd)) []
  /-- It is blank, and the body that follows spells a message. -/
  | message {passed rest : List Bytes} {line body left : Bytes} {v : Json.Value}
      (passes : Passes passed (some body.length)) (stops : Means line .blank)
      (fits : body.length ≤ maxBytes) (split : rest.flatten = body ++ left)
      (spelled : Json.parseBytes? body = some v) :
      Reads (passed ++ line :: rest) (.message v) left
  /-- It is blank, and the body that follows spells none. -/
  | notJson {passed rest : List Bytes} {line body left : Bytes}
      (passes : Passes passed (some body.length)) (stops : Means line .blank)
      (fits : body.length ≤ maxBytes) (split : rest.flatten = body ++ left)
      (unspelled : Json.parseBytes? body = none) :
      Reads (passed ++ line :: rest) (.failed .json) left

/-! ## Headers, line by line -/

/-- What comes of a header, line by line. -/
def headerOf (length : Option Nat) (fresh : Bool) : List Bytes → HeaderOutcome × Bytes
  | [] => (if fresh then .ended else .failed .truncatedHeader, [])
  | line :: rest =>
    match afterLine length line with
    | .inl outcome => (outcome, rest.flatten)
    | .inr length => headerOf length false rest

/-- The header of a stream is read line by line. -/
theorem readHeader?_lines {all : List Bytes} (shape : Lines all) (length : Option Nat)
    (fresh : Bool) :
    readHeader? true [] length fresh all.flatten = some (headerOf length fresh all) := by
  induction shape generalizing length fresh with
  | nil => rfl
  | cut some_ single =>
      rw [List.flatten_singleton, readHeader?_cut length fresh single [] (by simpa using some_),
        headerOf]
      simp only [List.reverse_nil, List.nil_append]
      cases afterLine length _ <;> rfl
  | cons complete later ih =>
      obtain ⟨text, single, rfl⟩ := complete
      rw [List.flatten_cons, List.append_assoc, List.singleton_append,
        readHeader?_line true length fresh single, headerOf]
      simp only [List.reverse_nil, List.nil_append]
      cases afterLine length (text ++ [lineFeed]) with
      | inl outcome => rfl
      | inr length => exact ih length false

/-- A line that means something does that to a header. -/
theorem headerOf_cons {line : Bytes} {h : HeaderLine} (means : Means line h) (length : Option Nat)
    (fresh : Bool) (rest : List Bytes) :
    headerOf length fresh (line :: rest) =
      match h with
      | .garbled => (.failed (.io .notText), rest.flatten)
      | .blank => (length.elim (.failed .missingContentLength) .length, rest.flatten)
      | .length n => headerOf (some n) false rest
      | .badLength value => (.failed (.invalidContentLength value), rest.flatten)
      | .other => headerOf length false rest := by
  rw [headerOf]
  unfold afterLine
  rw [means_iff.mp means]
  cases h with
  | blank => cases length <;> rfl
  | garbled => rfl
  | length n => rfl
  | badLength value => rfl
  | other => rfl

/-- Lines that are passed over leave their length. -/
theorem headerOf_passes {passed : List Bytes} {length : Option Nat} (passes : Passes passed length)
    (rest : List Bytes) :
    headerOf none true (passed ++ rest) = headerOf length passed.isEmpty rest := by
  have begun (earlier : List Bytes) (line : Bytes) : (earlier ++ [line]).isEmpty = false := by
    cases earlier <;> rfl
  induction passes generalizing rest with
  | nil => rfl
  | length earlier gives ih =>
      rw [List.append_assoc, List.singleton_append, ih, headerOf_cons gives, begun]
  | other earlier gives ih =>
      rw [List.append_assoc, List.singleton_append, ih, headerOf_cons gives, begun]

/-- A line that a header does not pass over. -/
inductive Stops (line : Bytes) : Prop where
  /-- It is no text. -/
  | garbled (means : Means line .garbled)
  /-- It is blank. -/
  | blank (means : Means line .blank)
  /-- It gives a length that is no number. -/
  | badLength {value : String} (means : Means line (.badLength value))

/-- A line stops a header or is passed over. -/
theorem stops_or_passes (line : Bytes) :
    Stops line ∨ (∃ n, Means line (.length n)) ∨ Means line .other := by
  have means := means_ofBytes line
  cases h : HeaderLine.ofBytes line with
  | garbled => exact .inl (.garbled (h ▸ means))
  | blank => exact .inl (.blank (h ▸ means))
  | length n => exact .inr (.inl ⟨n, h ▸ means⟩)
  | badLength value => exact .inl (.badLength (h ▸ means))
  | other => exact .inr (.inr (h ▸ means))

/-- All lines are passed over, or there is a first one that is not. -/
theorem exists_first_stop {earlier : List Bytes} {length : Option Nat}
    (passes : Passes earlier length) (all : List Bytes) :
    (∃ length, Passes (earlier ++ all) length) ∨ ∃ passed length line rest,
      earlier ++ all = passed ++ line :: rest ∧ Passes passed length ∧ Stops line := by
  induction all generalizing earlier length with
  | nil => exact .inl ⟨length, by simpa using passes⟩
  | cons line rest ih =>
      rw [List.append_cons]
      rcases stops_or_passes line with stops | ⟨n, gives⟩ | gives
      · exact .inr ⟨earlier, length, line, rest, by simp, passes, stops⟩
      · exact ih (passes.length gives)
      · exact ih (passes.other gives)

/-! ## Calls -/

/-- A body is not read if too few bytes follow. -/
theorem readBody?_short {n : Nat} {bytes : Bytes} (fits : n ≤ maxBytes) (short : bytes.length < n) :
    readBody? true n bytes = some (.failed (.io .unexpectedEnd), []) := by
  have cut : (bytes.take n).length < n := by
    rw [List.length_take]
    omega
  rw [readBody?, if_neg (Nat.not_lt.mpr fits)]
  dsimp only
  rw [if_pos cut]
  rfl

/-- A body is read, and what follows it is left. -/
theorem readBody?_append (ended : Bool) {body : Bytes} (fits : body.length ≤ maxBytes)
    (left : Bytes) :
    readBody? ended body.length (body ++ left) =
      some ((Json.parseBytes? body).elim (.failed .json) .message, left) := by
  rw [readBody?, if_neg (Nat.not_lt.mpr fits), List.take_left, List.drop_left]
  dsimp only
  rw [if_neg (Nat.lt_irrefl _)]
  cases Json.parseBytes? body <;> rfl

/-- A call that follows the rule comes to what it says. -/
theorem Reads.read_eq {all : List Bytes} {outcome : Outcome} {rest : Bytes} (shape : Lines all)
    (reads : Reads all outcome rest) : read all.flatten = (outcome, rest) := by
  apply Frame.read_eq
  rw [read?, readHeader?_lines shape]
  -- the header goes up to the line that stops it, and the body is read from what follows
  cases reads with
  | ended => rfl
  | truncated passes some_ =>
      have begun : all.isEmpty = false := by simpa using some_
      have header := headerOf_passes passes []
      rw [List.append_nil, begun] at header
      rw [header]
      rfl
  | garbled passes stops => rw [headerOf_passes passes, headerOf_cons stops]
  | badLength passes stops => rw [headerOf_passes passes, headerOf_cons stops]
  | missing passes stops =>
      rw [headerOf_passes passes, headerOf_cons stops]
      rfl
  | tooLarge passes stops large =>
      rw [headerOf_passes passes, headerOf_cons stops]
      exact if_pos large
  | cut passes stops fits short =>
      rw [headerOf_passes passes, headerOf_cons stops]
      exact readBody?_short fits short
  | message passes stops fits split spelled =>
      rw [headerOf_passes passes, headerOf_cons stops, split]
      dsimp only [Option.elim]
      rw [readBody?_append true fits, spelled]
      rfl
  | notJson passes stops fits split unspelled =>
      rw [headerOf_passes passes, headerOf_cons stops, split]
      dsimp only [Option.elim]
      rw [readBody?_append true fits, unspelled]
      rfl

/-- Every stream is read by the rule. -/
theorem exists_reads (all : List Bytes) : ∃ outcome rest, Reads all outcome rest := by
  -- either every line is passed over, or there is a first one that stops the header
  rcases exists_first_stop .nil all with
    ⟨length, passes⟩ | ⟨passed, length, line, rest, split, passes, stops⟩
  · rw [List.nil_append] at passes
    by_cases some_ : all = []
    · rw [some_]
      exact ⟨_, _, .ended⟩
    · exact ⟨_, _, .truncated passes some_⟩
  · rw [List.nil_append] at split
    rw [split]
    cases stops with
    | garbled means => exact ⟨_, _, .garbled passes means⟩
    | badLength means => exact ⟨_, _, .badLength passes means⟩
    | blank means =>
        cases length with
        | none => exact ⟨_, _, .missing passes means⟩
        | some n =>
            by_cases large : maxBytes < n
            · exact ⟨_, _, .tooLarge passes means large⟩
            · by_cases short : rest.flatten.length < n
              · exact ⟨_, _, .cut passes means (Nat.not_lt.mp large) short⟩
              · have size : (rest.flatten.take n).length = n := by
                  rw [List.length_take]
                  omega
                rw [← size] at passes large
                have whole := (List.take_append_drop n rest.flatten).symm
                cases body : Json.parseBytes? (rest.flatten.take n) with
                | none => exact ⟨_, _, .notJson passes means (Nat.not_lt.mp large) whole body⟩
                | some v => exact ⟨_, _, .message passes means (Nat.not_lt.mp large) whole body⟩

/-- A call comes to what the rule says of the lines of the stream. -/
theorem read_eq_iff {bytes rest : Bytes} {outcome : Outcome} :
    read bytes = (outcome, rest) ↔ Reads (lines bytes) outcome rest := by
  obtain ⟨shape, whole⟩ := lines_eq_iff.mp (rfl : lines bytes = lines bytes)
  constructor
  · intro answer
    obtain ⟨outcome', rest', reads⟩ := exists_reads (lines bytes)
    have same := reads.read_eq shape
    rw [whole, answer] at same
    cases same
    exact reads
  · intro reads
    rw [← whole]
    exact reads.read_eq shape

/-! ## Other lines -/

/-- Complete lines stand before the others of a stream. -/
theorem lines_append {header : List Bytes} (complete : ∀ line ∈ header, IsLine line)
    (rest : Bytes) : lines (header.flatten ++ rest) = header ++ lines rest := by
  induction header with
  | nil => rfl
  | cons line more ih =>
      rw [List.forall_mem_cons] at complete
      obtain ⟨⟨text, single, rfl⟩, later⟩ := complete
      rw [List.flatten_cons, List.append_assoc, List.append_assoc, List.singleton_append,
        lines_line single, ih later]
      rfl

/-- What has been read of a header when a line follows does not matter. -/
theorem headerOf_fresh {all : List Bytes} (some_ : all ≠ []) (length : Option Nat) (fresh : Bool) :
    headerOf length fresh all = headerOf length false all := by
  cases all with
  | nil => exact absurd rfl some_
  | cons line rest => rfl

/-- **Two headers that give the same length are read alike**, whatever follows them; where nothing
follows, as long as both of them have lines or neither has. -/
theorem read_passed {header header' : List Bytes} {length : Option Nat}
    (complete : ∀ line ∈ header, IsLine line) (complete' : ∀ line ∈ header', IsLine line)
    (passes : Passes header length) (passes' : Passes header' length) {rest : Bytes}
    (followed : rest ≠ [] ∨ (header = [] ↔ header' = [])) :
    read (header.flatten ++ rest) = read (header'.flatten ++ rest) := by
  have same : headerOf length header.isEmpty (lines rest) =
      headerOf length header'.isEmpty (lines rest) := by
    rcases followed with some_ | both
    · have lined : lines rest ≠ [] := by
        intro none_
        exact some_ (lines_eq_iff.mp none_).2.symm
      rw [headerOf_fresh lined, headerOf_fresh lined length header'.isEmpty]
    · have empty : header.isEmpty = header'.isEmpty := by
        rw [Bool.eq_iff_iff, List.isEmpty_iff, List.isEmpty_iff]
        exact both
      rw [empty]
  have read {header : List Bytes} (complete : ∀ line ∈ header, IsLine line)
      (passes : Passes header length) :
      readHeader? true [] none true (header.flatten ++ rest) =
        some (headerOf length header.isEmpty (lines rest)) := by
    obtain ⟨shape, whole⟩ := lines_eq_iff.mp (lines_append complete rest)
    rw [← whole, readHeader?_lines shape, headerOf_passes passes]
  have call : read? true (header.flatten ++ rest) = read? true (header'.flatten ++ rest) := by
    rw [read?, read?, read complete passes, read complete' passes', same]
  simp only [Frame.read, call]

/-! ## Streams that are still open -/

/-- A header that is complete stays what it is when more arrives. -/
theorem readHeader?_more {line bytes rest : Bytes} {length : Option Nat} {fresh : Bool}
    {outcome : HeaderOutcome}
    (known : readHeader? false line length fresh bytes = some (outcome, rest)) (ended : Bool)
    (more : Bytes) :
    readHeader? ended line length fresh (bytes ++ more) = some (outcome, rest ++ more) := by
  induction bytes generalizing line length fresh with
  | nil => cases known
  | cons b bytes ih =>
      rw [readHeader?] at known
      rw [List.cons_append, readHeader?]
      by_cases feed : b = lineFeed
      · rw [if_pos feed] at known ⊢
        cases now : afterLine length (b :: line).reverse with
        | inl o =>
            rw [now] at known
            cases known
            rfl
        | inr length =>
            rw [now] at known
            exact ih known
      · rw [if_neg feed] at known ⊢
        exact ih known

/-- A body that is complete stays what it is when more arrives. -/
theorem readBody?_more {bytes rest : Bytes} {n : Nat} {outcome : Outcome}
    (known : readBody? false n bytes = some (outcome, rest)) (ended : Bool) (more : Bytes) :
    readBody? ended n (bytes ++ more) = some (outcome, rest ++ more) := by
  rw [readBody?] at known ⊢
  by_cases large : maxBytes < n
  · rw [if_pos large] at known ⊢
    cases known
    rfl
  · rw [if_neg large] at known ⊢
    dsimp only at known ⊢
    by_cases short : (bytes.take n).length < n
    · rw [if_pos short] at known
      cases known
    -- the body is there already, and what arrives later stands behind it
    · have within : n ≤ bytes.length := by
        rw [List.length_take] at short
        omega
      rw [if_neg short] at known
      rw [List.take_append_of_le_length within, List.drop_append_of_le_length within, if_neg short]
      cases body : Json.parseBytes? (bytes.take n) with
      | none =>
          rw [body] at known
          cases known
          rfl
      | some v =>
          rw [body] at known
          cases known
          rfl

/-- **What a call comes to while the stream is open**, it comes to whatever arrives later. -/
theorem read?_more {bytes rest : Bytes} {outcome : Outcome}
    (known : read? false bytes = some (outcome, rest)) (ended : Bool) (more : Bytes) :
    read? ended (bytes ++ more) = some (outcome, rest ++ more) := by
  rw [read?] at known ⊢
  cases header : readHeader? false [] none true bytes with
  | none =>
      rw [header] at known
      cases known
  | some answer =>
      obtain ⟨answer, left⟩ := answer
      rw [header] at known
      rw [readHeader?_more header ended more]
      cases answer with
      | ended =>
          cases known
          rfl
      | failed e =>
          cases known
          rfl
      | length n => exact readBody?_more known ended more

/-! ## The reader and the rule -/

/-- **A call comes to what the rule says.** A stream has one decomposition into lines, and for every
stream the outcome of a call and what it leaves are those that `Reads` gives for the lines. In
particular a header is read by the last length that its lines give: headers that give the same one
are read alike, so a line that gives something else can be added or left out anywhere before the
line that stops the call (behind the last line that there is, this shows that the stream was not
empty). Nor does it matter that the stream goes on once a call has come to something. -/
theorem reads_by_lines :
    (∀ bytes, Lines (lines bytes) ∧ (lines bytes).flatten = bytes ∧
        ∀ all, Lines all → all.flatten = bytes → all = lines bytes) ∧
      (∀ bytes outcome rest, read bytes = (outcome, rest) ↔ Reads (lines bytes) outcome rest) ∧
      (∀ header header' length rest, (∀ line ∈ header, IsLine line) →
        (∀ line ∈ header', IsLine line) → Passes header length → Passes header' length →
        (rest ≠ [] ∨ (header = [] ↔ header' = [])) →
        read (header.flatten ++ rest) = read (header'.flatten ++ rest)) ∧
      (∀ header line length rest, (∀ line ∈ header, IsLine line) → Passes header length →
        IsLine line → Means line .other → (rest ≠ [] ∨ header ≠ []) →
        read (header.flatten ++ (line ++ rest)) = read (header.flatten ++ rest)) ∧
      ∀ bytes outcome rest more, read? false bytes = some (outcome, rest) →
        read (bytes ++ more) = (outcome, rest ++ more) := by
  refine ⟨fun bytes => ?_, fun _ _ _ => read_eq_iff, ?_, ?_, ?_⟩
  · obtain ⟨shape, whole⟩ := lines_eq_iff.mp (rfl : lines bytes = lines bytes)
    exact ⟨shape, whole, fun all other same => (lines_eq_iff.mpr ⟨other, same⟩).symm⟩
  · intro header header' length rest complete complete' passes passes' followed
    exact read_passed complete complete' passes passes' followed
  · intro header line length rest complete passes single gives followed
    have longer : ∀ l ∈ header ++ [line], IsLine l := by
      intro l hl
      rcases List.mem_append.mp hl with old | new
      · exact complete l old
      · exact List.mem_singleton.mp new ▸ single
    have begun : header ++ [line] ≠ [] := by simp
    have with_ := read_passed longer complete (passes.other gives) passes
      (followed.imp_right fun some_ => ⟨fun h => absurd h begun, fun h => absurd h some_⟩)
    simpa using with_
  · intro bytes outcome rest more known
    exact Frame.read_eq (read?_more known true more)

/-- A line that gives something else than a length. -/
def typeLine : Bytes := Bytes.ofString "Content-Type: x\n"

/-- A line that gives a length of four, in its own way. -/
def fourLine : Bytes := Bytes.ofString "CONTENT-length :\t+4\r\n"

/-- A message is read for the length that its header gives, whatever else the header gives. -/
theorem reads_by_lines_typed :
    read (typeLine ++ (fourLine ++ Bytes.ofString "\r\nnull,")) =
      (.message .null, Bytes.ofString ",") := by
  obtain ⟨-, rule, -, other, -⟩ := reads_by_lines
  have plain : read (fourLine ++ Bytes.ofString "\r\nnull,") =
      (.message .null, Bytes.ofString ",") := by
    have gives : Means fourLine (.length 4) := means_iff.mpr (by decide)
    have passes : Passes [fourLine] (some (Bytes.ofString "null").length) := .length .nil gives
    have blank : Means (Bytes.ofString "\r\n") .blank := means_iff.mpr (by decide)
    have split : lines (fourLine ++ Bytes.ofString "\r\nnull,") =
        [fourLine] ++ Bytes.ofString "\r\n" :: [Bytes.ofString "null,"] := by decide
    have body : [Bytes.ofString "null,"].flatten = Bytes.ofString "null" ++ Bytes.ofString "," := by
      decide
    rw [rule, split]
    exact .message passes blank (by decide) body rfl
  have single : IsLine typeLine := ⟨Bytes.ofString "Content-Type: x", by decide, by decide⟩
  have gives : Means typeLine .other := means_iff.mpr (by decide)
  have added := other [] typeLine none (fourLine ++ Bytes.ofString "\r\nnull,") (by simp) .nil
    single gives (.inl (by decide))
  rw [← plain]
  exact added

end ToolingHost.Frame
