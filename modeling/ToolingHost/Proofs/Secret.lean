import ToolingHost.Activation.Kotlin
import ToolingHost.Proofs.Text.Ascii
import ToolingHost.Proofs.Text.Utf8

/-! # Which variables the language server is given

The names of variables are byte strings, and `HasSecretForm` says of a byte string what the patterns
of `Secret.denylist` say of a text. The two agree on every name that is text: an ASCII letter is
its own byte in it, and the upper case of the text keeps the letters of a pattern together
(`upper_text`). A name that is not text is not looked at, whatever its form. So the server is given
the variables of the program less those with a text for a name that the patterns flag: as they stand
if there are none of these, else in the order of their names and each name with its last value
(`given_to_server`). A secret goes through under a name that is not text
(`secret_given_to_server`). -/

namespace ToolingHost

namespace Bytes

/-- The byte of an ASCII letter in upper case; every other byte as it is. -/
def upperByte (b : UInt8) : UInt8 := if 97 ≤ b ∧ b ≤ 122 then b - 32 else b

/-- A byte string with its ASCII letters in upper case. -/
def upperAscii (bytes : Bytes) : Bytes := bytes.map upperByte

/-- The bytes of longer characters are no letters. -/
theorem lt_of_upperByte_lt {b : UInt8} (ascii : upperByte b < 0x80) : b < 0x80 := by
  unfold upperByte at ascii
  by_cases letter : 97 ≤ b ∧ b ≤ 122
  · obtain ⟨-, high⟩ := letter
    rw [UInt8.le_iff_toNat_le] at high
    rw [UInt8.lt_iff_toNat_lt]
    exact Nat.lt_of_le_of_lt high (by decide)
  · rwa [if_neg letter] at ascii

end Bytes

namespace Utf8

/-- On ASCII characters the two upper cases agree. -/
theorem upper_asciiChar {b : UInt8} (ascii : b < 0x80) :
    Text.upper [asciiChar b] = [asciiChar (Bytes.upperByte b)] := by
  have all : ∀ n < 128, Text.upper [asciiChar (UInt8.ofNat n)] =
      [asciiChar (Bytes.upperByte (UInt8.ofNat n))] := by decide
  have one := all b.toNat (UInt8.lt_iff_toNat_lt.mp ascii)
  rwa [UInt8.ofNat_toNat] at one

/-- In upper case, ASCII characters are those of the bytes in upper case. -/
theorem upper_map_asciiChar {run : Bytes} (ascii : ∀ b ∈ run, b < 0x80) :
    Text.upper (run.map asciiChar) = (Bytes.upperAscii run).map asciiChar := by
  induction run with
  | nil => rfl
  | cons b rest ih =>
      obtain ⟨first, others⟩ := List.forall_mem_cons.mp ascii
      calc Text.upper (asciiChar b :: rest.map asciiChar)
          = Text.upper [asciiChar b] ++ Text.upper (rest.map asciiChar) :=
            Text.upper_append [asciiChar b] _
        _ = asciiChar (Bytes.upperByte b) :: (Bytes.upperAscii rest).map asciiChar := by
            rw [upper_asciiChar first, ih others]
            rfl

/-- The bytes of ASCII characters are ASCII bytes. -/
theorem lt_of_mem_ofChars {chars : List Char} (ascii : Ascii chars) {b : UInt8}
    (hb : b ∈ Bytes.ofChars chars) : b < 0x80 := by
  rw [Bytes.ofChars_of_ascii ascii] at hb
  obtain ⟨c, hc, rfl⟩ := List.mem_map.mp hb
  rw [UInt8.lt_iff_toNat_lt, Bytes.toNat_byte (ascii c hc)]
  exact ascii c hc

/-- The characters of the bytes of ASCII characters. -/
theorem map_asciiChar_ofChars {chars : List Char} (ascii : Ascii chars) :
    (Bytes.ofChars chars).map asciiChar = chars := by
  rw [Bytes.ofChars_of_ascii ascii, List.map_map]
  have same : ∀ c ∈ chars, (asciiChar ∘ Bytes.byte) c = id c := by
    intro c hc
    show Char.ofNat (Bytes.byte c).toNat = c
    rw [Bytes.toNat_byte (ascii c hc), Char.ofNat_toNat]
  rw [List.map_congr_left same, List.map_id]

/-- **An ASCII text that stands in the upper case of the bytes stands in the upper case of the
text**, and at the same end. -/
theorem upper_text {name left right : Bytes} {text : String} {word : List Char}
    (read : text? name = some text) (ascii : Ascii word) (some_ : word ≠ [])
    (stands : name.upperAscii = left ++ Bytes.ofChars word ++ right) :
    ∃ before after, Text.upper text.toList = before ++ word ++ after ∧
      (left = [] → before = []) ∧ (right = [] → after = []) := by
  obtain ⟨most, final, rfl, atMost, atFinal⟩ := List.map_eq_append_iff.mp stands
  obtain ⟨first, run, rfl, atFirst, atRun⟩ := List.map_eq_append_iff.mp atMost
  obtain ⟨chars, decoded, rfl⟩ := Option.map_eq_some_iff.mp read
  have low : ∀ b ∈ run, b < 0x80 := by
    intro b hb
    apply Bytes.lt_of_upperByte_lt
    apply lt_of_mem_ofChars ascii
    rw [← atRun]
    exact List.mem_map_of_mem hb
  have nonempty : run ≠ [] := by
    rintro rfl
    have none_ : word.map Bytes.byte = [] := by
      rw [← Bytes.ofChars_of_ascii ascii, ← atRun]
      rfl
    exact some_ (List.map_eq_nil_iff.mp none_)
  obtain ⟨before, after, rfl, atFront, atBack⟩ := chars?_append_ascii decoded nonempty low
  have middle : Text.upper (run.map asciiChar) = word := by
    rw [upper_map_asciiChar low, Bytes.upperAscii, atRun, map_asciiChar_ofChars ascii]
  -- an empty part in the bytes is an empty part in the text
  refine ⟨Text.upper before, Text.upper after, ?_, ?_, ?_⟩
  · rw [String.toList_ofList, Text.upper_append, Text.upper_append, middle]
  · intro none_
    rw [none_, List.map_eq_nil_iff] at atFirst
    rw [atFront atFirst]
    rfl
  · intro none_
    rw [none_, List.map_eq_nil_iff] at atFinal
    rw [atBack atFinal]
    rfl

end Utf8

namespace Secret

/-- The endings of the names of secrets. -/
def endings : List String := ["_API_KEY", "_TOKEN", "_SECRET", "_PASSWORD"]

/-- Whether a name, its ASCII letters in upper case, has the form of the name of a secret. -/
inductive HasSecretForm (name : Bytes) : Prop where
  /-- It ends as the names of secrets end. -/
  | ending (e : String) (known : e ∈ endings) (stands : Bytes.ofString e <:+ name.upperAscii)
  /-- It tells of a credential. -/
  | credential (stands : Bytes.ofString "_CREDENTIAL" <:+: name.upperAscii)
  /-- It belongs to a family of names of secrets. -/
  | family (stands : Bytes.ofString "AWS_" <+: name.upperAscii)

/-- What occurs in a text is a part of it. -/
theorem occursIn_iff {needle text : List Char} :
    occursIn needle text = true ↔ needle <:+: text := by
  induction text with
  | nil => simp [occursIn]
  | cons c rest ih => simp [occursIn, ih, List.infix_cons_iff]

/-- Each of the endings has its pattern. -/
theorem globMatches_ending {e : String} (known : e ∈ endings) (before : List Char) :
    ∃ pattern ∈ denylist, globMatches pattern.toList (before ++ e.toList) = true := by
  have matched : ∀ word ∈ endings, ∃ pattern ∈ denylist,
      ∀ key, globMatches pattern.toList key = word.toList.isSuffixOf key := by
    intro word hword
    simp only [endings, List.mem_cons, List.not_mem_nil, or_false] at hword
    rcases hword with rfl | rfl | rfl | rfl
    · exact ⟨"*_API_KEY", by decide, fun key => rfl⟩
    · exact ⟨"*_TOKEN", by decide, fun key => rfl⟩
    · exact ⟨"*_SECRET", by decide, fun key => rfl⟩
    · exact ⟨"*_PASSWORD", by decide, fun key => rfl⟩
  obtain ⟨pattern, listed, same⟩ := matched e known
  refine ⟨pattern, listed, ?_⟩
  rw [same, List.isSuffixOf_iff_suffix]
  exact List.suffix_append before e.toList

/-- A text that matches a pattern names a secret. -/
theorem isSecret_of_globMatches {text pattern : String} (listed : pattern ∈ denylist)
    (matched : globMatches pattern.toList (Text.upper text.toList) = true) :
    isSecret text = true :=
  List.any_eq_true.mpr ⟨pattern, listed, matched⟩

/-- A text with the form of the name of a secret is known as one. -/
theorem isSecret_of_hasSecretForm {name : Bytes} {text : String} (form : HasSecretForm name)
    (read : Utf8.text? name = some text) : isSecret text = true := by
  -- each form cuts the name in upper case, and `upper_text` carries the cut over to the text
  cases form with
  | ending e known stands =>
      obtain ⟨left, stands⟩ := stands
      have whole : name.upperAscii = left ++ Bytes.ofChars e.toList ++ [] := by
        rw [List.append_nil]
        exact stands.symm
      have ascii : Ascii e.toList :=
        ascii_of_all ((by decide : ∀ e ∈ endings, e.toList.all (fun c => c.toNat < 128)) e known)
      have some_ : e.toList ≠ [] := (by decide : ∀ e ∈ endings, e.toList ≠ []) e known
      obtain ⟨before, after, key, -, atEnd⟩ := Utf8.upper_text read ascii some_ whole
      obtain ⟨pattern, listed, matched⟩ := globMatches_ending known before
      apply isSecret_of_globMatches listed
      rwa [key, atEnd rfl, List.append_nil]
  | credential stands =>
      obtain ⟨left, right, stands⟩ := stands
      have whole : name.upperAscii = left ++ Bytes.ofChars "_CREDENTIAL".toList ++ right :=
        stands.symm
      obtain ⟨before, after, key, -, -⟩ :=
        Utf8.upper_text read (ascii_of_all (by decide)) (by decide) whole
      have listed : "*_CREDENTIAL*" ∈ denylist := by decide
      apply isSecret_of_globMatches listed
      show occursIn "_CREDENTIAL".toList (Text.upper text.toList) = true
      rw [key, occursIn_iff]
      exact ⟨before, after, rfl⟩
  | family stands =>
      obtain ⟨right, stands⟩ := stands
      have whole : name.upperAscii = [] ++ Bytes.ofChars "AWS_".toList ++ right := stands.symm
      obtain ⟨before, after, key, atFront, -⟩ :=
        Utf8.upper_text read (ascii_of_all (by decide)) (by decide) whole
      have listed : "AWS_*" ∈ denylist := by decide
      apply isSecret_of_globMatches listed
      show "AWS_".toList.isPrefixOf (Text.upper text.toList) = true
      rw [key, atFront rfl, List.isPrefixOf_iff_prefix]
      exact ⟨after, rfl⟩

/-- A name is flagged if it is a text that a pattern matches. -/
def IsFlagged (name : Bytes) : Prop :=
  ∃ text, Utf8.text? name = some text ∧ isSecret text = true

/-- The names that are scrubbed are the flagged ones. -/
theorem isSecretName_iff {name : Bytes} : isSecretName name = true ↔ IsFlagged name := by
  unfold isSecretName IsFlagged
  cases Utf8.text? name with
  | none => simp
  | some text => simp

/-- The names that are not scrubbed are those that are not flagged. -/
theorem isSecretName_eq_false_iff {name : Bytes} :
    isSecretName name = false ↔ ¬ IsFlagged name := by
  rw [← isSecretName_iff, Bool.not_eq_true]

/-- Among the names of the form of the name of a secret, the flagged ones are the texts. -/
theorem HasSecretForm.not_isFlagged_iff {name : Bytes} (form : HasSecretForm name) :
    ¬ IsFlagged name ↔ Utf8.text? name = none := by
  constructor
  · intro unflagged
    cases read : Utf8.text? name with
    | none => rfl
    | some text => exact absurd ⟨text, read, isSecret_of_hasSecretForm form read⟩ unflagged
  · rintro unread ⟨text, read, -⟩
    rw [unread] at read
    cases read

end Secret

namespace Environment

variable {env : Environment} {p : Bytes → Bool} {name value : Bytes}

/-- The last variable with a name is a variable with that name. -/
theorem mem_of_last? (last : env.last? name = some value) : (name, value) ∈ env.entries :=
  List.mem_reverse.mp (Ordered.mem_of_lookup last)

/-- A name has a last variable exactly if it is the name of one. -/
theorem last?_isSome_iff : (∃ value, env.last? name = some value) ↔ name ∈ env.names := by
  constructor
  · rintro ⟨value, last⟩
    exact List.mem_map.mpr ⟨_, mem_of_last? last, rfl⟩
  · intro there
    cases last : env.last? name with
    | some value => exact ⟨value, rfl⟩
    | none =>
        obtain ⟨v, listed, rfl⟩ := List.mem_map.mp there
        have other := List.lookup_eq_none_iff.mp last v (List.mem_reverse.mpr listed)
        exact absurd rfl (bne_iff_ne.mp other)

/-- Where names are different, every variable is the last with its name. -/
theorem last?_eq_some_iff_mem (distinct : env.names.Nodup) :
    env.last? name = some value ↔ (name, value) ∈ env.entries := by
  rw [last?, Ordered.lookup_reverse distinct, Ordered.lookup_eq_some_iff_mem distinct]

/-- An environment from which nothing is taken out stays as it is. -/
theorem without_eq_self (none_ : ∀ name ∈ env.names, p name = false) : env.without p = env :=
  if_neg fun some_ => by
    obtain ⟨name, there, out⟩ := List.any_eq_true.mp some_
    rw [none_ name there] at out
    cases out

/-- The entries of an environment from which something is taken out. -/
theorem entries_without (some_ : ∃ name ∈ env.names, p name = true) :
    (env.without p).entries = (Ordered.ofList env.entries).filter fun var => !p var.1 := by
  rw [without, if_pos (List.any_eq_true.mpr some_)]

/-- An environment from which something is taken out has its names in order. -/
theorem without_sorted (some_ : ∃ name ∈ env.names, p name = true) :
    Ordered.Sorted (env.without p).entries := by
  rw [entries_without some_]
  exact (Ordered.ofList_sorted env.entries).filter _

/-- Where something is taken out, each of the other names has its last value. -/
theorem mem_without (some_ : ∃ name ∈ env.names, p name = true) :
    (name, value) ∈ (env.without p).entries ↔ env.last? name = some value ∧ p name = false := by
  rw [entries_without some_, List.mem_filter, Ordered.mem_ofList, Bool.not_eq_true']
  rfl

/-- Nothing is passed on but variables that are there and are not to be taken out. -/
theorem mem_of_mem_without (given : (name, value) ∈ (env.without p).entries) :
    (name, value) ∈ env.entries ∧ p name = false := by
  by_cases some_ : ∃ name ∈ env.names, p name = true
  · obtain ⟨last, left⟩ := (mem_without some_).mp given
    exact ⟨mem_of_last? last, left⟩
  · have none_ : ∀ name ∈ env.names, p name = false := by simpa using some_
    rw [without_eq_self none_] at given
    exact ⟨given, none_ name (List.mem_map.mpr ⟨_, given, rfl⟩)⟩

/-- The names that are passed on are those that are not to be taken out. -/
theorem mem_names_without : name ∈ (env.without p).names ↔ name ∈ env.names ∧ p name = false := by
  constructor
  · intro given
    obtain ⟨⟨_, value⟩, there, rfl⟩ := List.mem_map.mp given
    obtain ⟨there, left⟩ := mem_of_mem_without there
    exact ⟨List.mem_map.mpr ⟨_, there, rfl⟩, left⟩
  · rintro ⟨there, left⟩
    by_cases some_ : ∃ name ∈ env.names, p name = true
    · obtain ⟨value, last⟩ := last?_isSome_iff.mpr there
      exact List.mem_map.mpr ⟨_, (mem_without some_).mpr ⟨last, left⟩, rfl⟩
    · rwa [without_eq_self (by simpa using some_)]

/-- Where names are different, the variables that are not to be taken out are passed on. -/
theorem mem_without_of_nodup (distinct : env.names.Nodup) :
    (name, value) ∈ (env.without p).entries ↔ (name, value) ∈ env.entries ∧ p name = false := by
  refine ⟨mem_of_mem_without, fun ⟨there, left⟩ => ?_⟩
  by_cases some_ : ∃ name ∈ env.names, p name = true
  · exact (mem_without some_).mpr ⟨(last?_eq_some_iff_mem distinct).mpr there, left⟩
  · rwa [without_eq_self (by simpa using some_)]

end Environment

namespace Activation.Kotlin

open Secret (IsFlagged HasSecretForm)

/-- **What the language server is given of the environment.** If no name is flagged, it is given the
environment as it stands. Else it is given each name that is not flagged, in the order of the names
and with the last value that the name has. So every variable that it is given is one of the program
that is not flagged, and where no two variables have one name it is given all of these. Of the names
that have the form of the name of a secret, it is given exactly those that are not text. -/
theorem given_to_server (s : Surroundings) (args : List String) (path : FilePath) :
    let given := (serverCommand s args path).given
    ((∀ name ∈ s.env.names, ¬ IsFlagged name) → given = s.env) ∧
    ((∃ name ∈ s.env.names, IsFlagged name) →
      given.entries.Pairwise (fun one other => one.1 < other.1) ∧
      ∀ name value, (name, value) ∈ given.entries ↔
        s.env.last? name = some value ∧ ¬ IsFlagged name) ∧
    (∀ name value, (name, value) ∈ given.entries →
      (name, value) ∈ s.env.entries ∧ ¬ IsFlagged name) ∧
    (s.env.names.Nodup → ∀ name value, (name, value) ∈ given.entries ↔
      (name, value) ∈ s.env.entries ∧ ¬ IsFlagged name) ∧
    ∀ name ∈ s.env.names, HasSecretForm name → (name ∈ given.names ↔ Utf8.text? name = none) := by
  intro given
  simp only [← Secret.isSecretName_eq_false_iff]
  refine ⟨Environment.without_eq_self, ?_, ?_, ?_, ?_⟩
  · intro flagged
    simp only [← Secret.isSecretName_iff] at flagged
    exact ⟨Environment.without_sorted flagged, fun _ _ => Environment.mem_without flagged⟩
  · exact fun _ _ => Environment.mem_of_mem_without
  · exact fun distinct _ _ => Environment.mem_without_of_nodup distinct
  · intro name there form
    rw [← form.not_isFlagged_iff, ← Secret.isSecretName_eq_false_iff]
    exact Environment.mem_names_without.trans (and_iff_right there)

/-- The variable whose name is `_TOKEN` after a byte that occurs in no text. -/
def strayToken : Bytes × Bytes := (0xFF :: Bytes.ofString "_TOKEN", Bytes.ofString "x")

/-- Surroundings with this variable. -/
def strayed : Surroundings where
  env := ⟨[strayToken]⟩
  storage := .ofString "/storage"
  isProgram := fun _ => false
  dialogue := ⟨[], none, []⟩

/-- A secret under a name that is not text is given to the server, though a variable can have this
name, and it has the form of the name of a secret. -/
theorem secret_given_to_server :
    strayToken ∈ strayed.env.entries ∧ Environment.IsName strayToken.1 ∧
      HasSecretForm strayToken.1 ∧
      strayToken ∈ (serverCommand strayed [] (.ofString "/server")).given.entries := by
  have form : HasSecretForm strayToken.1 := .ending "_TOKEN" (by decide) ⟨[0xFF], by decide⟩
  have given : strayToken ∈ (serverCommand strayed [] (.ofString "/server")).given.entries := by
    decide
  exact ⟨List.mem_singleton_self _, by decide, form, given⟩

end Activation.Kotlin

end ToolingHost
