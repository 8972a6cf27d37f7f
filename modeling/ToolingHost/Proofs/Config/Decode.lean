import Mathlib.Logic.Basic
import ToolingHost.Config.Decode

/-! # What settings a document gives

A document is a tree of tables, and a setting is at the end of a path of keys through it
(`Members.at?`). The keys that are known in each table are listed in `records`. A document in which
no list and no date stands for a table is decoded exactly if the tables are tables, the settings
have their types and what is passed over can be read; then every setting is what stands at the end
of its path, or its initial value where the path breaks off (`decode?_eq_some_iff`). So what stands
at other keys does not matter, as long as it can be read, and the settings of a subsystem do not
depend on those of the other (`decoded_iff_well_typed`).

What is passed over is read all the same, and a number in it may be too great: then the whole
document is refused (`unknown_number_refused`). -/

namespace ToolingHost.Toml

/-- The value of a key in what may be a table. -/
def member? (found : Option Value) (key : String) : Option Value :=
  match found with
  | some (.table _ members) => Members.get? members key
  | _ => none

/-- The value at the end of a path of keys, which leads through tables. -/
def Members.at? (document : Members) (path : List String) : Option Value :=
  path.foldl member? (some (.table .header document))

/-- A value is a table. -/
def Value.IsTable (v : Value) : Prop := ∃ origin members, v = .table origin members

/-- A value is a list, also one of the tables with one repeated header, or a date. -/
inductive Value.IsListOrDate : Value → Prop where
  /-- It is a list. -/
  | array (items : List Value) : IsListOrDate (.array items)
  /-- It is a list of tables. -/
  | tables (items : List Members) : IsListOrDate (.tables items)
  /-- It is a date. -/
  | dateTime (spelling : String) : IsListOrDate (.dateTime spelling)

end ToolingHost.Toml

namespace ToolingHost.Config

open Toml (Value Members member?)

/-! ## Settings in a document -/

/-- The tables that are looked at in a document, by their paths, and the keys that are known in each
of them. -/
def records : List (List String × List String) :=
  [([], ["kotlin", "log"]),
    (["kotlin"], ["languageServer", "debugAdapter"]),
    (["kotlin", "languageServer"], ["enabled", "path", "args"]),
    (["kotlin", "debugAdapter"], ["enabled", "path", "args"]),
    (["log"], ["filter"])]

/-- The path of the table of a subsystem. -/
def tablePath (s : Subsystem) : List String := ["kotlin", s.configKey]

/-- A list of texts as a value. -/
def stringsValue (texts : List String) : Value := .array (texts.map .string)

/-- A setting is what the document gives, as a value of the form of its type, or the initial value
if the document gives nothing. -/
inductive IsSetting {α : Type} (form : α → Value) (initial : α) : Option Value → α → Prop where
  /-- The document gives it. -/
  | given (a : α) : IsSetting form initial (some (form a)) a
  /-- The document gives nothing. -/
  | missing : IsSetting form initial none initial

/-- The settings of a subsystem are those of its table. -/
structure IsSubsystem (found : Option Value) (settings : SubsystemSettings) : Prop where
  /-- It is started unless the table says that it is not. -/
  enabled : IsSetting .boolean true (member? found "enabled") settings.enabled
  /-- Its path is empty unless the table gives one. -/
  path : IsSetting .string "" (member? found "path") settings.path
  /-- It has the arguments that the table lists. -/
  args : IsSetting stringsValue [] (member? found "args") settings.args

/-- The settings of the log are those of its table. -/
structure IsLog (found : Option Value) (log : Option LogSettings) : Prop where
  /-- There are some exactly if there is a table. -/
  present : log = none ↔ found = none
  /-- The filter is the one that the table gives, if it gives one. -/
  filter : member? found "filter" = (log.bind LogSettings.filter).map .string

/-- The settings are those of the document. -/
structure Means (document : Members) (settings : Settings) : Prop where
  /-- Those of each subsystem. -/
  subsystem (s : Subsystem) : IsSubsystem (document.at? (tablePath s)) (settings.subsystem s)
  /-- Those of the log. -/
  log : IsLog (document.at? ["log"]) settings.log

/-- No list and no date stands for a table. -/
def NamesTables (document : Members) : Prop :=
  ∀ record ∈ records, ∀ v, document.at? record.1 = some v → ¬v.IsListOrDate

/-- What is in the place of a table is one, and what is in the place of a setting is of its type. -/
structure WellTyped (document : Members) : Prop where
  /-- The tables are tables. -/
  tables : ∀ record ∈ records, ∀ v, document.at? record.1 = some v → v.IsTable
  /-- Whether a subsystem is started is a truth value. -/
  enabled : ∀ s v, document.at? (tablePath s ++ ["enabled"]) = some v → ∃ b, v = .boolean b
  /-- The path of a subsystem is a text. -/
  path : ∀ s v, document.at? (tablePath s ++ ["path"]) = some v → ∃ text, v = .string text
  /-- The arguments of a subsystem are a list of texts. -/
  args : ∀ s v, document.at? (tablePath s ++ ["args"]) = some v → ∃ texts, v = stringsValue texts
  /-- The filter of the log is a text. -/
  filter : ∀ v, document.at? ["log", "filter"] = some v → ∃ text, v = .string text

/-- A value is passed over: it stands in one of the tables under a key that is not known there. -/
def PassedOver (document : Members) (v : Value) : Prop :=
  ∃ record ∈ records, ∃ origin members key,
    document.at? record.1 = some (.table origin members) ∧ (key, v) ∈ members ∧ key ∉ record.2

/-- All numbers in what is passed over are of a size that is taken. -/
def TakesAll (document : Members) : Prop := ∀ v, PassedOver document v → v.isTaken = true

/-- Two documents may give the same for a key: both nothing, both a table, or the same value. -/
inductive Alike : Option Value → Option Value → Prop where
  /-- Both give nothing. -/
  | missing : Alike none none
  /-- Both give a table. -/
  | table {origin origin' : Toml.Origin} {members members' : Members} :
      Alike (some (.table origin members)) (some (.table origin' members'))
  /-- Both give the same value. -/
  | same (v : Value) : Alike (some v) (some v)

/-- Two documents differ at most in what stands at unknown keys, at any level. -/
def SameKnown (document document' : Members) : Prop :=
  ∀ record ∈ records, ∀ key ∈ record.2,
    Alike (document.at? (record.1 ++ [key])) (document'.at? (record.1 ++ [key]))

variable {α : Type} {found found' : Option Value} {v : Value} {initial a : α}
  {form : α → Value} {known : List String} {document document' : Members} {settings : Settings}

/-! ## Fields -/

/-- A field is decoded if it is there, and has its initial value otherwise. -/
theorem decodeField?_eq_some_iff {decode? : Value → Option α} :
    decodeField? decode? initial found = some a ↔
      found = none ∧ a = initial ∨ ∃ v, found = some v ∧ decode? v = some a := by
  cases found with
  | none => simp [decodeField?, eq_comm]
  | some v => simp [decodeField?]

/-- A field whose values are decoded from their form is decoded to the setting. -/
theorem decodeField?_iff_isSetting {decode? : Value → Option α}
    (decodes : ∀ {v a}, decode? v = some a ↔ v = form a) :
    decodeField? decode? initial found = some a ↔ IsSetting form initial found a := by
  rw [decodeField?_eq_some_iff]
  constructor
  · rintro (⟨rfl, rfl⟩ | ⟨v, rfl, given⟩)
    · exact .missing
    · rw [decodes.mp given]
      exact .given a
  · intro setting
    cases setting with
    | given => exact .inr ⟨_, rfl, decodes.mpr rfl⟩
    | missing => exact .inl ⟨rfl, rfl⟩

/-- Truth values are decoded. -/
theorem decodeBool?_eq_some_iff {b : Bool} : decodeBool? v = some b ↔ v = .boolean b := by
  cases v <;> simp [decodeBool?]

/-- Texts are decoded. -/
theorem decodeString?_eq_some_iff {text : String} :
    decodeString? v = some text ↔ v = .string text := by
  cases v <;> simp [decodeString?]

/-- A filter is decoded if it is there. -/
theorem decodeField?_filter_iff {filter : Option String} :
    decodeField? (fun v => (decodeString? v).map some) none found = some filter ↔
      found = filter.map .string := by
  rw [decodeField?_eq_some_iff]
  simp only [Option.map_eq_some_iff, decodeString?_eq_some_iff]
  cases filter with
  | none => simp
  | some text => simp

/-- Lists of texts are decoded. -/
theorem decodeStrings?_eq_some_iff {texts : List String} :
    decodeStrings? v = some texts ↔ v = stringsValue texts := by
  have each (items : List Value) :
      items.mapM decodeString? = some texts ↔ items = texts.map .string := by
    induction items generalizing texts with
    | nil => cases texts <;> simp
    | cons item items ih =>
        simp only [List.mapM_cons, Option.bind_eq_bind, Option.bind_eq_some_iff,
          decodeString?_eq_some_iff, Option.pure_def, Option.some_inj, ih]
        cases texts with
        | nil => simp
        | cons text texts => simp
  cases v <;> simp [decodeStrings?, stringsValue, each]

/-- There is a setting exactly if what the document gives is of its type. -/
theorem exists_isSetting_iff (initial : α) :
    (∃ a, IsSetting form initial found a) ↔ ∀ v, found = some v → ∃ a, v = form a := by
  constructor
  · rintro ⟨a, setting⟩ v rfl
    cases setting with
    | given => exact ⟨a, rfl⟩
  · intro typed
    cases found with
    | none => exact ⟨initial, .missing⟩
    | some v =>
        obtain ⟨a, rfl⟩ := typed v rfl
        exact ⟨a, .given a⟩

/-! ## Tables -/

/-- What may be found in the place of a table: nothing, or a table in which all that is passed over
can be read. -/
inductive IsRecord (known : List String) : Option Value → Prop where
  /-- There is none. -/
  | missing : IsRecord known none
  /-- There is a table. -/
  | table (origin : Toml.Origin) {members : Members}
      (takes : ∀ key v, (key, v) ∈ members → key ∉ known → v.isTaken = true) :
      IsRecord known (some (.table origin members))

/-- A table is a record with its members if what is passed over can be read. -/
theorem ofMembers?_eq_some_iff {members : Members} {source : RecordSource} :
    RecordSource.ofMembers? known members = some source ↔
      (∀ key v, (key, v) ∈ members → key ∉ known → v.isTaken = true) ∧
        source = .named members := by
  rw [RecordSource.ofMembers?, Option.ite_none_right_eq_some, Option.some_inj,
    eq_comm (a := source)]
  simp only [List.all_eq_true, Prod.forall, Bool.or_eq_true, List.contains_iff_mem,
    or_iff_not_imp_left]

/-- Where neither a list nor a date stands for it, a record is a table. -/
theorem ofValue?_eq_some_iff (apt : ¬v.IsListOrDate) {source : RecordSource} :
    RecordSource.ofValue? known v = some source ↔
      IsRecord known (some v) ∧ ∃ origin members, v = .table origin members ∧
        source = .named members := by
  cases v with
  | array items => exact absurd (.array items) apt
  | tables items => exact absurd (.tables items) apt
  | dateTime spelling => exact absurd (.dateTime spelling) apt
  | string | integer | float | boolean =>
      constructor
      · nofun
      · rintro ⟨-, _, _, same, -⟩
        cases same
  | table origin members =>
      rw [RecordSource.ofValue?, ofMembers?_eq_some_iff]
      constructor
      · rintro ⟨takes, rfl⟩
        exact ⟨.table origin takes, origin, members, rfl, rfl⟩
      · rintro ⟨record, _, _, same, rfl⟩
        cases same
        cases record with
        | table _ takes => exact ⟨takes, rfl⟩

/-- **What is found in the place of a table** is decoded exactly if it is a record whose members are
decoded. -/
theorem decodeField?_record_iff {decodeMembers? : RecordSource → Option α} {P : Option Value → Prop}
    (apt : ∀ v, found = some v → ¬v.IsListOrDate) (absent : initial = a ↔ P none)
    (decodes : ∀ origin members,
      decodeMembers? (.named members) = some a ↔ P (some (.table origin members))) :
    decodeField? (fun v => (RecordSource.ofValue? known v).bind decodeMembers?) initial found =
        some a ↔ IsRecord known found ∧ P found := by
  cases found with
  | none => simp [decodeField?, absent, IsRecord.missing]
  | some v =>
      rw [decodeField?, Option.bind_eq_some_iff]
      simp only [ofValue?_eq_some_iff (apt v rfl)]
      constructor
      · rintro ⟨_, ⟨record, origin, members, rfl, rfl⟩, decoded⟩
        exact ⟨record, (decodes origin members).mp decoded⟩
      · rintro ⟨record, holds⟩
        cases record with
        | table origin takes =>
            exact ⟨_, ⟨.table origin takes, origin, _, rfl, rfl⟩, (decodes origin _).mpr holds⟩

/-- A subsystem without a table has the initial settings. -/
theorem isSubsystem_none_iff {settings : SubsystemSettings} :
    IsSubsystem none settings ↔ settings = .initial := by
  constructor
  · rintro ⟨enabled, path, args⟩
    cases settings
    cases enabled
    cases path
    cases args
    rfl
  · rintro rfl
    exact ⟨.missing, .missing, .missing⟩

/-- The settings of a subsystem are decoded. -/
theorem decodeField?_subsystem_iff {settings : SubsystemSettings}
    (apt : ∀ v, found = some v → ¬v.IsListOrDate) :
    decodeField? decodeSubsystem? .initial found = some settings ↔
      IsRecord ["enabled", "path", "args"] found ∧ IsSubsystem found settings := by
  apply decodeField?_record_iff apt
  · rw [isSubsystem_none_iff, eq_comm]
  · intro origin members
    simp only [Option.bind_eq_bind, Option.bind_eq_some_iff, Option.pure_def, Option.some_inj,
      decodeField?_iff_isSetting decodeBool?_eq_some_iff,
      decodeField?_iff_isSetting decodeString?_eq_some_iff,
      decodeField?_iff_isSetting decodeStrings?_eq_some_iff]
    constructor
    · rintro ⟨enabled, isEnabled, path, isPath, args, isArgs, rfl⟩
      exact ⟨isEnabled, isPath, isArgs⟩
    · rintro ⟨isEnabled, isPath, isArgs⟩
      exact ⟨_, isEnabled, _, isPath, _, isArgs, rfl⟩

/-- The settings of the log are decoded. -/
theorem decodeField?_log_iff {log : Option LogSettings}
    (apt : ∀ v, found = some v → ¬v.IsListOrDate) :
    decodeField? (fun v => (decodeLog? v).map some) none found = some log ↔
      IsRecord ["filter"] found ∧ IsLog found log := by
  simp only [decodeLog?, Option.bind_eq_bind, Option.map_bind]
  apply decodeField?_record_iff apt
  · constructor
    · rintro rfl
      exact ⟨iff_of_true rfl rfl, rfl⟩
    · rintro ⟨present, -⟩
      exact (present.mpr rfl).symm
  · intro origin members
    simp only [Function.comp_apply, Option.map_eq_some_iff, Option.bind_eq_some_iff,
      Option.pure_def, Option.some_inj, decodeField?_filter_iff]
    constructor
    · rintro ⟨_, ⟨filter, given, rfl⟩, rfl⟩
      exact ⟨iff_of_false nofun nofun, given⟩
    · rintro ⟨present, given⟩
      cases log with
      | none => exact absurd (present.mp rfl) nofun
      | some log => exact ⟨log, ⟨log.filter, given, rfl⟩, rfl⟩

/-- The settings of both subsystems are decoded, each from its own table. -/
theorem decodeField?_subsystems_iff {both : SubsystemSettings × SubsystemSettings}
    (apt : ∀ v, found = some v → ¬v.IsListOrDate) :
    decodeField? decodeSubsystems? (.initial, .initial) found = some both ↔
      IsRecord ["languageServer", "debugAdapter"] found ∧
        decodeField? decodeSubsystem? .initial (member? found "languageServer") = some both.1 ∧
        decodeField? decodeSubsystem? .initial (member? found "debugAdapter") = some both.2 := by
  obtain ⟨languageServer, debugAdapter⟩ := both
  apply decodeField?_record_iff apt
  · simp [member?, decodeField?]
  · intro origin members
    simp only [Option.bind_eq_bind, Option.bind_eq_some_iff, Option.pure_def, Option.some_inj,
      Prod.mk.injEq]
    constructor
    · rintro ⟨_, first, _, second, rfl, rfl⟩
      exact ⟨first, second⟩
    · rintro ⟨first, second⟩
      exact ⟨_, first, _, second, rfl, rfl⟩

/-! ## Documents -/

/-- All tables are looked at. -/
theorem forall_records {P : List String × List String → Prop} :
    (∀ record ∈ records, P record) ↔
      P ([], ["kotlin", "log"]) ∧ P (["kotlin"], ["languageServer", "debugAdapter"]) ∧
        (∀ s, P (tablePath s, ["enabled", "path", "args"])) ∧ P (["log"], ["filter"]) := by
  simp only [records, List.forall_mem_cons, List.not_mem_nil, false_implies, implies_true, and_true]
  constructor
  · rintro ⟨root, kotlin, languageServer, debugAdapter, log⟩
    exact ⟨root, kotlin, fun s => by cases s <;> assumption, log⟩
  · rintro ⟨root, kotlin, subsystem, log⟩
    exact ⟨root, kotlin, subsystem .languageServer, subsystem .debugAdapter, log⟩

/-- A document is decoded if the tables in it are. -/
theorem decode?_eq_some_iff_tables :
    decode? document = some settings ↔
      IsRecord ["kotlin", "log"] (document.at? []) ∧
        decodeField? decodeSubsystems? (.initial, .initial) (document.at? ["kotlin"]) =
          some (settings.languageServer, settings.debugAdapter) ∧
        decodeField? (fun v => (decodeLog? v).map some) none (document.at? ["log"]) =
          some settings.log := by
  simp only [decode?, Option.bind_eq_bind, Option.bind_eq_some_iff, Option.pure_def,
    Option.some_inj, ofMembers?_eq_some_iff]
  constructor
  · rintro ⟨_, ⟨takes, rfl⟩, _, both, _, log, rfl⟩
    exact ⟨.table .header takes, both, log⟩
  · rintro ⟨record, both, log⟩
    cases record with
    | table _ takes => exact ⟨_, ⟨takes, rfl⟩, _, both, _, log, rfl⟩

/-- **A document is decoded** exactly if its tables are records, and then to the settings that it
gives. -/
theorem decode?_eq_some_iff (apt : NamesTables document) :
    decode? document = some settings ↔
      (∀ record ∈ records, IsRecord record.2 (document.at? record.1)) ∧
        Means document settings := by
  rw [NamesTables, forall_records] at apt
  obtain ⟨-, aptKotlin, aptEach, aptLog⟩ := apt
  have each (s : Subsystem) :
      decodeField? decodeSubsystem? .initial (document.at? (tablePath s)) =
          some (settings.subsystem s) ↔
        IsRecord ["enabled", "path", "args"] (document.at? (tablePath s)) ∧
          IsSubsystem (document.at? (tablePath s)) (settings.subsystem s) :=
    decodeField?_subsystem_iff (aptEach s)
  rw [decode?_eq_some_iff_tables, decodeField?_subsystems_iff aptKotlin,
    decodeField?_log_iff aptLog, forall_records]
  constructor
  · rintro ⟨root, ⟨kotlin, languageServer, debugAdapter⟩, recordLog, log⟩
    obtain ⟨recordServer, server⟩ := (each .languageServer).mp languageServer
    obtain ⟨recordAdapter, adapter⟩ := (each .debugAdapter).mp debugAdapter
    exact ⟨⟨root, kotlin, fun s => by cases s <;> assumption, recordLog⟩,
      fun s => by cases s <;> assumption, log⟩
  · rintro ⟨⟨root, kotlin, tables, recordLog⟩, means⟩
    exact ⟨root, ⟨kotlin, (each .languageServer).mpr ⟨tables _, means.subsystem _⟩,
      (each .debugAdapter).mpr ⟨tables _, means.subsystem _⟩⟩, recordLog, means.log⟩

/-- The tables are records exactly if they are tables and what is passed over can be read. -/
theorem isRecord_iff : (∀ record ∈ records, IsRecord record.2 (document.at? record.1)) ↔
    (∀ record ∈ records, ∀ v, document.at? record.1 = some v → v.IsTable) ∧ TakesAll document := by
  constructor
  · intro isRecord
    constructor
    · intro record listed v found
      have is := isRecord record listed
      rw [found] at is
      cases is with
      | table origin takes => exact ⟨origin, _, rfl⟩
    · rintro v ⟨record, listed, origin, members, key, found, member, unknown⟩
      have is := isRecord record listed
      rw [found] at is
      cases is with
      | table _ takes => exact takes key v member unknown
  · rintro ⟨tables, takesAll⟩ record listed
    cases found : document.at? record.1 with
    | none => exact .missing
    | some v =>
        obtain ⟨origin, members, rfl⟩ := tables record listed v found
        refine .table origin fun key v member unknown => ?_
        exact takesAll v ⟨record, listed, origin, members, key, found, member, unknown⟩

/-- There are settings of a subsystem exactly if each of them has its type. -/
theorem exists_isSubsystem_iff : (∃ settings, IsSubsystem found settings) ↔
    (∀ v, member? found "enabled" = some v → ∃ b, v = .boolean b) ∧
      (∀ v, member? found "path" = some v → ∃ text, v = .string text) ∧
        ∀ v, member? found "args" = some v → ∃ texts, v = stringsValue texts := by
  constructor
  · rintro ⟨settings, enabled, path, args⟩
    exact ⟨(exists_isSetting_iff true).mp ⟨_, enabled⟩, (exists_isSetting_iff "").mp ⟨_, path⟩,
      (exists_isSetting_iff []).mp ⟨_, args⟩⟩
  · rintro ⟨enabled, path, args⟩
    obtain ⟨enabled, isEnabled⟩ := (exists_isSetting_iff true).mpr enabled
    obtain ⟨path, isPath⟩ := (exists_isSetting_iff "").mpr path
    obtain ⟨args, isArgs⟩ := (exists_isSetting_iff []).mpr args
    exact ⟨⟨enabled, path, args⟩, isEnabled, isPath, isArgs⟩

/-- There are settings of the log exactly if the filter has its type. -/
theorem exists_isLog_iff : (∃ log, IsLog found log) ↔
    ∀ v, member? found "filter" = some v → ∃ text, v = .string text := by
  constructor
  · rintro ⟨log, -, filter⟩ v given
    rw [given] at filter
    obtain ⟨text, -, is⟩ := Option.map_eq_some_iff.mp filter.symm
    exact ⟨text, is.symm⟩
  · intro typed
    cases found with
    | none => exact ⟨none, iff_of_true rfl rfl, rfl⟩
    | some v =>
        cases given : member? (some v) "filter" with
        | none => exact ⟨some ⟨none⟩, iff_of_false nofun nofun, given⟩
        | some filter =>
            obtain ⟨text, rfl⟩ := typed filter given
            exact ⟨some ⟨some text⟩, iff_of_false nofun nofun, given⟩

/-- In a well-typed document no list and no date stands for a table. -/
theorem WellTyped.namesTables (typed : WellTyped document) : NamesTables document := by
  intro record listed v found
  obtain ⟨origin, members, rfl⟩ := typed.tables record listed v found
  nofun

/-- **A document can be decoded** exactly if it is well typed and what is passed over can be read.
-/
theorem exists_decode?_iff (apt : NamesTables document) :
    (∃ settings, decode? document = some settings) ↔ WellTyped document ∧ TakesAll document := by
  simp only [decode?_eq_some_iff apt, isRecord_iff]
  constructor
  · rintro ⟨settings, ⟨tables, takesAll⟩, means⟩
    have each (s : Subsystem) := exists_isSubsystem_iff.mp ⟨_, means.subsystem s⟩
    refine ⟨⟨tables, ?_, ?_, ?_, ?_⟩, takesAll⟩
    · exact fun s => (each s).1
    · exact fun s => (each s).2.1
    · exact fun s => (each s).2.2
    · exact exists_isLog_iff.mp ⟨_, means.log⟩
  · rintro ⟨typed, takesAll⟩
    have each (s : Subsystem) : ∃ settings, IsSubsystem (document.at? (tablePath s)) settings :=
      exists_isSubsystem_iff.mpr ⟨typed.enabled s, typed.path s, typed.args s⟩
    obtain ⟨languageServer, isServer⟩ := each .languageServer
    obtain ⟨debugAdapter, isAdapter⟩ := each .debugAdapter
    obtain ⟨log, isLog⟩ := exists_isLog_iff.mpr typed.filter
    refine ⟨⟨languageServer, debugAdapter, log⟩, ⟨typed.tables, takesAll⟩, ?_, isLog⟩
    intro s
    cases s with
    | languageServer => exact isServer
    | debugAdapter => exact isAdapter

/-! ## What does not matter -/

/-- Giving the same is mutual. -/
theorem Alike.symm (alike : Alike found found') : Alike found' found := by
  cases alike with
  | missing => exact .missing
  | table => exact .table
  | same v => exact .same v

/-- Where documents give the same, both give nothing or neither does. -/
theorem Alike.eq_none_iff (alike : Alike found found') : found = none ↔ found' = none := by
  cases alike <;> simp

/-- Where documents give the same, there are tables in both or in neither. -/
theorem Alike.isTable (alike : Alike found found') (tables : ∀ v, found = some v → v.IsTable) :
    ∀ v, found' = some v → v.IsTable := by
  cases alike with
  | missing | same => exact tables
  | table =>
      rintro _ ⟨⟩
      exact ⟨_, _, rfl⟩

/-- Where documents give the same, there are lists and dates in both or in neither. -/
theorem Alike.not_isListOrDate (alike : Alike found found')
    (apt : ∀ v, found = some v → ¬v.IsListOrDate) : ∀ v, found' = some v → ¬v.IsListOrDate := by
  cases alike with
  | missing | same => exact apt
  | table =>
      rintro _ ⟨⟩
      nofun

/-- What is no table is the same where documents give the same. -/
theorem Alike.eq (alike : Alike found found') (plain : ∀ v, found = some v → ¬v.IsTable) :
    found' = found := by
  cases alike with
  | missing | same => rfl
  | table => exact absurd ⟨_, _, rfl⟩ (plain _ rfl)

/-- A setting that is no table is the same where documents give the same. -/
theorem Alike.isSetting (alike : Alike found found') (plain : ∀ a, ¬(form a).IsTable)
    (setting : IsSetting form initial found a) : IsSetting form initial found' a := by
  rw [alike.eq]
  · exact setting
  · rintro v rfl
    cases setting with
    | given => exact plain a

namespace SameKnown

/-- Differing in unknown keys is mutual. -/
theorem symm (same : SameKnown document document') : SameKnown document' document :=
  fun record listed key known => (same record listed key known).symm

/-- Documents with the same known keys give the same in the place of every table. -/
theorem alike (same : SameKnown document document') :
    ∀ record ∈ records, Alike (document.at? record.1) (document'.at? record.1) := by
  rw [SameKnown, forall_records] at same
  obtain ⟨root, kotlin, -, -⟩ := same
  rw [forall_records]
  refine ⟨.table, root "kotlin" (by decide), fun s => ?_, root "log" (by decide)⟩
  cases s with
  | languageServer => exact kotlin "languageServer" (by decide)
  | debugAdapter => exact kotlin "debugAdapter" (by decide)

/-- Documents with the same known keys mean the same settings. -/
theorem means (same : SameKnown document document') (means : Means document settings) :
    Means document' settings := by
  have alikeLog : Alike (document.at? ["log"]) (document'.at? ["log"]) :=
    same.alike (["log"], ["filter"]) (by decide)
  rw [SameKnown, forall_records] at same
  obtain ⟨-, -, tables, log⟩ := same
  constructor
  · intro s
    obtain ⟨enabled, path, args⟩ := means.subsystem s
    have each (key : String) (known : key ∈ ["enabled", "path", "args"]) :
        Alike (member? (document.at? (tablePath s)) key)
          (member? (document'.at? (tablePath s)) key) := tables s key known
    exact ⟨(each _ (by decide)).isSetting nofun enabled, (each _ (by decide)).isSetting nofun path,
      (each _ (by decide)).isSetting nofun args⟩
  · obtain ⟨present, filter⟩ := means.log
    have alikeFilter : Alike (member? (document.at? ["log"]) "filter")
        (member? (document'.at? ["log"]) "filter") := log "filter" (by decide)
    refine ⟨present.trans alikeLog.eq_none_iff, ?_⟩
    rw [alikeFilter.eq]
    · exact filter
    · intro v given
      rw [filter] at given
      obtain ⟨text, -, rfl⟩ := Option.map_eq_some_iff.mp given
      nofun

/-- **Unknown keys do not matter**: such documents are decoded alike, if what is passed over can be
read in both or in neither. -/
theorem decode?_eq (same : SameKnown document document') (apt : NamesTables document)
    (takes : TakesAll document' ↔ TakesAll document) : decode? document' = decode? document := by
  have apt' : NamesTables document' := fun record listed =>
    (same.alike record listed).not_isListOrDate (apt record listed)
  have tables : (∀ record ∈ records, ∀ v, document'.at? record.1 = some v → v.IsTable) ↔
      ∀ record ∈ records, ∀ v, document.at? record.1 = some v → v.IsTable :=
    ⟨fun tables record listed => (same.symm.alike record listed).isTable (tables record listed),
      fun tables record listed => (same.alike record listed).isTable (tables record listed)⟩
  apply Option.ext
  intro settings
  rw [decode?_eq_some_iff apt', decode?_eq_some_iff apt, isRecord_iff, isRecord_iff, tables, takes]
  exact and_congr_right fun _ => ⟨same.symm.means, same.means⟩

end SameKnown

/-- **The settings of a subsystem depend on its own table only.** -/
theorem subsystem_eq {settings' : Settings} (apt : NamesTables document)
    (apt' : NamesTables document') (decoded : decode? document = some settings)
    (decoded' : decode? document' = some settings') {s : Subsystem}
    (same : document'.at? (tablePath s) = document.at? (tablePath s)) :
    settings'.subsystem s = settings.subsystem s := by
  rw [decode?_eq_some_iff apt] at decoded
  rw [decode?_eq_some_iff apt'] at decoded'
  have table : (tablePath s, ["enabled", "path", "args"]) ∈ records := by cases s <;> decide
  have given := (decodeField?_subsystem_iff (apt _ table)).mpr
    ⟨decoded.1 _ table, decoded.2.subsystem s⟩
  have given' := (decodeField?_subsystem_iff (apt' _ table)).mpr
    ⟨decoded'.1 _ table, decoded'.2.subsystem s⟩
  dsimp only at given given'
  rw [same, given] at given'
  exact (Option.some_inj.mp given').symm

/-! ## Main statement -/

/-- **Well-typed documents give settings.** A text that spells a document in which no list and no
date stands for a table gives settings exactly if the document is well typed and the numbers in what
is passed over are of a size that is taken; and the settings are those that the document gives, or
the initial ones. Another document that differs in unknown keys only comes to the same, if what is
passed over can be read in both or in neither. The settings of a subsystem depend on no table but
its own. -/
theorem decoded_iff_well_typed {text : String} (parsed : Toml.parse? text = some document)
    (apt : NamesTables document) :
    ((∃ settings, parse? text = some settings) ↔ WellTyped document ∧ TakesAll document) ∧
      (∀ settings, parse? text = some settings → Means document settings) ∧
      (∀ text' document', Toml.parse? text' = some document' → SameKnown document document' →
        (TakesAll document' ↔ TakesAll document) → parse? text' = parse? text) ∧
      ∀ text' document' settings settings', Toml.parse? text' = some document' →
        NamesTables document' → parse? text = some settings → parse? text' = some settings' →
        ∀ s, document'.at? (tablePath s) = document.at? (tablePath s) →
          settings'.subsystem s = settings.subsystem s := by
  have parse_eq {text document} (parsed : Toml.parse? text = some document) :
      parse? text = decode? document := by rw [parse?, parsed, Option.bind_some]
  rw [parse_eq parsed]
  refine ⟨exists_decode?_iff apt, ?_, ?_, ?_⟩
  · exact fun settings decoded => ((decode?_eq_some_iff apt).mp decoded).2
  · intro text' document' parsed' same takes
    rw [parse_eq parsed', same.decode?_eq apt takes]
  · intro text' document' settings settings' parsed' apt' decoded decoded' s same
    rw [parse_eq parsed'] at decoded'
    exact subsystem_eq apt apt' decoded decoded' same

/-- A document with a filter and an unknown key. -/
def spare : Members :=
  [("log", .table .dotted [("filter", .string "f")]), ("x", .integer "1")]

/-- The document `spare` without its unknown key. -/
def bare : Members := [("log", .table .dotted [("filter", .string "f")])]

/-- Without the unknown key the same settings are decoded, and some are. -/
theorem decoded_iff_well_typed_spare :
    parse? "log.filter = \"f\"" = parse? "log.filter = \"f\"\nx = 1" ∧
      ∃ settings, parse? "log.filter = \"f\"\nx = 1" = some settings := by
  have parsed : Toml.parse? "log.filter = \"f\"\nx = 1" = some spare := rfl
  have parsed' : Toml.parse? "log.filter = \"f\"" = some bare := rfl
  have isRecord : ∀ record ∈ records, IsRecord record.2 (spare.at? record.1) := by
    rw [forall_records]
    refine ⟨.table _ ?_, .missing, fun s => .missing, .table _ ?_⟩
    · intro key v member unknown
      simp only [spare, List.mem_cons, Prod.mk.injEq, List.not_mem_nil, or_false] at member
      rcases member with ⟨rfl, -⟩ | ⟨-, rfl⟩
      · exact absurd (by decide) unknown
      · decide +kernel
    · simp
  have isRecord' : ∀ record ∈ records, IsRecord record.2 (bare.at? record.1) := by
    rw [forall_records]
    refine ⟨.table _ ?_, .missing, fun s => .missing, .table _ ?_⟩
    · simp [bare]
    · simp
  obtain ⟨tables, takes⟩ := isRecord_iff.mp isRecord
  obtain ⟨-, takes'⟩ := isRecord_iff.mp isRecord'
  have typed : WellTyped spare := by
    refine ⟨tables, ?_, ?_, ?_, ?_⟩
    · rintro s _ ⟨⟩
    · rintro s _ ⟨⟩
    · rintro s _ ⟨⟩
    · rintro _ ⟨⟩
      exact ⟨_, rfl⟩
  have same : SameKnown spare bare := by
    rw [SameKnown, forall_records]
    simp only [List.forall_mem_cons]
    refine ⟨⟨.missing, .table, nofun⟩, ⟨.missing, .missing, nofun⟩, ?_, .same _, nofun⟩
    exact fun s => ⟨.missing, .missing, .missing, nofun⟩
  obtain ⟨decodes, -, alike, -⟩ := decoded_iff_well_typed parsed typed.namesTables
  exact ⟨alike _ _ parsed' same ⟨fun _ => takes, fun _ => takes'⟩, decodes.mpr ⟨typed, takes⟩⟩

/-- A document with an unknown key that has a number beyond the greatest finite one. -/
def boundless : Members := [("x", .float "1e309")]

/-- **A number at an unknown key refuses the document** if it is too great, although nothing is
looked for at the key and the document is well typed. -/
theorem unknown_number_refused :
    Toml.parse? "x = 1e309" = some boundless ∧ NamesTables boundless ∧ WellTyped boundless ∧
      parse? "x = 1e309" = none ∧ parse? "" = some .initial := by
  have parsed : Toml.parse? "x = 1e309" = some boundless := rfl
  have refused : (parse? "x = 1e309").isNone = true := by decide +kernel
  have typed : WellTyped boundless := by
    refine ⟨?_, ?_, ?_, ?_, ?_⟩
    · rw [forall_records]
      refine ⟨?_, ?_, ?_, ?_⟩
      · rintro _ ⟨⟩
        exact ⟨_, _, rfl⟩
      · rintro _ ⟨⟩
      · rintro s _ ⟨⟩
      · rintro _ ⟨⟩
    · rintro s _ ⟨⟩
    · rintro s _ ⟨⟩
    · rintro s _ ⟨⟩
    · rintro _ ⟨⟩
  exact ⟨parsed, typed.namesTables, typed, Option.isNone_iff_eq_none.mp refused, rfl⟩

end ToolingHost.Config
