import ToolingHost.Config.Settings
import ToolingHost.Toml.Numeral
import ToolingHost.Toml.Reader

/-! # Settings from a document

Each group of settings is a record with named fields. A record may be given as a table, in which
unknown keys are passed over and missing ones have their initial values, or as an array with the
fields in order, in which what follows the last field is not looked at. What is passed over in a
table is read all the same, so its numbers must be of a size that is taken. A date stands for a
table without any known key. Every field has one type and accepts no other. -/

namespace ToolingHost.Config

/-- A record as a document gives it. -/
inductive RecordSource where
  /-- By the names of the fields. -/
  | named (members : Toml.Members)
  /-- By their order. -/
  | ordered (items : List Toml.Value)

/-- The members of a table as a record with the given fields, if what is passed over can be read.
-/
def RecordSource.ofMembers? (fields : List String) (members : Toml.Members) : Option RecordSource :=
  if members.all fun (key, v) => fields.contains key || v.isTaken then some (.named members)
  else none

/-- A value as a record with the given fields, if it can be one. -/
def RecordSource.ofValue? (fields : List String) : Toml.Value → Option RecordSource
  | .table _ members => ofMembers? fields members
  | .array items => some (.ordered items)
  | .tables items => some (.ordered (items.reverse.map (.table .header)))
  | .dateTime _ => some (.named [])
  | _ => none

/-- The value of the field with a name and a place, if the record gives one. -/
def RecordSource.field? (source : RecordSource) (name : String) (place : Nat) : Option Toml.Value :=
  match source with
  | .named members => members.get? name
  | .ordered items => items[place]?

/-- A field that is decoded if it is there and has an initial value otherwise. -/
def decodeField? {α : Type} (decode? : Toml.Value → Option α) (initial : α) :
    Option Toml.Value → Option α
  | none => some initial
  | some v => decode? v

/-- A truth value. -/
def decodeBool? : Toml.Value → Option Bool
  | .boolean b => some b
  | _ => none

/-- A text. -/
def decodeString? : Toml.Value → Option String
  | .string s => some s
  | _ => none

/-- A list of texts. -/
def decodeStrings? : Toml.Value → Option (List String)
  | .array items => items.mapM decodeString?
  | _ => none

/-- The settings of a subsystem. -/
def decodeSubsystem? (v : Toml.Value) : Option SubsystemSettings := do
  let source ← RecordSource.ofValue? ["enabled", "path", "args"] v
  let initial := SubsystemSettings.initial
  let enabled ← decodeField? decodeBool? initial.enabled (source.field? "enabled" 0)
  let path ← decodeField? decodeString? initial.path (source.field? "path" 1)
  let args ← decodeField? decodeStrings? initial.args (source.field? "args" 2)
  return { enabled, path, args }

/-- The settings of the log. Given in order, the filter must be there. -/
def decodeLog? (v : Toml.Value) : Option LogSettings := do
  match ← RecordSource.ofValue? ["filter"] v with
  | .named members =>
    return ⟨← decodeField? (fun v => (decodeString? v).map some) none (members.get? "filter")⟩
  | .ordered [] => none
  | .ordered (filter :: _) => return ⟨some (← decodeString? filter)⟩

/-- The settings of both subsystems. -/
def decodeSubsystems? (v : Toml.Value) : Option (SubsystemSettings × SubsystemSettings) := do
  let source ← RecordSource.ofValue? (Subsystem.all.map Subsystem.configKey) v
  let decode (s : Subsystem) : Option SubsystemSettings :=
    decodeField? decodeSubsystem? .initial (source.field? s.configKey s.rank)
  return (← decode .languageServer, ← decode .debugAdapter)

/-- All settings of a document. -/
def decode? (document : Toml.Members) : Option Settings := do
  let source ← RecordSource.ofMembers? [Subsystem.configSection, "log"] document
  let (languageServer, debugAdapter) ←
    decodeField? decodeSubsystems? (.initial, .initial) (source.field? Subsystem.configSection 0)
  let log ← decodeField? (fun v => (decodeLog? v).map some) none (source.field? "log" 1)
  return { languageServer, debugAdapter, log }

/-- The settings that a text gives. -/
def parse? (text : String) : Option Settings := (Toml.parse? text).bind decode?

/-- An empty document gives the initial settings. -/
@[simp] theorem decode?_nil : decode? [] = some Settings.initial := rfl

end ToolingHost.Config
