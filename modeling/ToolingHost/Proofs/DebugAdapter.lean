import ToolingHost.DebugAdapter
import ToolingHost.Proofs.Rpc.Incoming
import ToolingHost.Proofs.Text.Encoding

/-! # What a registration tells a host

A host gets a registration as a JSON value. `Registration.ofValue?` takes the value apart again: it
looks at a few keys, and all other members of a configuration are its properties. What it finds is
what was registered, unless a property has a key that stands for something else, and then it is not
(`read_back_iff_isPlain`). So no two registrations without such properties are given to a host as
the same value. -/

namespace ToolingHost

namespace Json.Value

/-- The texts in an array. -/
def strings? (v : Value) : Option (List String) := v.items?.bind fun items => items.mapM string?

/-- The texts in an object, with their keys. -/
def stringMembers? : Value → Option (List (String × String))
  | .object members => members.mapM fun (key, value) => value.string?.map fun text => (key, text)
  | _ => none

/-- An array of texts has these texts. -/
@[simp] theorem strings?_array (texts : List String) :
    (array (texts.map string)).strings? = some texts := by
  show (texts.map string).mapM string? = some texts
  rw [List.mapM_map]
  exact List.mapM_pure.trans (congrArg some (List.map_id texts))

/-- An object of texts has these texts. -/
@[simp] theorem stringMembers?_object (texts : List (String × String)) :
    (object (texts.map fun (key, text) => (key, .string text))).stringMembers? = some texts := by
  unfold stringMembers?
  dsimp only
  rw [List.mapM_map]
  exact List.mapM_pure.trans (congrArg some (List.map_id texts))

end Json.Value

namespace DebugAdapter

open Json (Value Members)

/-! ## Taking a value apart -/

/-- The command in a value. -/
def Command.ofValue? (v : Value) : Option Command := do
  let path ← (v.get? "command").bind Value.string?
  let args ← (v.get? "args").bind Value.strings?
  let env ← match v.get? "env" with
    | none => some []
    | some env => env.stringMembers?
  return ⟨.ofString path, args, env⟩

/-- The keys of a configuration that do not stand for a property. -/
def fixedKeys : List String := ["type", "request", "name"]

/-- The properties among members. -/
def propertiesOf (members : Members) : Members :=
  members.filter fun member => !fixedKeys.contains member.1

/-- The configuration in a value. -/
def Configuration.ofValue? : Value → Option Configuration
  | .object members => do
    let debugType ← (Members.get? members "type").bind Value.string?
    let request ← (Members.get? members "request").bind Value.string?
    let name ← (Members.get? members "name").bind Value.string?
    return ⟨debugType, request, name, propertiesOf members⟩
  | _ => none

/-- The registration in a value. -/
def Registration.ofValue? (v : Value) : Option Registration := do
  let debugType ← (v.get? "debugType").bind Value.string?
  let command ← (v.get? "executable").bind Command.ofValue?
  let items ← (v.get? "initialConfigurations").bind Value.items?
  let configurations ← items.mapM Configuration.ofValue?
  return ⟨debugType, command, configurations⟩

/-! ## Reading back -/

/-- No property has a key that stands for something else. -/
def Configuration.IsPlain (c : Configuration) : Prop := ∀ p ∈ c.properties, p.1 ∉ fixedKeys

/-- No configuration has such a property. -/
def Registration.IsPlain (r : Registration) : Prop := ∀ c ∈ r.configurations, c.IsPlain

/-- **A command is read back.** -/
theorem Command.ofValue?_of_toValue? {c : Command} {v : Value} (given : c.toValue? = some v) :
    ofValue? v = some c := by
  obtain ⟨path, args, env⟩ := c
  obtain ⟨text, read, same⟩ := Option.bind_eq_some_iff.mp given
  have bytes : path = .ofString text := by
    rw [FilePath.ofString, Utf8.text?_eq_some_iff.mp read]
  cases env with
  | nil =>
      cases same
      simp [ofValue?, Members.get?_cons, Value.string?, bytes]
  | cons first rest =>
      have texts := Value.stringMembers?_object (first :: rest)
      cases same
      simp only [List.map_cons] at texts
      simp [ofValue?, Members.get?_cons, Value.string?, bytes, texts]

/-- A configuration is read back, but for the properties with a key that stands for something else.
-/
theorem Configuration.ofValue?_toValue (c : Configuration) :
    ofValue? c.toValue = some { c with properties := propertiesOf c.properties } := by
  simp [toValue, ofValue?, Members.get?_cons, Value.string?, propertiesOf, fixedKeys]

/-- The properties of a configuration are all that is read back exactly if it is plain. -/
theorem Configuration.propertiesOf_eq_iff (c : Configuration) :
    { c with properties := propertiesOf c.properties } = c ↔ c.IsPlain := by
  obtain ⟨debugType, request, name, properties⟩ := c
  simp [propertiesOf, IsPlain, List.filter_eq_self]

/-- Configurations are all read back exactly if they are plain. -/
theorem mapM_ofValue?_eq_iff (configurations : List Configuration) :
    (configurations.map Configuration.toValue).mapM Configuration.ofValue? = some configurations ↔
      ∀ c ∈ configurations, c.IsPlain := by
  have read : Configuration.ofValue? ∘ Configuration.toValue =
      fun c => pure { c with properties := propertiesOf c.properties } :=
    funext Configuration.ofValue?_toValue
  have same := List.map_inj_left (l := configurations) (g := id)
    (f := fun c => { c with properties := propertiesOf c.properties })
  rw [List.mapM_map, read, List.mapM_pure, ← forall₂_congr fun c _ => c.propertiesOf_eq_iff]
  simpa using same

/-- **A registration is read back exactly if it is plain.** -/
theorem read_back_iff_isPlain {r : Registration} {v : Value} (given : r.toValue? = some v) :
    Registration.ofValue? v = some r ↔ r.IsPlain := by
  obtain ⟨debugType, command, configurations⟩ := r
  obtain ⟨executable, told, same⟩ := Option.bind_eq_some_iff.mp given
  cases same
  have read := Command.ofValue?_of_toValue? told
  rw [Registration.IsPlain, ← mapM_ofValue?_eq_iff]
  simp [-List.mapM_map, Registration.ofValue?, Members.get?_cons, Value.string?, Value.items?, read,
    Option.bind_eq_some_iff]

/-- The configurations that are offered for Kotlin are plain. -/
theorem Kotlin.isPlain_registration (path : FilePath) (args : List String) :
    (Kotlin.registration path args).IsPlain := by
  have all : ∀ c ∈ Kotlin.configurations, ∀ key ∈ c.properties.map Prod.fst, key ∉ fixedKeys := by
    decide
  exact fun c hc p hp => all c hc p.1 (List.mem_map_of_mem hp)

/-- **What is registered can be told from what a host is given.** A registration is given to a host
unless no text has the bytes of its path. If no property of a configuration has the key of another
member, as in the configurations for Kotlin, everything is read back from the value: the debug type,
the command with its arguments and its environment, and each configuration with its properties, in
order. With such a property, it is not. So two registrations without one that are given as the same
value are the same. -/
theorem registrations_read_back (r : Registration) :
    (r.toValue? = none ↔ ∀ text, Bytes.ofString text ≠ r.command.path.bytes) ∧
    (∀ v, r.toValue? = some v → (Registration.ofValue? v = some r ↔ r.IsPlain)) ∧
    (∀ other : Registration, r.IsPlain → other.IsPlain → ∀ v, r.toValue? = some v →
      other.toValue? = some v → other = r) ∧
    ∀ path args, (Kotlin.registration path args).IsPlain := by
  refine ⟨?_, fun v => read_back_iff_isPlain, ?_, Kotlin.isPlain_registration⟩
  · rw [← Utf8.text?_eq_none_iff, ← Option.isNone_iff_eq_none, ← Option.isNone_iff_eq_none,
      ← Option.not_isSome, ← Option.not_isSome, r.toValue?_isSome]
  · intro other plain plain' v given given'
    have read := (read_back_iff_isPlain given).mpr plain
    rw [(read_back_iff_isPlain given').mpr plain'] at read
    exact Option.some.inj read

/-- A registration with variables, and with properties that are nested and have keys of members
elsewhere. -/
def crowded : Registration where
  debugType := "kotlin"
  command := ⟨.ofString "/opt/kda", ["--trace", ""], [("A", ""), ("args", "1")]⟩
  configurations := [Kotlin.attach,
    ⟨"kotlin", "launch", "", [("args", .array [.object [("type", .null)]]), ("env", .object [])]⟩]

/-- The crowded registration is read back. -/
theorem registrations_read_back_crowded :
    ∃ v, crowded.toValue? = some v ∧ Registration.ofValue? v = some crowded := by
  have plain : crowded.IsPlain := by
    have all : ∀ c ∈ crowded.configurations,
        ∀ key ∈ c.properties.map Prod.fst, key ∉ fixedKeys := by decide
    exact fun c hc p hp => all c hc p.1 (List.mem_map_of_mem hp)
  obtain ⟨failed, read, -, -⟩ := registrations_read_back crowded
  cases given : crowded.toValue? with
  | none => exact absurd rfl (failed.mp given "/opt/kda")
  | some v => exact ⟨v, rfl, (read v given).mpr plain⟩

end DebugAdapter

end ToolingHost
