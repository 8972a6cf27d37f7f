import ToolingHost.FilePath
import ToolingHost.Ordered

/-! # Process environments

An environment is a list of variables with values, both byte strings. A variable is found by the
text `NAME=` at the front of its entry, as the system does it; for a name without `=` that is
equality of names. Nothing keeps two variables from having one name: the first is the one that is
found, and the last is the one that counts where an environment is made anew. -/

namespace ToolingHost

/-- A process environment. -/
structure Environment where
  /-- The variables and their values. -/
  entries : List (Bytes × Bytes)
  deriving DecidableEq, Repr

namespace Environment

/-- The byte between a name and its value. -/
def equals : UInt8 := 61

/-- What the system allows as the name of a variable. -/
def IsName (name : Bytes) : Prop := name ≠ [] ∧ equals ∉ name ∧ 0 ∉ name

instance (name : Bytes) : Decidable (IsName name) :=
  inferInstanceAs (Decidable (name ≠ [] ∧ equals ∉ name ∧ 0 ∉ name))

/-- The entry of a variable as one byte string. -/
def entry (var : Bytes × Bytes) : Bytes := var.1 ++ equals :: var.2

/-- The value of a variable. A name that holds a NUL byte names none. -/
def get? (env : Environment) (name : Bytes) : Option Bytes :=
  if name.contains 0 then none
  else
    let lead := name ++ [equals]
    (env.entries.find? fun var => lead.isPrefixOf (entry var)).map fun var =>
      (entry var).drop lead.length

/-- The value of a variable with a text as its name, if the value is a text too. -/
def text? (env : Environment) (name : String) : Option String :=
  (env.get? (Bytes.ofString name)).bind Utf8.text?

/-- A path given by a variable that is set and not empty. -/
def path? (env : Environment) (name : String) : Option FilePath :=
  match env.get? (Bytes.ofString name) with
  | none => none
  | some value => if value.isEmpty then none else some ⟨value⟩

/-- The home directory that the environment names. -/
def homeDir? (env : Environment) : Option FilePath := env.path? "HOME"

/-- The names of the variables. -/
def names (env : Environment) : List Bytes := env.entries.map Prod.fst

/-- The value of the last variable with a name. -/
def last? (env : Environment) (name : Bytes) : Option Bytes := env.entries.reverse.lookup name

/-- The environment that is passed on when the variables whose names satisfy `p` are taken out. If
there are none, it is passed on as it stands. Else one is made anew: each of the other names once,
with its last value, in the order of the names. -/
def without (env : Environment) (p : Bytes → Bool) : Environment :=
  if env.names.any p then ⟨(Ordered.ofList env.entries).filter fun var => !p var.1⟩ else env

/-- Nothing is set in the empty environment. -/
@[simp] theorem get?_empty (name : Bytes) : (⟨[]⟩ : Environment).get? name = none := by
  simp [get?]

end Environment

end ToolingHost
