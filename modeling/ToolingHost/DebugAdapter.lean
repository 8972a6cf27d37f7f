import ToolingHost.FilePath
import ToolingHost.Json.Value

/-! # Debug adapters

What a host is told so that it can offer debugging, and what it is told for Kotlin. -/

/-! ## Registering a debug adapter

What a host has to know to offer debugging: the debug type, how the adapter is started, and
configurations to begin with. A host receives it as a JSON object, which exists if the path of the
adapter is text. -/

namespace ToolingHost.DebugAdapter

open ToolingHost.Json

/-- How an adapter is started. -/
structure Command where
  /-- The program. -/
  path : FilePath
  /-- Its arguments. -/
  args : List String
  /-- Variables of its environment, in the order of their names. -/
  env : List (String × String)
  deriving DecidableEq, Repr

/-- A program without arguments. -/
def Command.ofPath (path : FilePath) : Command := ⟨path, [], []⟩

/-- The command with more arguments. -/
def Command.withArgs (c : Command) (args : List String) : Command :=
  { c with args := c.args ++ args }

/-- A configuration from which a debug session can be started. -/
structure Configuration where
  /-- The debug type. -/
  debugType : String
  /-- Whether a program is launched or attached to. -/
  request : String
  /-- The name for the user. -/
  name : String
  /-- Everything else, in the order of the keys. -/
  properties : Members

/-- What a host has to know about an adapter. -/
structure Registration where
  /-- The debug type. -/
  debugType : String
  /-- How the adapter is started. -/
  command : Command
  /-- Configurations to begin with. -/
  configurations : List Configuration

/-- A command for a host. -/
def Command.toValue? (c : Command) : Option Value := do
  let path ← Utf8.text? c.path.bytes
  let env : Members :=
    if c.env.isEmpty then []
    else [("env", .object (c.env.map fun (name, value) => (name, .string value)))]
  return .object ([("command", .string path), ("args", .array (c.args.map .string))] ++ env)

/-- A configuration for a host; the properties stand beside the other members. -/
def Configuration.toValue (c : Configuration) : Value :=
  .object ([("type", .string c.debugType), ("request", .string c.request),
    ("name", .string c.name)] ++ c.properties)

/-- A registration for a host. -/
def Registration.toValue? (r : Registration) : Option Value := do
  let command ← r.command.toValue?
  return .object [
    ("debugType", .string r.debugType),
    ("executable", command),
    ("initialConfigurations", .array (r.configurations.map Configuration.toValue))]

/-- The text of the failure for a registration that cannot be given to a host. -/
def Registration.failure : String := "path contains invalid UTF-8 characters"

/-- A registration can be given to a host exactly if the path of its command is text. -/
theorem Registration.toValue?_isSome (r : Registration) :
    r.toValue?.isSome = (Utf8.text? r.command.path.bytes).isSome := by
  cases h : Utf8.text? r.command.path.bytes <;> simp [toValue?, Command.toValue?, h]

end ToolingHost.DebugAdapter

/-! ## The debug adapter of Kotlin

The debug type and the configurations that a user without any is offered. -/

namespace ToolingHost.DebugAdapter.Kotlin

open ToolingHost.Json

/-- The debug type. -/
def debugType : String := "kotlin"

/-- The variable that a host replaces by the folder of the workspace. -/
def workspaceFolder : String := "$\x7bworkspaceFolder\x7d"

/-- The port to attach to. -/
def attachPort : Nat := 5005

/-- How many milliseconds an attempt to attach may take. -/
def attachTimeout : Nat := 2000

/-- Starts a program. -/
def launch : Configuration where
  debugType := debugType
  request := "launch"
  name := "Kotlin Launch"
  properties := [("mainClass", .string ""), ("projectRoot", .string workspaceFolder)]

/-- Attaches to a program that runs. -/
def attach : Configuration where
  debugType := debugType
  request := "attach"
  name := "Kotlin Attach"
  properties := [
    ("hostName", .string "localhost"),
    ("port", Value.int attachPort),
    ("projectRoot", .string workspaceFolder),
    ("timeout", Value.int attachTimeout)]

/-- The configurations to begin with. -/
def configurations : List Configuration := [launch, attach]

/-- The registration of an adapter at a path. -/
def registration (path : FilePath) (args : List String) : Registration where
  debugType := debugType
  command := (Command.ofPath path).withArgs args
  configurations := configurations

end ToolingHost.DebugAdapter.Kotlin
