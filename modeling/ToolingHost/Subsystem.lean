/-! # Subsystems

The two optional services that the program starts. The order of `Subsystem.all` is the order in
which they are launched and listed everywhere. -/

namespace ToolingHost

/-- One of the two optional services. -/
inductive Subsystem where
  /-- The server that answers questions about source text. -/
  | languageServer
  /-- The adapter between a debugger and its user interface. -/
  | debugAdapter
  deriving DecidableEq, Repr

namespace Subsystem

/-- Both subsystems in launch order. -/
def all : List Subsystem := [.languageServer, .debugAdapter]

/-- The place of a subsystem in launch order. -/
def rank : Subsystem → Nat
  | .languageServer => 0
  | .debugAdapter => 1

/-- Whether the first subsystem is launched before the second. -/
def before (a b : Subsystem) : Bool := a.rank < b.rank

/-- The name of a subsystem in messages. -/
def label : Subsystem → String
  | .languageServer => "language server"
  | .debugAdapter => "debug adapter"

/-- The key of a subsystem's table in the configuration. -/
def configKey : Subsystem → String
  | .languageServer => "languageServer"
  | .debugAdapter => "debugAdapter"

/-- What starting a subsystem is called in messages. -/
def launchVerb : Subsystem → String
  | .languageServer => "activation"
  | .debugAdapter => "registration"

/-- The table of the configuration that holds the tables of the subsystems. -/
def configSection : String := "kotlin"

/-- The full name of the setting that switches a subsystem on or off. -/
def enabledFlag (s : Subsystem) : String := configSection ++ "." ++ s.configKey ++ ".enabled"

/-- Every subsystem is launched. -/
theorem mem_all (s : Subsystem) : s ∈ all := by cases s <;> decide

/-- No subsystem is launched twice. -/
theorem nodup_all : all.Nodup := by decide

end Subsystem

end ToolingHost
