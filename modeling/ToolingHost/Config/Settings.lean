import ToolingHost.Environment
import ToolingHost.Subsystem

/-! # Settings and references

The settings of the program. A path in them may hold references to variables, which are replaced
when the path is used. -/

/-! ## References to variables in settings

In a setting `${NAME}` stands for the value of a variable, or for nothing if it has none. The text
is read once from left to right; a value that is put in is not read again. `${}` and a `${` that is
never closed stand for themselves. -/

namespace ToolingHost.Config.Expansion

/-- How the values of variables are found. -/
abbrev Lookup := String → Option String

/-- What the reader is in the middle of. -/
inductive State where
  /-- Plain text. -/
  | plain
  /-- Just after a `$` that has not been written yet. -/
  | dollar
  /-- In a reference, with the characters of its name so far, newest first. -/
  | name (chars : List Char)
  deriving DecidableEq, Repr

/-- The start of a reference. -/
def opening : List Char := ['$', '\x7b']

/-- What a closed reference stands for. -/
def value (lookup : Lookup) (name : List Char) : List Char :=
  if name.isEmpty then opening ++ ['\x7d'] else ((lookup (String.ofList name)).getD "").toList

/-- Reads on from a state. -/
def expandFrom (lookup : Lookup) : State → List Char → List Char
  | .plain, [] => []
  | .dollar, [] => ['$']
  | .name chars, [] => opening ++ chars.reverse
  | .plain, c :: rest =>
    if c = '$' then expandFrom lookup .dollar rest else c :: expandFrom lookup .plain rest
  | .dollar, c :: rest =>
    if c = '\x7b' then expandFrom lookup (.name []) rest
    else if c = '$' then '$' :: expandFrom lookup .dollar rest
    else '$' :: c :: expandFrom lookup .plain rest
  | .name chars, c :: rest =>
    if c = '\x7d' then value lookup chars.reverse ++ expandFrom lookup .plain rest
    else expandFrom lookup (.name (c :: chars)) rest

/-- A list of characters with its references replaced. -/
def expandChars (lookup : Lookup) (chars : List Char) : List Char := expandFrom lookup .plain chars

/-- A setting with its references replaced. -/
def expand (lookup : Lookup) (setting : String) : String :=
  String.ofList (expandChars lookup setting.toList)

/-- Text without a `$` stands for itself. -/
theorem expandChars_of_not_mem (lookup : Lookup) (chars : List Char) (h : '$' ∉ chars) :
    expandChars lookup chars = chars := by
  unfold expandChars
  induction chars with
  | nil => rfl
  | cons c rest ih =>
    simp only [List.mem_cons, not_or] at h
    rw [expandFrom, if_neg (fun e => h.1 e.symm), ih h.2]

end ToolingHost.Config.Expansion

/-! ## Settings

The settings of the program: for each subsystem whether it is started, from which path and with
which arguments, and how verbose the log is. -/

namespace ToolingHost.Config

/-- The settings of one subsystem. -/
structure SubsystemSettings where
  /-- Whether the subsystem is started. -/
  enabled : Bool
  /-- The path of its executable as written, empty for the usual places. -/
  path : String
  /-- The arguments of its executable. -/
  args : List String
  deriving DecidableEq, Repr

/-- The settings of a subsystem about which nothing is said. -/
def SubsystemSettings.initial : SubsystemSettings := ⟨true, "", []⟩

/-- The settings of the log. -/
structure LogSettings where
  /-- Which records are kept. -/
  filter : Option String
  deriving DecidableEq, Repr

/-- All settings. -/
structure Settings where
  /-- The settings of the language server. -/
  languageServer : SubsystemSettings
  /-- The settings of the debug adapter. -/
  debugAdapter : SubsystemSettings
  /-- The settings of the log, if there are any. -/
  log : Option LogSettings
  deriving DecidableEq, Repr

/-- The settings when nothing is said. -/
def Settings.initial : Settings := ⟨.initial, .initial, none⟩

/-- The settings of a subsystem. -/
def Settings.subsystem (settings : Settings) : Subsystem → SubsystemSettings
  | .languageServer => settings.languageServer
  | .debugAdapter => settings.debugAdapter

/-- Which log records are kept, if the settings say so. -/
def Settings.logFilter (settings : Settings) : Option String := settings.log.bind LogSettings.filter

/-- The path that a text gives; the empty text gives none. -/
def customPath (raw : String) : Option FilePath :=
  if raw.isEmpty then none else some (.ofString raw)

/-- The path of the executable that replaces the usual places, if the setting, with its references
replaced, gives one. -/
def SubsystemSettings.customPath (settings : SubsystemSettings) (env : Environment) :
    Option FilePath :=
  Config.customPath (Expansion.expand env.text? settings.path)

end ToolingHost.Config
