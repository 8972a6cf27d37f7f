import ToolingHost.Config.Decode
import ToolingHost.FileSystem.Operations

/-! # Loading the settings

The settings are read from a file, which is in the directory of the program's files if no other is
named. Where no file can be seen there are no settings, which is an answer and not a failure. -/

namespace ToolingHost.Config

/-! ## Where the program keeps its files

The configuration and the logs are in a directory of the user's home; what is installed and cached
is below the user's data directory. -/

/-- The home directory of the user: the one that the environment names, or else the one of the
user's account. -/
def homeDir? (env : Environment) (account : Option FilePath) : Option FilePath :=
  env.homeDir?.orElse fun _ => account

/-- The data directory of the user: the one that is set, if it is absolute, or the usual one in the
home directory. -/
def dataDir? (env : Environment) (home? : Option FilePath) : Option FilePath :=
  match (env.path? "XDG_DATA_HOME").filter FilePath.isAbsolute with
  | some dir => some dir
  | none => home?.map (·.join (.ofString ".local/share"))

/-- The directory of the configuration and the logs. -/
def programDir? (home? : Option FilePath) : Option FilePath :=
  home?.map (·.join (.ofString ".kide"))

/-- The configuration file. -/
def configPath? (home? : Option FilePath) : Option FilePath :=
  (programDir? home?).map (·.join (.ofString "config.toml"))

/-- The directory for what is installed and cached. -/
def defaultStorage? (env : Environment) (home? : Option FilePath) : Option FilePath :=
  (dataDir? env home?).map fun dir => (dir.join (.ofString "kide")).join (.ofString "globalStorage")

/-! ## Loading -/

/-- Why a configuration file that is there gives no settings. -/
inductive LoadError where
  /-- The file cannot be read as text. -/
  | read (path : FilePath) (cause : IoError)
  /-- The text is not a valid configuration. -/
  | parse (path : FilePath)
  deriving DecidableEq, Repr

/-- The file with which loading failed. -/
def LoadError.path : LoadError → FilePath
  | .read path _ => path
  | .parse path => path

/-- The text of a failure. -/
def LoadError.message : LoadError → String
  | .read path _ => "failed to read config at " ++ path.display
  | .parse path => "failed to parse config at " ++ path.display

/-- The settings in a file, or `none` where no file can be seen. -/
def loadFrom (fs : FileSystem) (path : FilePath) : Except LoadError (Option Settings) :=
  if fs.reaches path then
    match fs.read? path with
    | .error cause => .error (.read path cause)
    | .ok bytes =>
      match Utf8.text? bytes with
      | none => .error (.read path .notText)
      | some text =>
        match parse? text with
        | none => .error (.parse path)
        | some settings => .ok (some settings)
  else .ok none

/-- The settings in the configuration file of the user. -/
def load (fs : FileSystem) (home? : Option FilePath) : Except LoadError (Option Settings) :=
  match configPath? home? with
  | none => .ok none
  | some path => loadFrom fs path

/-- There are no settings exactly where nothing can be seen. -/
theorem loadFrom_eq_none_iff (fs : FileSystem) (path : FilePath) :
    loadFrom fs path = .ok none ↔ fs.reaches path = false := by
  unfold loadFrom
  split
  · split
    · simp_all
    · split
      · simp_all
      · split <;> simp_all
  · simp_all

end ToolingHost.Config
