import ToolingHost.Host.Call
import ToolingHost.Json.Writer
import ToolingHost.Log.Record

/-! # The terminal as a host

In a terminal there is no status line and nobody edits: the host writes what it is told into the
log, and keeps the editing rules and registrations it was given. A status item is written when it is
shown and has a text, and when its text changes while it is shown. -/

namespace ToolingHost

/-- A status item of the terminal. -/
structure TerminalItem where
  /-- The current text. -/
  text : String
  /-- Whether it is shown. -/
  visible : Bool
  deriving DecidableEq, Repr

/-- The terminal. -/
structure TerminalHost where
  /-- The languages with rules, ordered by the last time that the rules were set. -/
  languages : List (String × LanguageRules)
  /-- The registered debug types, in order. -/
  debugTypes : List String
  /-- The status items by their numbers. -/
  items : List (Nat × TerminalItem)
  deriving Repr

namespace TerminalHost

/-- A terminal that has been told nothing. -/
def fresh : TerminalHost := ⟨[], [], []⟩

/-- The part of the program that records of status texts come from. -/
def statusTarget : String := "kide::status"

/-- The part of the program that other records of the host come from. -/
def hostTarget : String := "kide::host"

/-- The record of a status text. -/
def statusRecord (text : String) : Log.Record := ⟨.info, statusTarget, text, []⟩

/-- The record of editing rules. -/
def rulesRecord (language : String) (rules : LanguageRules) : Log.Record :=
  ⟨.debug, hostTarget, "Language configuration set",
    [("language_id", .text language), ("json", .shown rules.toValue.render)]⟩

/-- The record of a registration. -/
def registrationRecord (r : DebugAdapter.Registration) : Log.Record :=
  match r.toValue? with
  | some v =>
    ⟨.info, hostTarget, "Debug adapter registered",
      [("debug_type", .shown r.debugType), ("json", .shown v.render)]⟩
  | none =>
    ⟨.warn, hostTarget,
      "Failed to serialize debug adapter registration: " ++ DebugAdapter.Registration.failure, []⟩

/-- The status item with a number. -/
def item (t : TerminalHost) (n : Nat) : TerminalItem := (t.items.lookup n).getD ⟨"", false⟩

/-- Sets the status item with a number. -/
def setItem (t : TerminalHost) (n : Nat) (item : TerminalItem) : TerminalHost :=
  { t with items := (n, item) :: t.items.filter fun entry => entry.1 != n }

/-- What a call does to the terminal, and what is written into the log. -/
def receive (t : TerminalHost) : HostCall → TerminalHost × List Log.Record
  | .setLanguage language rules =>
    ({ t with languages := (t.languages.filter fun entry => entry.1 != language) ++
        [(language, rules)] },
      [rulesRecord language rules])
  | .registerDebugAdapter r => ({ t with debugTypes := t.debugTypes ++ [r.debugType] },
      [registrationRecord r])
  | .createItem n => (t.setItem n ⟨"", false⟩, [])
  | .setText n text =>
    let item := t.item n
    (t.setItem n { item with text }, if item.visible then [statusRecord text] else [])
  | .showItem n =>
    let item := t.item n
    (t.setItem n { item with visible := true },
      if item.text.isEmpty then [] else [statusRecord item.text])
  | .disposeItem n => (t.setItem n { t.item n with visible := false }, [])

/-- The terminal after several calls, with all that was written. -/
def receiveAll (t : TerminalHost) : List HostCall → TerminalHost × List Log.Record
  | [] => (t, [])
  | call :: rest =>
    let (t, records) := t.receive call
    let (t, more) := receiveAll t rest
    (t, records ++ more)

/-- Status items are numbered apart from everything else, so they leave the other lists alone. -/
theorem languages_setItem (t : TerminalHost) (n : Nat) (item : TerminalItem) :
    (t.setItem n item).languages = t.languages := rfl

end TerminalHost

end ToolingHost
