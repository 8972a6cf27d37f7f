import ToolingHost.Activation.Kotlin
import ToolingHost.Activation.Task

/-! # All or nothing

Some acts of an activator are seen by others: it issues status messages, adds subscriptions to the
context, and registers debug adapters with the host. `Deeds` collects them. An activator has a
`Commission`, which says what it is to have done in the end, and its `Conduct` is all or nothing: it
has done the whole of it after a success and nothing that lasts after a failure, and it issues its
messages in order up to where it stops. `Upshot` says the same of what an activator does when it is
left alone. What is put before such a behaviour, or searched for before it, comes to all or nothing
again (`Kotlin.upshot_andThen`, `Kotlin.upshot_locating`), and so do the activators of Kotlin
(`Kotlin.upshot_activators`). -/

namespace ToolingHost.Activation

open Executable (Located LocateError)

/-! ## Deeds -/

/-- The status message that an act issues. -/
def Act.message? : Act → Option String
  | .update message => some message
  | _ => none

/-- The subscription that an act adds to the context. -/
def Act.subscription? : Act → Option Subscription
  | .subscribe subscription => some subscription
  | _ => none

/-- The registration that an act makes with the host. -/
def Act.registration? : Act → Option DebugAdapter.Registration
  | .register registration => some registration
  | _ => none

/-- What others see of an activator, in order. -/
structure Deeds where
  /-- The status messages that it has issued. -/
  messages : List String
  /-- The subscriptions that it has added to the context. -/
  subscriptions : List Subscription
  /-- The registrations that it has made with the host. -/
  registrations : List DebugAdapter.Registration

namespace Deeds

/-- Nothing is seen. -/
def none : Deeds := ⟨[], [], []⟩

/-- What is seen first, and what then. -/
instance : Append Deeds where
  append first second :=
    ⟨first.messages ++ second.messages, first.subscriptions ++ second.subscriptions,
      first.registrations ++ second.registrations⟩

/-- What others see of acts. -/
def ofActs (acts : List Act) : Deeds :=
  ⟨acts.filterMap Act.message?, acts.filterMap Act.subscription?, acts.filterMap Act.registration?⟩

/-- What is seen of two groups of acts is put together part by part. -/
theorem append_def (first second : Deeds) :
    first ++ second =
      ⟨first.messages ++ second.messages, first.subscriptions ++ second.subscriptions,
        first.registrations ++ second.registrations⟩ := rfl

/-- What is seen is not changed by what shows nothing after it. -/
@[simp] theorem append_none (deeds : Deeds) : deeds ++ none = deeds := by
  simp [append_def, none]

/-- What is seen is not changed by what shows nothing before it. -/
@[simp] theorem none_append (deeds : Deeds) : none ++ deeds = deeds := rfl

/-- What is seen of three groups of acts does not hang on how they are grouped. -/
theorem append_assoc (first second third : Deeds) :
    first ++ second ++ third = first ++ (second ++ third) := by
  simp [append_def]

/-- Others see of two groups of acts what they see of each. -/
theorem ofActs_append (first second : List Act) :
    ofActs (first ++ second) = ofActs first ++ ofActs second := by
  simp [ofActs, append_def]

/-- Others see nothing of log records. -/
@[simp] theorem ofActs_logs (records : List Log.Record) : ofActs (records.map .log) = none := by
  simp [ofActs, none, Function.comp_def, Act.message?, Act.subscription?, Act.registration?]

end Deeds

/-! ## Commissions -/

/-- What an activator is to have done in the end. -/
structure Commission where
  /-- The status messages, one for each stage. -/
  stages : List String
  /-- The subscriptions. -/
  subscriptions : List Subscription
  /-- The registrations, given the executable that was found. -/
  registrations : Located → List DebugAdapter.Registration

/-- `Conduct c located deeds result`: an activator whose search for its executable has the result
`located` has done `deeds`; if it has ended, with `result`. -/
structure Conduct (c : Commission) (located : Except LocateError Located) (deeds : Deeds)
    (result : Option Result) : Prop where
  /-- The messages are issued in order. -/
  messages : deeds.messages <+: c.stages
  /-- No other subscriptions are added. -/
  subscriptions : deeds.subscriptions <+: c.subscriptions
  /-- No other registrations are made. -/
  registrations : ∀ found, located = .ok found → deeds.registrations <+: c.registrations found
  /-- After a success, everything has been done. -/
  success : result = some .succeeded →
    ∃ found, located = .ok found ∧ deeds = ⟨c.stages, c.subscriptions, c.registrations found⟩
  /-- After a failure, nothing lasts. -/
  failure : ∀ chain, result = some (.failed chain) →
    deeds.subscriptions = [] ∧ deeds.registrations = []
  /-- Where no executable is found, only the first message is issued, and the result says why. -/
  lost : ∀ e, located = .error e →
    deeds.messages <+: c.stages.take 1 ∧ deeds.subscriptions = [] ∧ deeds.registrations = [] ∧
      ∀ r, result = some r → r = .failed e.chain ∧ deeds.messages = c.stages.take 1

/-- What a behaviour comes to, without breaking down: all of a commission, or a part of its
messages. -/
inductive Upshot (c : Commission) (located : Except LocateError Located) (b : Behaviour) :
    Prop where
  /-- No executable is found. -/
  | lost {e : LocateError} (missing : located = .error e) (calm : b.panicsAtOnce = false)
      (deeds : Deeds.ofActs b.acts = ⟨c.stages.take 1, [], []⟩) (ending : b.ending = .fail e.chain)
  /-- Something else fails. -/
  | failed {found : Located} {chain : List String} (there : located = .ok found)
      (calm : b.panicsAtOnce = false) (stages : Nat)
      (deeds : Deeds.ofActs b.acts = ⟨c.stages.take stages, [], []⟩)
      (ending : b.ending = .fail chain)
  /-- Nothing fails. -/
  | succeeded {found : Located} (there : located = .ok found) (calm : b.panicsAtOnce = false)
      (deeds : Deeds.ofActs b.acts = ⟨c.stages, c.subscriptions, c.registrations found⟩)
      (ending : b.ending = .succeed)

section Conduct

variable {c : Commission} {located : Except LocateError Located} {b : Behaviour} {deeds : Deeds}
  {result : Option Result}

/-- What does not succeed does nothing that lasts. -/
theorem Conduct.of_failing (messages : deeds.messages <+: c.stages)
    (subscriptions : deeds.subscriptions = []) (registrations : deeds.registrations = [])
    (fails : result ≠ some .succeeded)
    (lost : ∀ e, located = .error e → deeds.messages <+: c.stages.take 1 ∧
      ∀ r, result = some r → r = .failed e.chain ∧ deeds.messages = c.stages.take 1) :
    Conduct c located deeds result where
  messages := messages
  subscriptions := by
    rw [subscriptions]
    exact List.nil_prefix
  registrations := by
    intro found _
    rw [registrations]
    exact List.nil_prefix
  success := fun succeeded => absurd succeeded fails
  failure := fun _ _ => ⟨subscriptions, registrations⟩
  lost := by
    intro e missing
    exact ⟨(lost e missing).1, subscriptions, registrations, (lost e missing).2⟩

/-- **What comes to all or nothing is so conducted**, as long as it has not ended and afterwards. -/
theorem Upshot.conduct (upshot : Upshot c located b)
    (part : ∃ rest, Deeds.ofActs b.acts = deeds ++ rest)
    (whole : ∀ r, result = some r → deeds = .ofActs b.acts ∧ b.ending.result? = some r) :
    Conduct c located deeds result := by
  obtain ⟨rest, part⟩ := part
  -- what has been seen is a first part of all that will be
  have messages : deeds.messages <+: (Deeds.ofActs b.acts).messages := by
    rw [part]
    exact List.prefix_append _ _
  have subscriptions : deeds.subscriptions <+: (Deeds.ofActs b.acts).subscriptions := by
    rw [part]
    exact List.prefix_append _ _
  have registrations : deeds.registrations <+: (Deeds.ofActs b.acts).registrations := by
    rw [part]
    exact List.prefix_append _ _
  have ended {r : Result} {ending : Ending} (is : b.ending = ending) (h : result = some r) :
      ending.result? = some r := is ▸ (whole r h).2
  cases upshot with
  | @lost e missing _ all ending =>
      rw [all] at messages subscriptions registrations
      refine .of_failing (messages.trans (List.take_prefix 1 _)) (List.prefix_nil.mp subscriptions)
        (List.prefix_nil.mp registrations) (fun succeeded => nomatch ended ending succeeded) ?_
      intro e' same
      rw [missing] at same
      cases same
      refine ⟨messages, ?_⟩
      intro r h
      cases ended ending h
      exact ⟨rfl, by rw [(whole _ h).1, all]⟩
  | @failed found chain there _ stages all ending =>
      rw [all] at messages subscriptions registrations
      refine .of_failing (messages.trans (List.take_prefix stages _))
        (List.prefix_nil.mp subscriptions) (List.prefix_nil.mp registrations)
        (fun succeeded => nomatch ended ending succeeded) ?_
      intro e missing
      rw [there] at missing
      cases missing
  | @succeeded found there _ all ending =>
      rw [all] at messages subscriptions registrations
      refine ⟨messages, subscriptions, ?_, ?_, ?_, ?_⟩
      · intro found' same
        rw [there] at same
        cases same
        exact registrations
      · intro succeeded
        exact ⟨found, there, by rw [(whole _ succeeded).1, all]⟩
      · intro chain failed
        cases ended ending failed
      · intro e missing
        rw [there] at missing
        cases missing

/-- What comes to all or nothing returns, and does not break down. -/
theorem Upshot.returns (upshot : Upshot c located b) :
    b.panicsAtOnce = false ∧ ∃ r, b.ending.result? = some r := by
  cases upshot with
  | lost _ calm _ ending | failed _ calm _ _ ending | succeeded _ calm _ ending =>
      rw [ending]
      exact ⟨calm, _, rfl⟩

end Conduct

/-! ## The activators of Kotlin -/

namespace Kotlin

open Executable (languageServer debugAdapter)

/-- What the activator of the language server is to have done: its client is a subscription. -/
def serverCommission : Commission where
  stages := ["Locating", "Starting", "Initializing"].map (stageMessage · languageServer)
  subscriptions := [.plain languageServer.displayName]
  registrations := fun _ => []

/-- What the activator of the debug adapter is to have done: the adapter that was found is
registered with its arguments and with the configurations to begin with. -/
def adapterCommission (args : List String) : Commission where
  stages := ["Locating", "Registering"].map (stageMessage · debugAdapter)
  subscriptions := []
  registrations := fun found =>
    [⟨DebugAdapter.Kotlin.debugType, ⟨found.path, args, []⟩, DebugAdapter.Kotlin.configurations⟩]

/-- What the activator of a subsystem is to have done. -/
def commission (settings : Config.Settings) : Subsystem → Commission
  | .languageServer => serverCommission
  | .debugAdapter => adapterCommission (settings.subsystem .debugAdapter).args

section Parts

variable {c : Commission} {found : Located} {b : Behaviour} {acts : List Act}
  {messages : List String}

/-- A message is seen, but not the log records after it. -/
theorem ofActs_update_logs (message : String) (records : List Log.Record) :
    Deeds.ofActs (.update message :: records.map .log) = ⟨[message], [], []⟩ := by
  rw [← List.singleton_append, Deeds.ofActs_append, Deeds.ofActs_logs, Deeds.append_none]
  rfl

/-- What fails before it has done anything comes to no message. -/
theorem upshot_fails (chain : List String) : Upshot c (.ok found) (ends (.fail chain)) :=
  .failed rfl rfl 0 rfl rfl

/-- Acts of which others see messages only come to the stages before those that follow. -/
theorem upshot_andThen (upshot : Upshot c (.ok found) b)
    (deeds : Deeds.ofActs acts = ⟨messages, [], []⟩) :
    Upshot { c with stages := messages ++ c.stages } (.ok found) (andThen acts b) := by
  have whole : Deeds.ofActs (andThen acts b).acts = ⟨messages, [], []⟩ ++ Deeds.ofActs b.acts := by
    rw [andThen, Deeds.ofActs_append, deeds]
  cases upshot with
  | lost missing => cases missing
  | failed _ calm stages part ending =>
      refine .failed rfl calm (messages.length + stages) ?_ ending
      rw [whole, part, List.take_length_add_append]
      rfl
  | succeeded there calm all ending =>
      refine .succeeded there calm ?_ ending
      rw [whole, all]
      rfl

end Parts

section Activators

variable {around : Surroundings} {args : List String} {custom : Option FilePath} {fs : FileSystem}
  {found : Located}

/-- The search comes first; where it fails, nothing else comes. -/
theorem upshot_locating {c : Commission} {target : String} {e : Executable}
    {next : Located → Behaviour} (upshot : ∀ found, Upshot c (.ok found) (next found)) :
    Upshot { c with stages := stageMessage "Locating" e :: c.stages }
      (Executable.locate fs around.env e custom around.storage)
      (locating around fs target e custom next) := by
  unfold locating
  cases Executable.locate fs around.env e custom around.storage with
  | error failure => exact .lost rfl rfl rfl rfl
  | ok found =>
      have logs : Deeds.ofActs ((found.warnings fs).map .log ++ [.log (usingRecord target e found)])
          = .none := by
        rw [Deeds.ofActs_append, Deeds.ofActs_logs]
        rfl
      exact upshot_andThen (upshot_andThen (upshot found) logs) (ofActs_update_logs _ [])

/-- What opening the conversation comes to: the client is a subscription, if that succeeds. -/
theorem upshot_opening (dialogue : Dialogue) :
    Upshot { serverCommission with stages := [stageMessage "Initializing" languageServer] }
      (.ok found) («opening» dialogue) := by
  unfold «opening»
  refine upshot_andThen (c := { serverCommission with stages := [] }) ?_ (ofActs_update_logs _ _)
  cases dialogue.failure with
  | some failure => exact upshot_fails _
  | none => exact .succeeded rfl rfl rfl rfl

/-- What starting the server comes to. -/
theorem upshot_starting (path : FilePath) :
    Upshot { serverCommission with
        stages := ["Starting", "Initializing"].map (stageMessage · languageServer) }
      (.ok found) (starting around fs args path) := by
  unfold starting
  refine upshot_andThen
    (c := { serverCommission with stages := [stageMessage "Initializing" languageServer] }) ?_
    (ofActs_update_logs _ [])
  cases Program.start? around.isProgram fs (serverCommand around args path) with
  | error failure => exact upshot_fails _
  | ok _ =>
      have silent : Deeds.ofActs [.start path args] = .none := rfl
      exact upshot_andThen (upshot_opening around.dialogue) silent

/-- **The activators of Kotlin come to all or nothing**, whatever they meet outside the program. -/
theorem upshot_activators (settings : Config.Settings) (s : Subsystem) :
    Upshot (commission settings s)
      (Executable.locate fs around.env (.ofSubsystem s) custom around.storage)
      (activators around settings s custom fs) := by
  cases s with
  | languageServer => exact upshot_locating fun found => upshot_starting found.path
  | debugAdapter =>
      exact upshot_locating
        (c := { adapterCommission (settings.subsystem .debugAdapter).args with
          stages := [stageMessage "Registering" debugAdapter] })
        fun _ => .succeeded rfl rfl rfl rfl

end Activators

end Kotlin

end ToolingHost.Activation
