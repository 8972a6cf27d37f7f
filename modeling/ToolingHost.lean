import ToolingHost.Rpc.Message
import ToolingHost.Rpc.Incoming
import ToolingHost.Frame.Reader
import ToolingHost.Frame.Header
import ToolingHost.Config.Load
import ToolingHost.Secret
import ToolingHost.Storage
import ToolingHost.Executable.Locate
import ToolingHost.LanguageRules.Basic
import ToolingHost.DebugAdapter
import ToolingHost.Status.Board
import ToolingHost.Context
import ToolingHost.Host.Terminal
import ToolingHost.Client.Rehearsal
import ToolingHost.Executable.Start
import ToolingHost.Activation.Kotlin
import ToolingHost.Activation.Schedule
import ToolingHost.CommandLine.Run
import ToolingHost.Main
import ToolingHost.Proofs.Client.Replies
import ToolingHost.Proofs.Activation.Rehearsal
import ToolingHost.Proofs.Frame.Stream
import ToolingHost.Proofs.Client.Writing
import ToolingHost.Proofs.Client.Jam
import ToolingHost.Proofs.Status.Scope
import ToolingHost.Proofs.Activation.Step
import ToolingHost.Proofs.Activation.Outcome
import ToolingHost.Proofs.Activation.Account
import ToolingHost.Proofs.Subscription
import ToolingHost.Proofs.Text.Utf8
import ToolingHost.Proofs.Secret
import ToolingHost.Proofs.Activation.Beginning
import ToolingHost.Proofs.Frame.Reading
import ToolingHost.Proofs.Frame.Progress
import ToolingHost.Proofs.Storage
import ToolingHost.Proofs.Activation.AllOrNothing
import ToolingHost.Proofs.LanguageRules.Comment
import ToolingHost.Proofs.Storage.Effect
import ToolingHost.Proofs.Executable.Locate
import ToolingHost.Proofs.Config.Expansion
import ToolingHost.Proofs.Config.Decode
import ToolingHost.Proofs.Config.Load
import ToolingHost.Proofs.Rpc.Incoming
import ToolingHost.Proofs.Status.Board
import ToolingHost.Proofs.Host.Terminal
import ToolingHost.Proofs.CommandLine.Start
import ToolingHost.Proofs.Storage.Above
import ToolingHost.Proofs.DebugAdapter
import ToolingHost.Proofs.Secret.Pattern
