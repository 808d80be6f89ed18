import GConnman.Foundation.TransitionSystem
import GConnman.Foundation.Progress
import GConnman.Foundation.Outcome
import GConnman.Foundation.Unwinding
import GConnman.Foundation.ObjectStore
import GConnman.Foundation.Census
import GConnman.Foundation.Tabulation
import GConnman.Foundation.LockDiscipline
import GConnman.Foundation.LockProgress
import GConnman.Foundation.Words
import GConnman.Foundation.Queue
import GConnman.Foundation.CallQueue
import GConnman.Foundation.Handshake
import GConnman.Foundation.HandshakeRuns
import GConnman.Foundation.HandshakeProgress
import GConnman.Foundation.Mailbox
import GConnman.GLib.Variant
import GConnman.GLib.VariantBuilder
import GConnman.DBus.EnumStringMap
import GConnman.DBus.PropertyRecord
import GConnman.DBus.PropertySlots
import GConnman.DBus.Proxy
import GConnman.DBus.StringLists
import GConnman.DBus.PropertyMessages
import GConnman.DBus.LastWriter
import GConnman.DBus.CurrentValues
import GConnman.DBus.Snapshots
import GConnman.DBus.WaitedClosures
import GConnman.DBus.RequestSystem
import GConnman.DBus.RequestRuns
import GConnman.DBus.PendingCalls
import GConnman.DBus.Shutdown
import GConnman.DBus.LifeCycle
import GConnman.DBus.CallbackTable
import GConnman.DBus.Completion
import GConnman.DBus.ReplyCompletion
import GConnman.Connman.Names
import GConnman.Connman.ServiceProperties
import GConnman.Connman.Properties
import GConnman.Connman.Setters
import GConnman.Connman.MethodCalls
import GConnman.Connman.WriteThrough
import GConnman.Connman.Refresh
import GConnman.Connman.Manager
import GConnman.Connman.Announcements
import GConnman.Connman.ServiceOrder
import GConnman.Connman.ServiceList
import GConnman.Connman.Observers
import GConnman.Connman.ServiceSlots
import GConnman.Connman.NestedSlots
import GConnman.Connman.RecordSlots
import GConnman.Connman.ServerLists
import GConnman.Connman.LastWriterWins
import GConnman.Connman.ServiceExposure
import GConnman.Connman.Printing
import GConnman.Connman.SignalAtomicity
import GConnman.Connman.TechnologyList
import GConnman.Connman.Subscription
import GConnman.Connman.Mirror
import GConnman.Connman.Convergence
import GConnman.Connman.InputRequest
import GConnman.Connman.InputEdits
import GConnman.Connman.InputReply
import GConnman.Connman.Agent
import GConnman.Connman.AgentReplies
import GConnman.Connman.AgentHandlers
import GConnman.Connman.ReportError
import GConnman.Connman.CallbackLocks
import GConnman.Connman.LockOrder
import GConnman.Connman.Lifetime
import GConnman.Connman.InitialLists
import GConnman.Connman.LateUses
import GConnman.Connman.Construction
import GConnman.Connmanctl.Commands
import GConnman.Connmanctl.Reports
import GConnman.Connmanctl.Lines
import GConnman.Connmanctl.Crashes
import GConnman.Connmanctl.Requests
import GConnman.Connmanctl.Sessions
import GConnman.Connmanctl.Dialogue
import GConnman.Connmanctl.Completion
import GConnman.Connmanctl.Passphrases
import GConnman.Connmanctl.Turns
import GConnman.Connmanctl.InputCalls
import GConnman.Connmanctl.InputAnswers
