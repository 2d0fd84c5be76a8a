import SharedPort.Selector.Command
import SharedPort.Gateway.RouteLoop
import SharedPort.Forward.Connection
import SharedPort.CommandLine.Run
import SharedPort.Main
import SharedPort.Proofs.Selector.Effects
import SharedPort.Proofs.Selector.Workers
import SharedPort.Proofs.Selector.Queues
import SharedPort.Proofs.Selector.Registration
import SharedPort.Proofs.Selector.Changes
import SharedPort.Proofs.Selector.Order
import SharedPort.Proofs.Selector.Routing
import SharedPort.Proofs.Selector.Places
import SharedPort.Proofs.Selector.Ownership
import SharedPort.Proofs.Stream.News
import SharedPort.Proofs.Stream.Planned
import SharedPort.Proofs.Stream.Transparent
import SharedPort.Proofs.Stream.Steady
import SharedPort.Proofs.Forward.Lanes
import SharedPort.Proofs.Forward.Copy
import SharedPort.Proofs.Gateway.Assembly
import SharedPort.Proofs.Gateway.World
import SharedPort.Proofs.Selector.Unclosed
import SharedPort.Proofs.Selector.Waiter
import SharedPort.Proofs.Gateway.Turns
import SharedPort.Proofs.Gateway.Loops
import SharedPort.Proofs.Gateway.Delivery
import SharedPort.Proofs.Gateway.Contacts
import SharedPort.Proofs.Gateway.Orderly
import SharedPort.Proofs.Gateway.Progress
import SharedPort.Proofs.Gateway.Handover
import SharedPort.Proofs.Gateway.EndToEnd
import SharedPort.Proofs.Listener
import SharedPort.Proofs.Selector.ListenerMoves
import SharedPort.Proofs.Selector.Closers
import SharedPort.Proofs.Selector.Callers
import SharedPort.Proofs.Selector.TicketHolders
import SharedPort.Proofs.Selector.Wakeups
import SharedPort.Proofs.Selector.Closing
import SharedPort.Proofs.Selector.Afterwards
import SharedPort.Proofs.Stream.Flowing
import SharedPort.Proofs.Forward.Schedules
import SharedPort.Proofs.Forward.Rounds
import SharedPort.Proofs.Json.Tokens
import SharedPort.Proofs.Config.RoundTrip
import SharedPort.Proofs.Gateway.Agreement
import SharedPort.Proofs.Config.Tree
import SharedPort.Proofs.Config.Layers
import SharedPort.Proofs.Selector.Crowd
import SharedPort.Proofs.Selector.Undisturbed
import SharedPort.Proofs.Selector.Returning
import SharedPort.Proofs.Text.Quoting
import SharedPort.Proofs.Config.Shadowing
import SharedPort.Proofs.Selector.Custody
import SharedPort.Proofs.Stream.Timeline
import SharedPort.Proofs.Stream.Deadline
import SharedPort.Proofs.Json.Spelling
import SharedPort.Proofs.Json.Document
import SharedPort.Proofs.Config.Documents
import SharedPort.Proofs.Config.Loading
import SharedPort.Proofs.Selector.Signs
import SharedPort.Proofs.Selector.Fifo
import SharedPort.Proofs.Selector.Bystanders
import SharedPort.Proofs.Selector.OneLoop
import SharedPort.Proofs.Selector.Blocks
import SharedPort.Proofs.Selector.Ledger
import SharedPort.Proofs.Selector.Serving
import SharedPort.Proofs.Selector.InTurn
import SharedPort.Proofs.Selector.AcceptLoop
import SharedPort.Proofs.Selector.Housed
import SharedPort.Proofs.Selector.ServeEnds
import SharedPort.Proofs.Selector.Stopping
import SharedPort.Proofs.Stream.Limited
import SharedPort.Proofs.Forward.Attempts
import SharedPort.Proofs.Forward.Failing
import SharedPort.Proofs.Gateway.AnyListener
import SharedPort.Proofs.Gateway.VirtualListener
import SharedPort.Proofs.Config.Matchable
import SharedPort.Proofs.Selector.Precedence
import SharedPort.Proofs.Net.Splitting
import SharedPort.Proofs.Config.HostFamily
import SharedPort.Proofs.Config.LogLevels
import SharedPort.Proofs.Stream.Sheltered
import SharedPort.Proofs.Config.Names
import SharedPort.Proofs.Net.Resolving
import SharedPort.Proofs.Config.Variables
