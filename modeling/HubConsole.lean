import HubConsole.Arguments.Grammar
import HubConsole.Arguments.Parse
import HubConsole.Console.Board
import HubConsole.Console.CommandLine
import HubConsole.Console.Commands
import HubConsole.Console.Dialogue
import HubConsole.Console.Loop
import HubConsole.Console.Settings
import HubConsole.Console.Trial
import HubConsole.Console.View
import HubConsole.Dashboard.DetailStore
import HubConsole.Dashboard.GraphWindow
import HubConsole.Dashboard.LogQuery
import HubConsole.Dashboard.NetworkStore
import HubConsole.Dashboard.Store
import HubConsole.Double.Basic
import HubConsole.Double.Rounding
import HubConsole.Double.Scaling
import HubConsole.Double.Shortest
import HubConsole.Double.Text
import HubConsole.Graph.Basic
import HubConsole.Graph.Series
import HubConsole.Json.Numeral
import HubConsole.Json.Reader
import HubConsole.Json.Record
import HubConsole.Json.Source
import HubConsole.Json.Token
import HubConsole.Json.Value
import HubConsole.Json.Writer
import HubConsole.Log.Basic
import HubConsole.Main
import HubConsole.Network.Basic
import HubConsole.Node.Detail
import HubConsole.Node.Merge
import HubConsole.Node.Order
import HubConsole.Node.Status
import HubConsole.Node.Summary
import HubConsole.Power
import HubConsole.Rpc.Error
import HubConsole.Rpc.Frame
import HubConsole.Rpc.Id
import HubConsole.Rpc.Topic
import HubConsole.Session.Call
import HubConsole.Session.Config
import HubConsole.Session.Hub
import HubConsole.Session.Link
import HubConsole.Session.Manager
import HubConsole.Session.Notice
import HubConsole.Session.Rehearsal
import HubConsole.Session.State
import HubConsole.Text.Blank
import HubConsole.Text.CaseTable
import HubConsole.Text.Digits
import HubConsole.Text.Hex
import HubConsole.Text.Lowercase
import HubConsole.Text.Split
import HubConsole.Time.Calendar
import HubConsole.Time.Instant
import HubConsole.Time.Rfc3339
import HubConsole.Time.Wire
import HubConsole.Url.Address
import HubConsole.Url.Basic
import HubConsole.Url.Domain
import HubConsole.Url.Parse
import HubConsole.Url.Path
import HubConsole.Url.Percent
import HubConsole.Url.Punycode
import HubConsole.Proofs.Session.Run
import HubConsole.Proofs.Session.Conservation
import HubConsole.Proofs.Session.Flight
import HubConsole.Proofs.Session.Posts
import HubConsole.Proofs.Session.Correlation
import HubConsole.Proofs.Dashboard.LogRun
import HubConsole.Proofs.Dashboard.LogToken
import HubConsole.Proofs.Dashboard.LogPaging
import HubConsole.Proofs.Node.Overwrite
import HubConsole.Proofs.Dashboard.NetworkRun
import HubConsole.Proofs.Dashboard.NetworkNodes
import HubConsole.Proofs.Dashboard.NetworkLinks
import HubConsole.Proofs.Dashboard.DetailRun
import HubConsole.Proofs.Console.Conversation
import HubConsole.Proofs.Console.TrialRun
import HubConsole.Proofs.Console.LogPages
import HubConsole.Proofs.Dashboard.LogEdits
import HubConsole.Proofs.Double.Numeral
import HubConsole.Proofs.Session.Deliveries
import HubConsole.Proofs.Json.Documents
import HubConsole.Proofs.Json.Indented
import HubConsole.Proofs.Json.Renderings
import HubConsole.Proofs.Json.Lawful
import HubConsole.Proofs.Json.Forms
import HubConsole.Proofs.Node.Documents
import HubConsole.Proofs.Network.Documents
import HubConsole.Proofs.Time.Calendar
import HubConsole.Proofs.Time.Rfc3339
import HubConsole.Proofs.Graph.Documents
import HubConsole.Proofs.Log.Documents
import HubConsole.Proofs.Rpc.Documents
import HubConsole.Proofs.Rpc.Kinds
import HubConsole.Proofs.Rpc.Pushes
import HubConsole.Proofs.Session.Attempts
import HubConsole.Proofs.Session.Lifecycle
import HubConsole.Proofs.Session.Outages
import HubConsole.Proofs.Console.BoardRun
import HubConsole.Proofs.Console.PrintedLogs
import HubConsole.Proofs.Console.Announcements
import HubConsole.Proofs.Dashboard.PushOrder
import HubConsole.Proofs.Json.Members
import HubConsole.Proofs.Rpc.Envelopes
import HubConsole.Proofs.Rpc.Recovery
import HubConsole.Proofs.Session.Rejections
import HubConsole.Proofs.Session.Polling
import HubConsole.Proofs.Session.Refusals
import HubConsole.Proofs.Session.ManagerRun
import HubConsole.Proofs.Session.Standing
import HubConsole.Proofs.Session.Callers
import HubConsole.Proofs.Node.Reports
import HubConsole.Proofs.Dashboard.NetworkTally
import HubConsole.Proofs.Node.Orders
import HubConsole.Proofs.Order.Ties
import HubConsole.Proofs.Node.Sorting
import HubConsole.Proofs.Text.Digits
import HubConsole.Proofs.Node.Segments
import HubConsole.Proofs.Dashboard.LogRefresh
import HubConsole.Proofs.Session.Echoes
import HubConsole.Proofs.Dashboard.LogEnd
import HubConsole.Proofs.Console.LogParams
import HubConsole.Proofs.Console.LogRequests
import HubConsole.Proofs.Console.HubErrors
import HubConsole.Proofs.Text.Lines
import HubConsole.Proofs.Console.NetworkTable
import HubConsole.Proofs.Text.Utf8
import HubConsole.Proofs.Graph.Series
import HubConsole.Proofs.Console.GraphViews
import HubConsole.Proofs.Text.Split
import HubConsole.Proofs.Url.Escapes
import HubConsole.Proofs.Url.Paths
import HubConsole.Proofs.Url.Addresses
import HubConsole.Proofs.Session.Endings
import HubConsole.Proofs.Session.Endpoint
