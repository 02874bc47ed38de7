import ConnectionPool.Address.Endpoint
import ConnectionPool.Address.Ip
import ConnectionPool.Address.ServerAddress
import ConnectionPool.Bytes
import ConnectionPool.Channel
import ConnectionPool.CommandLine.Arguments
import ConnectionPool.CommandLine.Flag
import ConnectionPool.CommandLine.Reading
import ConnectionPool.Decimal.Binary64
import ConnectionPool.Decimal.Shortest
import ConnectionPool.Deployment
import ConnectionPool.Deployment.Visit
import ConnectionPool.Descriptor
import ConnectionPool.Directory
import ConnectionPool.Failure
import ConnectionPool.Files.Path
import ConnectionPool.Files.Tree
import ConnectionPool.Launch
import ConnectionPool.Line
import ConnectionPool.Lobby
import ConnectionPool.Machine
import ConnectionPool.Main
import ConnectionPool.Options
import ConnectionPool.Parked
import ConnectionPool.Pool
import ConnectionPool.Reception
import ConnectionPool.Refusal
import ConnectionPool.Rehearsal
import ConnectionPool.Server
import ConnectionPool.Service
import ConnectionPool.Session.Counted
import ConnectionPool.Session.Delivery
import ConnectionPool.Session.Echo
import ConnectionPool.Session.Protocol
import ConnectionPool.Session.Request
import ConnectionPool.Settings.Certificates
import ConnectionPool.Settings.Document
import ConnectionPool.Settings.Entry
import ConnectionPool.Settings.File
import ConnectionPool.Settings.Schema
import ConnectionPool.Site
import ConnectionPool.Text.Blank
import ConnectionPool.Text.Fields
import ConnectionPool.Text.Hexadecimal
import ConnectionPool.Text.Hidden
import ConnectionPool.Text.Numeral
import ConnectionPool.Text.Quoted
import ConnectionPool.Text.Whole
import ConnectionPool.Tls.Base64
import ConnectionPool.Tls.Der
import ConnectionPool.Tls.Pem
import ConnectionPool.Tls.Settings
import ConnectionPool.Toml.Item
import ConnectionPool.Toml.Layout
import ConnectionPool.Toml.Moment
import ConnectionPool.Toml.Number
import ConnectionPool.Toml.Quotation
import ConnectionPool.Toml.Reader
import ConnectionPool.Transport
import ConnectionPool.Transport.Network
import ConnectionPool.Transport.SocketFile
import ConnectionPool.Worker
import ConnectionPool.Proofs.Server.Step
import ConnectionPool.Proofs.Server.Roster
import ConnectionPool.Proofs.Server.Run
import ConnectionPool.Proofs.Server.Duty
import ConnectionPool.Proofs.Server.Sound
import ConnectionPool.Proofs.Server.Collections
import ConnectionPool.Proofs.Server.Slots
import ConnectionPool.Proofs.Server.Order
import ConnectionPool.Proofs.Server.Hands
import ConnectionPool.Proofs.Server.Custody
import ConnectionPool.Proofs.Server.Capacity
import ConnectionPool.Proofs.Server.Rounds
import ConnectionPool.Proofs.Server.Closing
import ConnectionPool.Proofs.Server.Token
import ConnectionPool.Proofs.Server.StopCall
import ConnectionPool.Proofs.Server.Drain
import ConnectionPool.Proofs.Server.Interruption
import ConnectionPool.Proofs.Server.Engagement
import ConnectionPool.Proofs.Lobby.Step
import ConnectionPool.Proofs.Lobby.Sound
import ConnectionPool.Proofs.Lobby.Streams
import ConnectionPool.Proofs.Lobby.Agreement
import ConnectionPool.Proofs.Address.Ip
import ConnectionPool.Proofs.Address.RoundTrip
import ConnectionPool.Proofs.Deployment.Launch
import ConnectionPool.Proofs.Directory
import ConnectionPool.Proofs.Server.Lifecycle
import ConnectionPool.Proofs.Service.Startup
import ConnectionPool.Proofs.Settings.Document
import ConnectionPool.Proofs.Bytes
import ConnectionPool.Proofs.Files.Tree
import ConnectionPool.Proofs.Settings.File
import ConnectionPool.Proofs.Server.Renumbering
import ConnectionPool.Proofs.Server.Restart
import ConnectionPool.Proofs.Server.Hiring
import ConnectionPool.Proofs.Server.Whereabouts
import ConnectionPool.Proofs.Server.Instances
import ConnectionPool.Proofs.Server.Subsiding
import ConnectionPool.Proofs.Server.Calls
import ConnectionPool.Proofs.Line
import ConnectionPool.Proofs.Site.Moves
import ConnectionPool.Proofs.Site.Threads
import ConnectionPool.Proofs.Site.Stop
import ConnectionPool.Proofs.Site.Traffic
import ConnectionPool.Proofs.Site.Lives
import ConnectionPool.Proofs.Deployment.Hosting
import ConnectionPool.Proofs.Deployment.Arrival
import ConnectionPool.Proofs.Deployment.Visit
import ConnectionPool.Proofs.Service.Cleanup
import ConnectionPool.Proofs.Directory.History
import ConnectionPool.Proofs.Files.Removal
import ConnectionPool.Proofs.Transport.History
import ConnectionPool.Proofs.Transport.SocketFile
import ConnectionPool.Proofs.Session.Echo
import ConnectionPool.Proofs.Worker.Course
import ConnectionPool.Proofs.Worker.Rounds
import ConnectionPool.Proofs.Settings.Blame
import ConnectionPool.Proofs.Text.Digits
import ConnectionPool.Proofs.Address.Acceptance
import ConnectionPool.Proofs.Session.Discipline
import ConnectionPool.Proofs.Deployment.Reached
import ConnectionPool.Proofs.Transport.Listener
import ConnectionPool.Proofs.Site.Tended
import ConnectionPool.Proofs.Deployment.Undone
import ConnectionPool.Proofs.Deployment.AllOrNothing
import ConnectionPool.Proofs.Address.Grammar
import ConnectionPool.Proofs.Text.Fields
import ConnectionPool.Proofs.Settings.Given
import ConnectionPool.Proofs.Settings.Omission
import ConnectionPool.Proofs.Settings.Defaults
import ConnectionPool.Proofs.CommandLine.Typed
import ConnectionPool.Proofs.CommandLine.Given
import ConnectionPool.Proofs.Transport.Adapter
import ConnectionPool.Proofs.Refusal
import ConnectionPool.Proofs.Server.Desk
import ConnectionPool.Proofs.Server.BusyCalls
import ConnectionPool.Proofs.Site.Stirs
import ConnectionPool.Proofs.Site.Arising
import ConnectionPool.Proofs.Site.Schedules
import ConnectionPool.Proofs.Site.Sweep
import ConnectionPool.Proofs.Site.Registry
import ConnectionPool.Proofs.Server.Recency
import ConnectionPool.Proofs.Server.Attempts
