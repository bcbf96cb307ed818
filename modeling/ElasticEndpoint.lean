import ElasticEndpoint.Calendar
import ElasticEndpoint.Cluster.Call
import ElasticEndpoint.Cluster.Fault
import ElasticEndpoint.Cluster.Form
import ElasticEndpoint.Cluster.Manifest
import ElasticEndpoint.Cluster.Object
import ElasticEndpoint.Cluster.Schema
import ElasticEndpoint.Cluster.Store
import ElasticEndpoint.Cluster.Timestamp
import ElasticEndpoint.CommandLine.Command
import ElasticEndpoint.CommandLine.Option
import ElasticEndpoint.CommandLine.Session
import ElasticEndpoint.CommandLine.Work
import ElasticEndpoint.Complaint
import ElasticEndpoint.Console.Emoji
import ElasticEndpoint.Console.Emoji.Names
import ElasticEndpoint.Console.Lines
import ElasticEndpoint.Console.Literal
import ElasticEndpoint.Console.Markup
import ElasticEndpoint.Console.Screen
import ElasticEndpoint.Console.Style
import ElasticEndpoint.Decimal.Binary64
import ElasticEndpoint.Decimal.Reading
import ElasticEndpoint.Decimal.Shortest
import ElasticEndpoint.Duration
import ElasticEndpoint.Failover
import ElasticEndpoint.Files.Disk
import ElasticEndpoint.Files.Fault
import ElasticEndpoint.Files.Path
import ElasticEndpoint.Guard
import ElasticEndpoint.Health
import ElasticEndpoint.Http
import ElasticEndpoint.Instance
import ElasticEndpoint.Job
import ElasticEndpoint.Json.Reader
import ElasticEndpoint.Logging
import ElasticEndpoint.Metal.Answer
import ElasticEndpoint.Metal.Call
import ElasticEndpoint.Metal.Client
import ElasticEndpoint.Metal.Ledger
import ElasticEndpoint.Net.HealthUrl
import ElasticEndpoint.Net.IPv6
import ElasticEndpoint.Net.Port
import ElasticEndpoint.NodePass
import ElasticEndpoint.Ports
import ElasticEndpoint.Problem
import ElasticEndpoint.Program
import ElasticEndpoint.Record
import ElasticEndpoint.Reservation
import ElasticEndpoint.Resolver
import ElasticEndpoint.ServicePass
import ElasticEndpoint.Settings.Basic
import ElasticEndpoint.Settings.File
import ElasticEndpoint.Simulation.Host
import ElasticEndpoint.Simulation.Script
import ElasticEndpoint.Simulation.World
import ElasticEndpoint.Sync
import ElasticEndpoint.Text.Base64
import ElasticEndpoint.Text.Blank
import ElasticEndpoint.Text.Case
import ElasticEndpoint.Text.Digit
import ElasticEndpoint.Text.Half
import ElasticEndpoint.Text.Integer
import ElasticEndpoint.Text.Printable
import ElasticEndpoint.Text.Quoted
import ElasticEndpoint.Text.Split
import ElasticEndpoint.Text.Utf8
import ElasticEndpoint.Text.Width
import ElasticEndpoint.Text.Word
import ElasticEndpoint.Value.Basic
import ElasticEndpoint.Value.Display
import ElasticEndpoint.Yaml.Collection
import ElasticEndpoint.Yaml.Fault
import ElasticEndpoint.Yaml.Feed
import ElasticEndpoint.Yaml.Graph
import ElasticEndpoint.Yaml.Kind
import ElasticEndpoint.Yaml.Load
import ElasticEndpoint.Yaml.Merge
import ElasticEndpoint.Yaml.Node
import ElasticEndpoint.Yaml.Place
import ElasticEndpoint.Yaml.Property
import ElasticEndpoint.Yaml.Scalar.Block
import ElasticEndpoint.Yaml.Scalar.Meaning
import ElasticEndpoint.Yaml.Scalar.Plain
import ElasticEndpoint.Yaml.Scalar.Quoted
import ElasticEndpoint.Yaml.Token
import ElasticEndpoint.Yaml.Writer
import ElasticEndpoint.Main
import ElasticEndpoint.Proofs.History
import ElasticEndpoint.Proofs.Acts
import ElasticEndpoint.Proofs.LookupActs
import ElasticEndpoint.Proofs.FailoverSearch
import ElasticEndpoint.Proofs.NodePassActs
import ElasticEndpoint.Proofs.WorldActs
import ElasticEndpoint.Proofs.NodePassGate
import ElasticEndpoint.Proofs.FailoverScan
import ElasticEndpoint.Proofs.Contracts
import ElasticEndpoint.Proofs.ServicePassActs
import ElasticEndpoint.Proofs.PassRequests
import ElasticEndpoint.Proofs.Quiet
import ElasticEndpoint.Proofs.Interleaving
import ElasticEndpoint.Proofs.SingleFlight
import ElasticEndpoint.Proofs.PassEffect
import ElasticEndpoint.Proofs.Assignments
import ElasticEndpoint.Proofs.StoreObjects
import ElasticEndpoint.Proofs.ServiceWrites
import ElasticEndpoint.Proofs.ServiceHealing
import ElasticEndpoint.Proofs.MirrorPublished
import ElasticEndpoint.Proofs.SteadySearch
import ElasticEndpoint.Proofs.PassSettlement
import ElasticEndpoint.Proofs.Convergence
import ElasticEndpoint.Proofs.ClientActs
import ElasticEndpoint.Proofs.ClientRequests
import ElasticEndpoint.Proofs.ElasticSpared
import ElasticEndpoint.Proofs.MoveExchange
import ElasticEndpoint.Proofs.CrashOrigin
import ElasticEndpoint.Proofs.SyncSurvival
import ElasticEndpoint.Proofs.WellFormedWorld
import ElasticEndpoint.Proofs.SyncIsolation
import ElasticEndpoint.Proofs.RepeatedSyncs
import ElasticEndpoint.Proofs.PortRuns
import ElasticEndpoint.Proofs.ProbedPorts
import ElasticEndpoint.Proofs.PublishedPort
import ElasticEndpoint.Proofs.MirrorConfluence
import ElasticEndpoint.Proofs.ReservationGate
import ElasticEndpoint.Proofs.MirrorScript
import ElasticEndpoint.Proofs.NodePorts
import ElasticEndpoint.Proofs.Listing
import ElasticEndpoint.Proofs.GuardAttempts
import ElasticEndpoint.Proofs.AcceptedSettings
import ElasticEndpoint.Proofs.Announcements
import ElasticEndpoint.Proofs.ErrorRecords
import ElasticEndpoint.Proofs.ShortestDigits
import ElasticEndpoint.Proofs.NumberText
import ElasticEndpoint.Proofs.TextRuns
import ElasticEndpoint.Proofs.QuotedScalars
import ElasticEndpoint.Proofs.PlainScalars
import ElasticEndpoint.Proofs.FlatTokens
import ElasticEndpoint.Proofs.FlatNodes
import ElasticEndpoint.Proofs.FlatMapping
import ElasticEndpoint.Proofs.WrittenMapping
import ElasticEndpoint.Proofs.SettingsFile
import ElasticEndpoint.Proofs.TagMatching
import ElasticEndpoint.Proofs.ScreenCells
import ElasticEndpoint.Proofs.WrappedLines
import ElasticEndpoint.Proofs.MarkupMarks
import ElasticEndpoint.Proofs.PlainMarkup
import ElasticEndpoint.Proofs.PrintedProblems
import ElasticEndpoint.Proofs.ReportedProblems
import ElasticEndpoint.Proofs.DiskChanges
import ElasticEndpoint.Proofs.HostRuns
import ElasticEndpoint.Proofs.NewSettings
import ElasticEndpoint.Proofs.HealthAddresses
import ElasticEndpoint.Proofs.ProviderIdentities
import ElasticEndpoint.Proofs.TimeLimits
import ElasticEndpoint.Proofs.KeySecrecy
import ElasticEndpoint.Proofs.LoggingPeriods
