import ConversionScheduler.Application
import ConversionScheduler.Balancer
import ConversionScheduler.CommandLine
import ConversionScheduler.Config.Basic
import ConversionScheduler.Config.Loading
import ConversionScheduler.Config.Validity
import ConversionScheduler.Decimal.Digits
import ConversionScheduler.Decimal.Double
import ConversionScheduler.Domain.Direction
import ConversionScheduler.Domain.Joiner
import ConversionScheduler.Domain.Mapping
import ConversionScheduler.Domain.Name
import ConversionScheduler.Domain.Punycode
import ConversionScheduler.Error
import ConversionScheduler.Http
import ConversionScheduler.Json.Dialect
import ConversionScheduler.Json.Printer
import ConversionScheduler.Json.Tree
import ConversionScheduler.Json.Value
import ConversionScheduler.Logging.Event
import ConversionScheduler.Logging.Filter
import ConversionScheduler.Logging.Log
import ConversionScheduler.Logging.Pattern
import ConversionScheduler.Main
import ConversionScheduler.Manager.Basic
import ConversionScheduler.Manager.Eviction
import ConversionScheduler.Manager.Journal
import ConversionScheduler.Manager.Sweep
import ConversionScheduler.Metrics
import ConversionScheduler.Operation
import ConversionScheduler.Proofs.Absences
import ConversionScheduler.Proofs.Addresses
import ConversionScheduler.Proofs.Ages
import ConversionScheduler.Proofs.Assignments
import ConversionScheduler.Proofs.CacheUpkeep
import ConversionScheduler.Proofs.Calendar
import ConversionScheduler.Proofs.Conduct
import ConversionScheduler.Proofs.CounterBalance
import ConversionScheduler.Proofs.Counters
import ConversionScheduler.Proofs.Demands
import ConversionScheduler.Proofs.Digits
import ConversionScheduler.Proofs.Dispatches
import ConversionScheduler.Proofs.Evictions
import ConversionScheduler.Proofs.FailedDispatches
import ConversionScheduler.Proofs.Fairness
import ConversionScheduler.Proofs.Faults
import ConversionScheduler.Proofs.IdOrder
import ConversionScheduler.Proofs.IndexEffects
import ConversionScheduler.Proofs.Interleaving
import ConversionScheduler.Proofs.JsonData
import ConversionScheduler.Proofs.JsonText
import ConversionScheduler.Proofs.Judgements
import ConversionScheduler.Proofs.LeaseLimits
import ConversionScheduler.Proofs.LiveRecords
import ConversionScheduler.Proofs.Lookups
import ConversionScheduler.Proofs.Membership
import ConversionScheduler.Proofs.MemoryRegistry
import ConversionScheduler.Proofs.Moves
import ConversionScheduler.Proofs.ObservedWeights
import ConversionScheduler.Proofs.Polling
import ConversionScheduler.Proofs.Pools
import ConversionScheduler.Proofs.ProxyCaches
import ConversionScheduler.Proofs.ProxyHistories
import ConversionScheduler.Proofs.RecordTexts
import ConversionScheduler.Proofs.Records
import ConversionScheduler.Proofs.RedisRegistry
import ConversionScheduler.Proofs.RedisServer
import ConversionScheduler.Proofs.Registrations
import ConversionScheduler.Proofs.Registry
import ConversionScheduler.Proofs.Rfc3339
import ConversionScheduler.Proofs.SerialRuns
import ConversionScheduler.Proofs.Sessions
import ConversionScheduler.Proofs.SharedIndex
import ConversionScheduler.Proofs.ShutdownSignals
import ConversionScheduler.Proofs.SoloSweeps
import ConversionScheduler.Proofs.StalenessWindow
import ConversionScheduler.Proofs.StaticWorkers
import ConversionScheduler.Proofs.StatusUrls
import ConversionScheduler.Proofs.Submissions
import ConversionScheduler.Proofs.SweepReports
import ConversionScheduler.Proofs.Tables
import ConversionScheduler.Proofs.TaskBook
import ConversionScheduler.Proofs.TaskContents
import ConversionScheduler.Proofs.TaskCustody
import ConversionScheduler.Proofs.TaskLives
import ConversionScheduler.Proofs.TaskStages
import ConversionScheduler.Proofs.TaskStores
import ConversionScheduler.Proofs.Transcripts
import ConversionScheduler.Proofs.Turns
import ConversionScheduler.Proofs.WeightedChoices
import ConversionScheduler.Proofs.WorkerOperations
import ConversionScheduler.Proofs.WorkerStores
import ConversionScheduler.Redis.Address
import ConversionScheduler.Redis.Dialogue
import ConversionScheduler.Redis.Line
import ConversionScheduler.Redis.Server
import ConversionScheduler.Redis.Tasks
import ConversionScheduler.Redis.Workers
import ConversionScheduler.Scheduler
import ConversionScheduler.Service
import ConversionScheduler.Settings.Basic
import ConversionScheduler.Settings.Dialect
import ConversionScheduler.Settings.Number
import ConversionScheduler.Settings.Source
import ConversionScheduler.Shutdown
import ConversionScheduler.Store.Basic
import ConversionScheduler.Store.Faults
import ConversionScheduler.Store.Memory
import ConversionScheduler.Store.Site
import ConversionScheduler.Table
import ConversionScheduler.Task.Basic
import ConversionScheduler.Task.Kind
import ConversionScheduler.Task.State
import ConversionScheduler.Text.Blank
import ConversionScheduler.Text.Lowercase
import ConversionScheduler.Text.Quoted
import ConversionScheduler.Text.Utf8
import ConversionScheduler.Time.Calendar
import ConversionScheduler.Time.Clock
import ConversionScheduler.Time.Duration
import ConversionScheduler.Time.Rfc3339
import ConversionScheduler.Time.Timestamp
import ConversionScheduler.Toml.Dialect
import ConversionScheduler.Toml.Document
import ConversionScheduler.Toml.Scalar
import ConversionScheduler.Toml.Text
import ConversionScheduler.Toml.Value
import ConversionScheduler.Unicode.Category
import ConversionScheduler.Unicode.Composition
import ConversionScheduler.Unicode.Property
import ConversionScheduler.Unicode.Table
import ConversionScheduler.Url.Basic
import ConversionScheduler.Url.Fault
import ConversionScheduler.Url.Host
import ConversionScheduler.Url.Percent
import ConversionScheduler.Worker.Pool
import ConversionScheduler.Worker.Proxy
import ConversionScheduler.Worker.Record
