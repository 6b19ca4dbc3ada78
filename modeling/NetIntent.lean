import NetIntent.Binary64
import NetIntent.Text.Quoted
import NetIntent.Text.Blank
import NetIntent.Document.Basic
import NetIntent.Document.Decimal
import NetIntent.Document.Shortest
import NetIntent.Document.Json
import NetIntent.Document.Printer
import NetIntent.Policy.Realization
import NetIntent.Policy.VirtualServer
import NetIntent.Policy.SubnetPort
import NetIntent.Policy.Group
import NetIntent.Time.Span
import NetIntent.Retry.Backoff
import NetIntent.Store.Indexes
import NetIntent.Failure
import NetIntent.Procedure
import NetIntent.Realize.Poll
import NetIntent.Config.Basic
import NetIntent.Document.Yaml
import NetIntent.Config.Source
import NetIntent.Load.Board
import NetIntent.Collector.Runner
import NetIntent.Service.VirtualServers
import NetIntent.Service.StalePorts
import NetIntent.Proofs.Document.Codec
import NetIntent.Proofs.Policy.Paths
import NetIntent.Proofs.Policy.Grammar
import NetIntent.Proofs.Policy.Records
import NetIntent.Proofs.Deeds
import NetIntent.Proofs.Store.Consistency
import NetIntent.Proofs.Store.Lookup
import NetIntent.Proofs.Store.Refinement
import NetIntent.Proofs.Store.Commutation
import NetIntent.Proofs.Store.Losses
import NetIntent.Proofs.Group.Setting
import NetIntent.Proofs.Group.Effects
import NetIntent.Proofs.Group.Operations
import NetIntent.Proofs.Group.Addresses
import NetIntent.Proofs.Group.Ledger
import NetIntent.Proofs.Group.Law
import NetIntent.Proofs.Group.LostAnswers
import NetIntent.Proofs.Group.Concurrency
import NetIntent.Proofs.Group.Success
import NetIntent.Proofs.Group.Sharing
import NetIntent.Proofs.Realize.Polling
import NetIntent.Proofs.Realize.Classification
import NetIntent.Proofs.Service.Submission
import NetIntent.Proofs.Service.Operations
import NetIntent.Proofs.Service.Provenance
import NetIntent.Proofs.Service.Lookups
import NetIntent.Proofs.Collector.Round
import NetIntent.Proofs.Service.PortLookups
import NetIntent.Proofs.Service.Deletions
import NetIntent.Proofs.Collector.Race
import NetIntent.Proofs.Collector.Ownership
import NetIntent.Proofs.Audit.Trail
import NetIntent.Proofs.Audit.Operations
import NetIntent.Proofs.Audit.Completeness
import NetIntent.Proofs.Load.Listing
import NetIntent.Proofs.Load.Paging
import NetIntent.Proofs.Load.Completion
import NetIntent.Proofs.Load.Restart
import NetIntent.Proofs.Retry.Waits
import NetIntent.Proofs.Realize.Timing
import NetIntent.Proofs.Collector.Schedule
import NetIntent.Proofs.Document.Numerals
import NetIntent.Proofs.Config.Rules
import NetIntent.Proofs.Config.Overrides
