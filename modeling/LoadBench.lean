import LoadBench.Application
import LoadBench.Main
import LoadBench.Proofs.Latency.Recording
import LoadBench.Proofs.Latency.OrderStatistics
import LoadBench.Proofs.Service
import LoadBench.Proofs.Run.Worker
import LoadBench.Proofs.Run.Steps
import LoadBench.Proofs.Run.Accounts
import LoadBench.Proofs.Run.Setup
import LoadBench.Proofs.Run.Conservation
import LoadBench.Proofs.Binary64.Sign
import LoadBench.Proofs.Run.Timeline
import LoadBench.Proofs.Run.Termination
import LoadBench.Proofs.Run.Drain
import LoadBench.Proofs.Run.FailFast
import LoadBench.Proofs.Run.Stream
import LoadBench.Proofs.Run.Independence
import LoadBench.Proofs.Session.Outcome
import LoadBench.Proofs.Session.Lifecycle
import LoadBench.Proofs.CommandLine.Options
import LoadBench.Proofs.Text.Numeral
import LoadBench.Proofs.Binary64.Rounding
import LoadBench.Proofs.CommandLine.Bench
import LoadBench.Proofs.Decimal.Shortest
import LoadBench.Proofs.Path
import LoadBench.Proofs.Config.Loading
import LoadBench.Proofs.CommandLine.Scenarios
import LoadBench.Proofs.Session.Group
import LoadBench.Proofs.Session.Report
import LoadBench.Proofs.Document
import LoadBench.Proofs.Json.Reading
import LoadBench.Proofs.Config.Session
import LoadBench.Proofs.Files
import LoadBench.Proofs.Session.Health
import LoadBench.Proofs.Session.Signals
import LoadBench.Proofs.Run.Prefill
import LoadBench.Proofs.Run.Summary
import LoadBench.Proofs.Binary64.Order
import LoadBench.Proofs.Random.Draws
import LoadBench.Proofs.Run.Modes
import LoadBench.Proofs.Run.Stop
import LoadBench.Proofs.Url
import LoadBench.Proofs.Run.Requests
import LoadBench.Proofs.Text.Lines
import LoadBench.Proofs.Run.Table
import LoadBench.Proofs.Run.Ids
import LoadBench.Proofs.Binary64.Value
import LoadBench.Proofs.Config.Validity
import LoadBench.Proofs.Session.Records
import LoadBench.Proofs.Binary64.Whole
import LoadBench.Proofs.Text.Tail
import LoadBench.Proofs.Latency.NearestRank
import LoadBench.Proofs.Random.Scores
