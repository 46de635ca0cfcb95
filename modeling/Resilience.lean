import Resilience.Await
import Resilience.Backoff
import Resilience.Blank
import Resilience.Breaker
import Resilience.Bucket
import Resilience.Call
import Resilience.Clock
import Resilience.CommandLine.Arguments
import Resilience.CommandLine.Run
import Resilience.Context
import Resilience.Crash
import Resilience.Document
import Resilience.Duration
import Resilience.Duration.Phrase
import Resilience.Executor
import Resilience.Failure
import Resilience.Gate
import Resilience.Machine
import Resilience.Main
import Resilience.Number.Nearest
import Resilience.Number.Shortest
import Resilience.Number.Text
import Resilience.PolicyPatch
import Resilience.PolicyStack
import Resilience.Proofs.Breaker.Traffic
import Resilience.Registry.Basic
import Resilience.Registry.Resolve
import Resilience.Registry.Script
import Resilience.Retry
import Resilience.Scalar
import Resilience.Scenario.Run
import Resilience.Scenario.Script
import Resilience.Scenario.Step
import Resilience.Settings.Basic
import Resilience.Settings.Decode
import Resilience.Settings.Encode
import Resilience.Settings.Filter
import Resilience.Settings.Load
import Resilience.Simulation.Attempt
import Resilience.Simulation.Injector
import Resilience.Simulation.Run
import Resilience.Summary
import Resilience.Task
import Resilience.Text
import Resilience.Text.Alphanumeric
import Resilience.Text.Hidden
import Resilience.World
import Resilience.Yaml.Node
import Resilience.Yaml.Print
import Resilience.Yaml.Scalar
import Resilience.Yaml.Spot
import Resilience.Yaml.Token
import Resilience.Proofs.Breaker.Trial
import Resilience.Proofs.Breaker.Transitions
import Resilience.Proofs.Breaker.LateGuard
import Resilience.Proofs.Breaker.Reset
import Resilience.Proofs.Call.Run
import Resilience.Proofs.Call.Pause
import Resilience.Proofs.Call.Retry
import Resilience.Proofs.Call.LateTimer
import Resilience.Proofs.Call.Account
import Resilience.Proofs.Call.Cancelled
import Resilience.Proofs.Bucket.Traffic
import Resilience.Proofs.Bucket.Window
import Resilience.Proofs.Call.Budget
import Resilience.Proofs.Call.MaxWait
import Resilience.Proofs.Call.Gathered
import Resilience.Proofs.Call.Limited
import Resilience.Proofs.Call.Pipeline
import Resilience.Proofs.Call.Fleet
import Resilience.Proofs.Call.Balance
import Resilience.Proofs.Context.Report
import Resilience.Proofs.Registry.Log
import Resilience.Proofs.Registry.Lookup
import Resilience.Proofs.Call.Lasting
import Resilience.Proofs.Machine.Looks
import Resilience.Proofs.Gate.Ledger
import Resilience.Proofs.Machine.Permits
import Resilience.Proofs.Machine.Deeds
import Resilience.Proofs.Machine.Capped
import Resilience.Proofs.Machine.Ungated
import Resilience.Proofs.Machine.WideCap
import Resilience.Proofs.Machine.Reports
import Resilience.Proofs.Machine.Join
import Resilience.Proofs.Machine.Arrivals
import Resilience.Proofs.Machine.FanOut
import Resilience.Proofs.Breaker.History
import Resilience.Proofs.Breaker.OpenPeriod
import Resilience.Proofs.Machine.Glances
import Resilience.Proofs.Duration.RoundTrip
import Resilience.Proofs.Settings.Reading
import Resilience.Proofs.Settings.RoundTrip
import Resilience.Proofs.Call.Timeout
import Resilience.Proofs.Call.Guards
import Resilience.Proofs.Call.Settled
import Resilience.Proofs.Call.Crashes
import Resilience.Proofs.Settings.Accepted
import Resilience.Proofs.Settings.Agreement
import Resilience.Proofs.Settings.Overrides
import Resilience.Proofs.Call.Marks
import Resilience.Proofs.Call.Token
import Resilience.Proofs.Machine.Books
import Resilience.Proofs.Simulation.Counts
import Resilience.Proofs.Simulation.Reconciled
import Resilience.Proofs.Bucket.Probe
import Resilience.Proofs.Registry.Batch
import Resilience.Proofs.Registry.Acting
import Resilience.Proofs.Registry.Snapshot
import Resilience.Proofs.Backoff.Fibonacci
import Resilience.Proofs.Backoff.Schedule
import Resilience.Proofs.Call.Paced
import Resilience.Proofs.Context.Waiting
import Resilience.Proofs.Call.OpenBreaker
import Resilience.Proofs.Failure.Exhausted
