import JobWire.Executor
import JobWire.Main
import JobWire.Proofs.Number.NormalForm
import JobWire.Proofs.Number.ReadBack
import JobWire.Proofs.Json.Limits
import JobWire.Proofs.Number.Numeral
import JobWire.Proofs.Json.Scanning
import JobWire.Proofs.Json.Assembling
import JobWire.Proofs.Json.Reading
import JobWire.Proofs.Codec
import JobWire.Proofs.Job.RoundTrip
import JobWire.Proofs.Nesting
import JobWire.Proofs.Event.Grammar
import JobWire.Proofs.Job.Grammar
import JobWire.Proofs.Job.Trace
import JobWire.Proofs.Job.Normalization
import JobWire.Proofs.Event.Lossless
import JobWire.Proofs.Agreement
import JobWire.Proofs.Ignored
import JobWire.Proofs.Independence
import JobWire.Proofs.EmptyList
import JobWire.Proofs.Refusal
import JobWire.Proofs.Settling
import JobWire.Proofs.Shape
import JobWire.Proofs.Elementwise
import JobWire.Proofs.Reply
import JobWire.Proofs.Executor.Gathering
import JobWire.Proofs.Executor.Runs
import JobWire.Proofs.Queue.Construction
import JobWire.Proofs.Queue.Reading
import JobWire.Proofs.Queue.Normalization
import JobWire.Proofs.Queue.Grammar
import JobWire.Proofs.Queue.Patterns
import JobWire.Proofs.Event.Verdict
import JobWire.Proofs.Declaration.Rules
import JobWire.Proofs.Declaration.Events
import JobWire.Proofs.Declaration.Jobs
import JobWire.Proofs.Declaration.Queues
import JobWire.Proofs.Declaration.Models
import JobWire.Proofs.Bench.Sample
import JobWire.Proofs.Bench.Scenario
import JobWire.Proofs.Bench.Percentiles
