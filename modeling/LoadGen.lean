import LoadGen.Main
import LoadGen.Rehearsal.Pacing
import LoadGen.Rehearsal.Working
import LoadGen.Service
import LoadGen.Proofs.Worker.Story
import LoadGen.Proofs.Worker.Operations
import LoadGen.Proofs.Collector.Story
import LoadGen.Proofs.Rig.Journal
import LoadGen.Proofs.Rig.Lives
import LoadGen.Proofs.Rig.Books
import LoadGen.Proofs.Rig.Draining
import LoadGen.Proofs.Rig.Signals
import LoadGen.Proofs.Run.Moves
import LoadGen.Proofs.Run.History
import LoadGen.Proofs.Run.Barrier
import LoadGen.Proofs.Run.Closing
import LoadGen.Proofs.Rig.Totals
import LoadGen.Proofs.Run.Accounts
import LoadGen.Proofs.Config.Plan
import LoadGen.Proofs.Config.Validation
import LoadGen.Proofs.Worker.Scene
import LoadGen.Proofs.Worker.Batches
import LoadGen.Proofs.Worker.Stopping
import LoadGen.Proofs.Statistics.Reservoir
import LoadGen.Proofs.Statistics.Summary
import LoadGen.Proofs.Statistics.Tally
import LoadGen.Proofs.Statistics.Arrival
import LoadGen.Proofs.Run.Faults
import LoadGen.Proofs.Signal.Listeners
import LoadGen.Proofs.Worker.Lifecycle
import LoadGen.Proofs.Worker.Pace
import LoadGen.Proofs.Config.Coverage
import LoadGen.Proofs.Config.Load
import LoadGen.Proofs.Statistics.Uniformity
import LoadGen.Proofs.CommandLine.Options
import LoadGen.Proofs.Duration.Spans
import LoadGen.Proofs.CommandLine.Answers
import LoadGen.Proofs.Config.Answers
import LoadGen.Proofs.Statistics.Retention
import LoadGen.Proofs.Statistics.Percentile
import LoadGen.Proofs.Statistics.Mean
import LoadGen.Proofs.Worker.Backpressure
import LoadGen.Proofs.Run.Progress
import LoadGen.Proofs.Limiter.Delays
import LoadGen.Proofs.Run.Joining
import LoadGen.Proofs.Engine.Sessions
import LoadGen.Proofs.Duration.ReadBack
import LoadGen.Proofs.Run.Staffing
import LoadGen.Proofs.Service.Routing
