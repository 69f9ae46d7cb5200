import PagePilot.Chromium.Engine
import PagePilot.Options.Json
import PagePilot.Session.Chain
import PagePilot.Simulation.Browser
import PagePilot.Simulation.Engine
import PagePilot.Proofs.Licence
import PagePilot.Proofs.Journal
import PagePilot.Proofs.Execution
import PagePilot.Session.History
import PagePilot.Proofs.Operation
import PagePilot.Proofs.Backlog
import PagePilot.Proofs.CallOrder
import PagePilot.Proofs.Selection
import PagePilot.Proofs.Splice
import PagePilot.Proofs.Assertion
import PagePilot.Proofs.Restraint
import PagePilot.Proofs.Viewport
import PagePilot.Proofs.Waiting
import PagePilot.Proofs.Termination
import PagePilot.Proofs.Json.RoundTrip
import PagePilot.Proofs.Json.Grammar
import PagePilot.Proofs.Json.Skipping
import PagePilot.Proofs.Json.Scalar
import PagePilot.Proofs.Json.Decoding
import PagePilot.Proofs.Description
import PagePilot.Proofs.Launching
import PagePilot.Proofs.Verdicts
import PagePilot.Proofs.Narration
import PagePilot.Proofs.Evaluation
import PagePilot.Proofs.Options
import PagePilot.Proofs.Resemblance
import PagePilot.Proofs.Retry
import PagePilot.Proofs.Provenance
import PagePilot.Proofs.Adapter
import PagePilot.Proofs.Decimal.Rounding
import PagePilot.Proofs.Decimal.Shortest
import PagePilot.Proofs.Json.Number
import PagePilot.Proofs.Json.Digits
import PagePilot.Proofs.Script.Text
import PagePilot.Proofs.Script.Reading
import PagePilot.Proofs.Script.Truth
import PagePilot.Proofs.Batch
import PagePilot.Proofs.Navigation
import PagePilot.Proofs.Timekeeping
import PagePilot.Proofs.Display
import PagePilot.Proofs.Rehearsal
import PagePilot.Proofs.Warnings
import PagePilot.Proofs.Matching
import PagePilot.Proofs.Verbosity
import PagePilot.Proofs.Naming
import PagePilot.Proofs.Polling
import PagePilot.Proofs.Deadline
import PagePilot.Proofs.Arrival
import PagePilot.Proofs.Report
import PagePilot.Proofs.Counting
import PagePilot.Proofs.Arguments
import PagePilot.Proofs.Truthiness
import PagePilot.Proofs.Release
