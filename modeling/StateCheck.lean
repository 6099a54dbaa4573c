import StateCheck.Report.Console
import StateCheck.Report.Json
import StateCheck.Scenario.Faults
import StateCheck.Scenario.Prepared
import StateCheck.Scenario.Reporters
import StateCheck.Scenario.System
import StateCheck.Settings.Load
import StateCheck.Tree.Walk
import StateCheck.Proofs.Yields
import StateCheck.Proofs.Accepts
import StateCheck.Proofs.Replay
import StateCheck.Proofs.Sequence.Shape
import StateCheck.Proofs.Sequence.Steps
import StateCheck.Proofs.Sequence.Moves
import StateCheck.Proofs.Generation
import StateCheck.Proofs.Minimise.Rounds
import StateCheck.Proofs.Minimise.Failure
import StateCheck.Proofs.Tree.Robust
import StateCheck.Proofs.Sequence.Robust
import StateCheck.Proofs.Tree.Search
import StateCheck.Proofs.Tree.Pick
import StateCheck.Proofs.Tree.Row
import StateCheck.Proofs.Tree.Fields
import StateCheck.Proofs.Tree.Elements
import StateCheck.Proofs.Strategy
import StateCheck.Proofs.Run.Conclude
import StateCheck.Proofs.Run.Cases
import StateCheck.Proofs.Run.Failure
import StateCheck.Proofs.Run.Ends
import StateCheck.Proofs.Tree.Safe
import StateCheck.Proofs.Sequence.Undo
import StateCheck.Proofs.Agree
import StateCheck.Proofs.Sequence.Agree
import StateCheck.Proofs.Minimise.Loop
import StateCheck.Proofs.Minimise.Agree
import StateCheck.Proofs.Steady
import StateCheck.Proofs.Run.Guarded
import StateCheck.Proofs.Tree.Rank
import StateCheck.Proofs.Tree.RankedParts
import StateCheck.Proofs.Sequence.Rounds
import StateCheck.Proofs.Sequence.Attempts
import StateCheck.Proofs.Sequence.Rank
import StateCheck.Proofs.Minimise.Ends
import StateCheck.Proofs.Draws
import StateCheck.Proofs.Composed
import StateCheck.Proofs.Tree.Stages
import StateCheck.Proofs.Sequence.Stages
import StateCheck.Proofs.Minimise.Stages
import StateCheck.Proofs.Tree.Rests
import StateCheck.Proofs.Tree.Plain
import StateCheck.Proofs.Tree.PlainParts
import StateCheck.Proofs.Plain
import StateCheck.Proofs.Leftover
import StateCheck.Proofs.Support
import StateCheck.Proofs.Tree.Tries
import StateCheck.Proofs.Tree.Keeps
import StateCheck.Proofs.Backoff
import StateCheck.Proofs.Tree.Returns
import StateCheck.Proofs.Returns
import StateCheck.Proofs.Replay.Prefixes
import StateCheck.Proofs.Sequence.Order
import StateCheck.Proofs.Minimise.Timeless
import StateCheck.Proofs.Minimise.Limit
import StateCheck.Proofs.Minimise.Budget
import StateCheck.Proofs.Coupled
import StateCheck.Proofs.Sequence.Padded
import StateCheck.Proofs.Minimise.Tail
import StateCheck.Proofs.Refusals
import StateCheck.Proofs.Minimise.Trimmed
import StateCheck.Proofs.Tree.Sinks
import StateCheck.Proofs.Least
import StateCheck.Proofs.Tree.Threshold
import StateCheck.Proofs.Sequence.Hunt
import StateCheck.Proofs.Sequence.TransitionQuest
import StateCheck.Proofs.Sequence.InitialQuest
import StateCheck.Proofs.Minimise.Threshold
import StateCheck.Proofs.Replay.Faults
import StateCheck.Proofs.Sequence.RoundCases
import StateCheck.Proofs.Sequence.OnePart
import StateCheck.Proofs.Sequence.Stranded
import StateCheck.Proofs.Sequence.Raised
import StateCheck.Proofs.Nearer
import StateCheck.Proofs.Tree.Bisection
import StateCheck.Proofs.Generation.Attempts
import StateCheck.Proofs.Report.Marks
import StateCheck.Proofs.Accepts.Resumed
import StateCheck.Proofs.Settings.Load
