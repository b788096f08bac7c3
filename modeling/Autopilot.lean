import Autopilot.Command.Recipe
import Autopilot.Cursor.NodeLoop
import Autopilot.Cursor.Operation
import Autopilot.Lexer.Stream
import Autopilot.Main
import Autopilot.Proofs.Reading.Lines
import Autopilot.Proofs.Reading.RoundTrip
import Autopilot.Source.Session
import Autopilot.World.Rig
import Autopilot.Proofs.Tick.Decision
import Autopilot.Proofs.Lexer.Pieces
import Autopilot.Proofs.Tick.Sequence
import Autopilot.Proofs.Tick.Lookups
import Autopilot.Proofs.Command.Assembly
import Autopilot.Proofs.Validation.Violations
import Autopilot.Proofs.Validation.Soundness
import Autopilot.Proofs.Reading.Reformatting
import Autopilot.Proofs.Source.Reuse
import Autopilot.Proofs.Grammar.Totality
import Autopilot.Proofs.Lexer.Longest
import Autopilot.Proofs.Lexer.Spaced
import Autopilot.Proofs.Cursor.Moved
import Autopilot.Proofs.Reading.Layout
import Autopilot.Proofs.Tick.Inquiry
import Autopilot.Proofs.Tick.Chain
import Autopilot.Proofs.Number.Equality
import Autopilot.Proofs.Command.Atomicity
import Autopilot.Proofs.Source.Reports
import Autopilot.Proofs.Grammar.Steps
import Autopilot.Proofs.Validation.Checkpoints
import Autopilot.Proofs.Lexer.Streaming
import Autopilot.Proofs.Reading.Blanking
import Autopilot.Proofs.Command.History
import Autopilot.Proofs.Validation.Casing
import Autopilot.Proofs.Command.Callable
import Autopilot.Proofs.Number.Rounding
import Autopilot.Proofs.Text.Blocks
import Autopilot.Proofs.Text.Similarity
import Autopilot.Proofs.Text.Closest
import Autopilot.Proofs.Validation.Occurrences
import Autopilot.Proofs.Validation.Hints
import Autopilot.Proofs.Validation.Vocabulary
import Autopilot.Proofs.Script.Legibility
import Autopilot.Proofs.Command.Caseless
import Autopilot.Proofs.Tick.Labels
import Autopilot.Proofs.Cursor.Standing
import Autopilot.Proofs.Cursor.Recovery
import Autopilot.Proofs.Cursor.Progress
