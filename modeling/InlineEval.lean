import InlineEval.Cycle.Rehearsal
import InlineEval.Cycle.Run
import InlineEval.Host.Transcript
import InlineEval.Main
import InlineEval.Watch.DebouncerRehearsal
import InlineEval.Proofs.Source.Numbered
import InlineEval.Proofs.Segment.Skippable
import InlineEval.Proofs.Segment.Growth
import InlineEval.Proofs.Segment.Layout
import InlineEval.Proofs.Segment.Partition
import InlineEval.Proofs.Cycle.Course
import InlineEval.Proofs.Cycle.Replay
import InlineEval.Proofs.Annotation.Placement
import InlineEval.Proofs.Cycle.Annotations
import InlineEval.Proofs.Watch.NoLostUpdate
import InlineEval.Proofs.Segment.Stages
import InlineEval.Proofs.Segment.Unfinished
import InlineEval.Proofs.Segment.Decorators
import InlineEval.Proofs.Segment.Suite
import InlineEval.Proofs.Json.RoundTrip
import InlineEval.Proofs.Json.OneLine
import InlineEval.Proofs.Outcome.Report
import InlineEval.Proofs.Interpreter.Framing
import InlineEval.Proofs.Segment.Reading
import InlineEval.Proofs.Segment.Restart
import InlineEval.Proofs.Text.Utf8
import InlineEval.Proofs.Interpreter.Script
import InlineEval.Proofs.Cycle.EditsBelow
import InlineEval.Proofs.Cycle.Exclusion
import InlineEval.Proofs.Cycle.Rehearsal
import InlineEval.Proofs.Segment.Extent
import InlineEval.Proofs.Cycle.Options
import InlineEval.Proofs.Source.Scanner
import InlineEval.Proofs.Source.Comment
import InlineEval.Proofs.Segment.Commented
import InlineEval.Proofs.Settings.Assignments
import InlineEval.Proofs.Settings.Layers
import InlineEval.Proofs.Segment.Appending
import InlineEval.Proofs.Source.Quotation
import InlineEval.Proofs.Segment.Clauses
import InlineEval.Proofs.Annotation.Shown
import InlineEval.Proofs.Interpreter.Streams
import InlineEval.Proofs.Listing.Rows
import InlineEval.Interpreter.Capture
import InlineEval.Proofs.Interpreter.Capture
import InlineEval.Proofs.Annotation.Printed
import InlineEval.Proofs.Watch.Timers
import InlineEval.Proofs.Watch.Debouncing
import InlineEval.Proofs.Annotation.Written
import InlineEval.Proofs.Source.Lexemes
import InlineEval.Proofs.Source.Brackets
import InlineEval.Proofs.Source.Backslash
import InlineEval.Watch.SharedTracker
import InlineEval.Proofs.Watch.SharedTracker
import InlineEval.Proofs.Text.Encoding
import InlineEval.Proofs.Text.Clip
