import DenseSketch.Pipeline
import DenseSketch.Customization
import DenseSketch.Model.File
import DenseSketch.CommandLine.Compile
import DenseSketch.CommandLine.Generate
import DenseSketch.Inference.Reference
import DenseSketch.Inference.Argmax
import DenseSketch.Message.Parse
import DenseSketch.Model.Description
import DenseSketch.Model.Extraction
import DenseSketch.Model.Compatibility
import DenseSketch.Main
import DenseSketch.Document.Mapping
import DenseSketch.Inference.GivenWindow
import DenseSketch.Proofs.ForwardPass.Refinement
import DenseSketch.Proofs.Pipeline.Outcome
import DenseSketch.Proofs.Project.ForwardPass
import DenseSketch.Proofs.Number.Shortest
import DenseSketch.Proofs.Document.EscapedText
import DenseSketch.Proofs.Document.Numerals
import DenseSketch.Proofs.Document.RoundTrip
import DenseSketch.Proofs.Document.Sorting
import DenseSketch.Proofs.Snapshot.RoundTrip
import DenseSketch.Proofs.Document.Ascii
import DenseSketch.Proofs.Message.Fields
import DenseSketch.Proofs.Message.Classification
import DenseSketch.Proofs.Message.Regression
import DenseSketch.Proofs.Message.Lengths
import DenseSketch.Proofs.Inference.Sigmoid
import DenseSketch.Proofs.Project.Capacity
import DenseSketch.Proofs.Inference.GivenWindow
import DenseSketch.Proofs.Model.Extraction
import DenseSketch.Proofs.Pipeline.History
import DenseSketch.Proofs.Pipeline.Refusals
import DenseSketch.Proofs.Model.Compatibility
import DenseSketch.Proofs.Model.Sequence
import DenseSketch.Proofs.CommandLine.Failure
import DenseSketch.Proofs.Message.Winner
import DenseSketch.Proofs.Model.Acceptance
import DenseSketch.Proofs.Pipeline.Contexts
import DenseSketch.Proofs.Project.LayerNames
import DenseSketch.Proofs.Message.Canonical
import DenseSketch.Proofs.Message.Legality
import DenseSketch.Proofs.Report.Confidence
import DenseSketch.Proofs.Table.LiteralForm
import DenseSketch.Proofs.Report.Duty
import DenseSketch.Proofs.Sampling.Window
import DenseSketch.Proofs.Sampling.Spacing
import DenseSketch.Proofs.Table.Layout
import DenseSketch.Proofs.Model.Checks
import DenseSketch.Proofs.Inference.FrameSizes
import DenseSketch.Proofs.Network.Chain
import DenseSketch.Proofs.Pipeline.PlanFields
import DenseSketch.Proofs.Project.Labels
import DenseSketch.Proofs.Project.DeviceName
import DenseSketch.Proofs.Snapshot.Canonical
import DenseSketch.Proofs.CommandLine.Snapshots
import DenseSketch.Proofs.Inference.FlatWeights
import DenseSketch.Proofs.Project.Intervals
import DenseSketch.Proofs.Project.Pins
import DenseSketch.Proofs.Project.Description
import DenseSketch.Proofs.Inference.FirstMaximum
