import BuildingWorkflow.Element.Basic
import BuildingWorkflow.Element.Classified
import BuildingWorkflow.Element.Lookup
import BuildingWorkflow.Element.Measure
import BuildingWorkflow.Element.Record
import BuildingWorkflow.Fault
import BuildingWorkflow.Fault.Record
import BuildingWorkflow.Graph.Cycle
import BuildingWorkflow.Graph.Draft
import BuildingWorkflow.Graph.Plan
import BuildingWorkflow.Graph.Validation
import BuildingWorkflow.Ifc.Editing
import BuildingWorkflow.Ifc.File
import BuildingWorkflow.Ifc.Loading
import BuildingWorkflow.Ifc.Worksheet
import BuildingWorkflow.Ifc.Writer
import BuildingWorkflow.Model.Basic
import BuildingWorkflow.Model.Registry
import BuildingWorkflow.Node.Analysis
import BuildingWorkflow.Node.Choices
import BuildingWorkflow.Node.Classification
import BuildingWorkflow.Node.Evaluate
import BuildingWorkflow.Node.Export
import BuildingWorkflow.Node.Filter
import BuildingWorkflow.Node.Inputs
import BuildingWorkflow.Node.Kind
import BuildingWorkflow.Node.Observation
import BuildingWorkflow.Node.Options
import BuildingWorkflow.Node.Parameter
import BuildingWorkflow.Node.Property
import BuildingWorkflow.Node.Quantity
import BuildingWorkflow.Node.Record
import BuildingWorkflow.Node.Result
import BuildingWorkflow.Node.Selection
import BuildingWorkflow.Node.Spatial
import BuildingWorkflow.Number.Binary64
import BuildingWorkflow.Number.Reading
import BuildingWorkflow.Number.Rounding
import BuildingWorkflow.Number.Shortest
import BuildingWorkflow.Options.Bag
import BuildingWorkflow.Options.Fault
import BuildingWorkflow.Options.Scalar
import BuildingWorkflow.OrderedMap
import BuildingWorkflow.Outcome
import BuildingWorkflow.Proofs.Graph.Acceptance
import BuildingWorkflow.Proofs.Graph.Acyclic
import BuildingWorkflow.Proofs.Graph.Branch
import BuildingWorkflow.Proofs.Graph.Counting
import BuildingWorkflow.Proofs.Graph.Cycle
import BuildingWorkflow.Proofs.Graph.Defects
import BuildingWorkflow.Proofs.Graph.Feeding
import BuildingWorkflow.Proofs.Graph.Inlets
import BuildingWorkflow.Proofs.Graph.Issues
import BuildingWorkflow.Proofs.Graph.Least
import BuildingWorkflow.Proofs.Graph.Order
import BuildingWorkflow.Proofs.Graph.Validation
import BuildingWorkflow.Proofs.Node.Alike
import BuildingWorkflow.Proofs.Node.Valued
import BuildingWorkflow.Proofs.Options.Explained
import BuildingWorkflow.Proofs.Options.Reading
import BuildingWorkflow.Proofs.Options.Rereading
import BuildingWorkflow.Proofs.Options.Spelling
import BuildingWorkflow.Proofs.Run.Cancellation
import BuildingWorkflow.Proofs.Run.Confluence
import BuildingWorkflow.Proofs.Run.Failures
import BuildingWorkflow.Proofs.Run.InOrder
import BuildingWorkflow.Proofs.Run.Isolation
import BuildingWorkflow.Proofs.Run.Justified
import BuildingWorkflow.Proofs.Run.Progress
import BuildingWorkflow.Proofs.Run.Safety
import BuildingWorkflow.Proofs.Run.Schedule
import BuildingWorkflow.Proofs.Run.Slots
import BuildingWorkflow.Proofs.Run.Sound
import BuildingWorkflow.Proofs.Run.Step
import BuildingWorkflow.Proofs.Text.Names
import BuildingWorkflow.Random.Digest
import BuildingWorkflow.Random.Source
import BuildingWorkflow.Run.Report
import BuildingWorkflow.Run.Schedule
import BuildingWorkflow.Run.State
import BuildingWorkflow.Run.Store
import BuildingWorkflow.Run.Turn
import BuildingWorkflow.Service.Disk
import BuildingWorkflow.Service.Import
import BuildingWorkflow.Service.Rest
import BuildingWorkflow.Service.Tools
import BuildingWorkflow.Settings
import BuildingWorkflow.Text.Base64
import BuildingWorkflow.Text.Blank
import BuildingWorkflow.Text.Case
import BuildingWorkflow.Text.CaseTable
import BuildingWorkflow.Text.Csv
import BuildingWorkflow.Text.Digit
import BuildingWorkflow.Text.Parts
import BuildingWorkflow.Text.Path
import BuildingWorkflow.Text.PrintableTable
import BuildingWorkflow.Text.Quoted
import BuildingWorkflow.Text.Sorted
import BuildingWorkflow.Value.Basic
import BuildingWorkflow.Value.Equality
import BuildingWorkflow.Value.Json
import BuildingWorkflow.Value.Number
import BuildingWorkflow.Value.Text
import BuildingWorkflow.Proofs.Graph.Reordering
import BuildingWorkflow.Proofs.Run.Reordering
import BuildingWorkflow.Proofs.Graph.Rerouting
import BuildingWorkflow.Proofs.Run.Rerouting
import BuildingWorkflow.Proofs.Node.Identity
import BuildingWorkflow.Proofs.Run.Provenance
import BuildingWorkflow.Proofs.Element.Sets
import BuildingWorkflow.Proofs.Element.Frame
import BuildingWorkflow.Proofs.Node.Property
import BuildingWorkflow.Proofs.Ifc.Loading
import BuildingWorkflow.Proofs.Ifc.Editing
import BuildingWorkflow.Proofs.Ifc.Unedited
import BuildingWorkflow.Proofs.Ifc.Places
import BuildingWorkflow.Proofs.Ifc.Writing
import BuildingWorkflow.Proofs.Node.Edited
import BuildingWorkflow.Proofs.Ifc.Edited
import BuildingWorkflow.Proofs.Run.Requests
import BuildingWorkflow.Proofs.Node.Removal
import BuildingWorkflow.Proofs.Model.Registry
import BuildingWorkflow.Proofs.Number.Numeral
import BuildingWorkflow.Proofs.Number.Scaling
import BuildingWorkflow.Proofs.Text.Csv
import BuildingWorkflow.Proofs.Text.Parts
import BuildingWorkflow.Proofs.Number.Shortest
import BuildingWorkflow.Proofs.Number.DecimalForm
import BuildingWorkflow.Proofs.Value.Equality
import BuildingWorkflow.Proofs.Value.JsonReading
import BuildingWorkflow.Proofs.Value.JsonTokens
import BuildingWorkflow.Proofs.Value.Json
import BuildingWorkflow.Proofs.Node.Export
import BuildingWorkflow.Proofs.Service.Agreement
import BuildingWorkflow.Proofs.Graph.Fields
import BuildingWorkflow.Proofs.Graph.Rendering
import BuildingWorkflow.Proofs.Number.Overflow
import BuildingWorkflow.Proofs.Node.Overflow
import BuildingWorkflow.Proofs.Node.Unexpected
import BuildingWorkflow.Proofs.Node.Escape
import BuildingWorkflow.Proofs.Model.Holdings
import BuildingWorkflow.Proofs.Node.Supply
import BuildingWorkflow.Proofs.Node.Takeoff
import BuildingWorkflow.Proofs.Node.Classification
import BuildingWorkflow.Proofs.Node.Columns
import BuildingWorkflow.Proofs.Text.Case
import BuildingWorkflow.Proofs.Number.Spelling
import BuildingWorkflow.Proofs.Node.Comparison
import BuildingWorkflow.Proofs.Node.Partition
import BuildingWorkflow.Proofs.Number.Rounded
import BuildingWorkflow.Proofs.Number.Whole
import BuildingWorkflow.Proofs.Number.WholeText
import BuildingWorkflow.Proofs.Node.WholeNumbers
import BuildingWorkflow.Proofs.Number.Tenths
import BuildingWorkflow.Proofs.Node.Share
import BuildingWorkflow.Proofs.Node.Elementwise
import BuildingWorkflow.Proofs.Node.Overwriting
import BuildingWorkflow.Proofs.Node.Merging
import BuildingWorkflow.Proofs.Number.Nearest
import BuildingWorkflow.Proofs.Number.Grammar
import BuildingWorkflow.Proofs.Node.Parameter
import BuildingWorkflow.Proofs.Graph.Gathering
import BuildingWorkflow.Proofs.Text.Tally
import BuildingWorkflow.Proofs.Element.Identifier
import BuildingWorkflow.Proofs.Ifc.Promotion
import BuildingWorkflow.Proofs.Ifc.Elements
import BuildingWorkflow.Proofs.Ifc.Targets
import BuildingWorkflow.Proofs.Ifc.Worksheet
import BuildingWorkflow.Proofs.Node.Coercion
import BuildingWorkflow.Proofs.Node.PropertyFilter
import BuildingWorkflow.Proofs.Graph.DepthFirst
import BuildingWorkflow.Proofs.Node.Distance
import BuildingWorkflow.Proofs.Service.Disk
import BuildingWorkflow.Proofs.Service.Import
import BuildingWorkflow.Proofs.Service.Upload
import BuildingWorkflow.Proofs.Number.Places
import BuildingWorkflow.Proofs.Random.Source
import BuildingWorkflow.Proofs.Node.Clashes
