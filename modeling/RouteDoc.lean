import RouteDoc.Check.Structure
import RouteDoc.CommandLine.Run
import RouteDoc.Component.Decomposition
import RouteDoc.Document.Assembly
import RouteDoc.Document.Conversion
import RouteDoc.Main
import RouteDoc.Proofs.Check.Dangling
import RouteDoc.Proofs.Component.Inlining
import RouteDoc.Proofs.Component.Ownership
import RouteDoc.Proofs.Component.Shallow
import RouteDoc.Proofs.Document.Checked
import RouteDoc.Proofs.Document.Definitions
import RouteDoc.Proofs.Document.Order
import RouteDoc.Proofs.Document.Separation
import RouteDoc.Proofs.Document.Strictness
import RouteDoc.Proofs.Document.Trial
import RouteDoc.Proofs.Document.Validity
import RouteDoc.Proofs.Json.Pointer
import RouteDoc.Proofs.Schema.PatternFree
import RouteDoc.Proofs.Schema.Bounds
import RouteDoc.Proofs.Schema.Place
import RouteDoc.Proofs.Check.Location
import RouteDoc.Proofs.Check.Slots
import RouteDoc.Proofs.Schema.Relaxation
import RouteDoc.Reading.Document
import RouteDoc.Schema.Compilation
import RouteDoc.Schema.SchemaObject
import RouteDoc.Yaml.Printer
import RouteDoc.Proofs.Document.Growth
import RouteDoc.Proofs.Reading.Faithful
import RouteDoc.Proofs.Reading.Record
import RouteDoc.Proofs.Reading.Model
import RouteDoc.Proofs.Schema.Narrowing
import RouteDoc.Proofs.Schema.Position
import RouteDoc.Proofs.Schema.Visit
import RouteDoc.Proofs.Schema.NormalForm
import RouteDoc.Proofs.Schema.LoweringFrame
import RouteDoc.Proofs.Schema.FoldingLaw
import RouteDoc.Proofs.Schema.KeyOrder
import RouteDoc.Proofs.Document.Containment
import RouteDoc.Proofs.Document.Findings
import RouteDoc.Proofs.Document.Responses
import RouteDoc.Proofs.Check.Occurrence
import RouteDoc.Proofs.Operation.Declaration
import RouteDoc.Proofs.Schema.Alternatives
import RouteDoc.Proofs.Check.PathTemplate
import RouteDoc.Proofs.Document.Naming
