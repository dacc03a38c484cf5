import SchemaPress.Fields
import SchemaPress.Decimal.Format
import SchemaPress.Decimal.Reader
import SchemaPress.Json.Text
import SchemaPress.Yaml.Document
import SchemaPress.Yaml.Json
import SchemaPress.Model.Basic
import SchemaPress.Language
import SchemaPress.Text.Blank
import SchemaPress.Json.Numeral
import SchemaPress.Template.Basic
import SchemaPress.Template.Tag
import SchemaPress.Text.Quoted
import SchemaPress.Path
import SchemaPress.Model.Document
import SchemaPress.Template.Rendering
import SchemaPress.Template.Nesting
import SchemaPress.Disk.Tree
import SchemaPress.Generation.Options
import SchemaPress.CommandLine.Run
import SchemaPress.CommandLine.Arguments
import SchemaPress.Main
import SchemaPress.Proofs.Fields
import SchemaPress.Proofs.Yaml.Shape
import SchemaPress.Proofs.Schema.RoundTrip
import SchemaPress.Proofs.Model.RoundTrip
import SchemaPress.Proofs.Template.Element
import SchemaPress.Proofs.Generation.FileName
import SchemaPress.Proofs.Generation.Output
import SchemaPress.Proofs.Generation.Pipeline
import SchemaPress.Proofs.Generation.TypeScript
import SchemaPress.Proofs.Generation.Java
import SchemaPress.Proofs.Disk.Walk
import SchemaPress.Proofs.Disk.Containment
import SchemaPress.Proofs.CommandLine.Containment
import SchemaPress.Proofs.Yaml.Declaration
import SchemaPress.Proofs.Model.Rejection
import SchemaPress.Proofs.Schema.Declaration
import SchemaPress.Proofs.Model.Declaration
import SchemaPress.Proofs.Disk.Written
import SchemaPress.Proofs.CommandLine.Effect
import SchemaPress.Proofs.CommandLine.PerModel
import SchemaPress.Proofs.Generation.Decomposition
import SchemaPress.Proofs.CommandLine.Regeneration
import SchemaPress.Proofs.CommandLine.BothOrders
import SchemaPress.Proofs.Generation.Failure
import SchemaPress.Proofs.Yaml.Tags
import SchemaPress.Proofs.Model.Relevance
import SchemaPress.Proofs.Generation.Data
import SchemaPress.Proofs.Template.Form
import SchemaPress.Proofs.Generation.Agreement
import SchemaPress.Proofs.Shape.Reference
import SchemaPress.Proofs.Schema.Unwrapping
import SchemaPress.Proofs.TypeExpression.ClosedForm
import SchemaPress.Proofs.TypeExpression.Relevance
import SchemaPress.Proofs.TypeExpression.Unambiguous
import SchemaPress.Proofs.Path.Joining
import SchemaPress.Proofs.Generation.Location
