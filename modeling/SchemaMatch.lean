import SchemaMatch.Assertion
import SchemaMatch.Main
import SchemaMatch.Proofs.Check.CanonicalForm
import SchemaMatch.Proofs.Check.Date
import SchemaMatch.Proofs.Check.EqualData
import SchemaMatch.Proofs.Check.FieldOrder
import SchemaMatch.Proofs.Check.IndexedObject
import SchemaMatch.Proofs.Check.Log
import SchemaMatch.Proofs.Check.Marker
import SchemaMatch.Proofs.Check.Permission
import SchemaMatch.Proofs.Check.PlainData
import SchemaMatch.Proofs.Check.Relocation
import SchemaMatch.Proofs.Check.SelfMatch
import SchemaMatch.Proofs.Check.Unobserved
import SchemaMatch.Proofs.CommandLine.Stages
import SchemaMatch.Proofs.Schema.ForeignField
import SchemaMatch.Proofs.Schema.Shape
import SchemaMatch.Proofs.Script.Conversion
import SchemaMatch.Proofs.Script.Receiver
import SchemaMatch.Proofs.Text.Spacing
import SchemaMatch.Proofs.Timestamp.Notation
import SchemaMatch.Proofs.Value.Insertion
import SchemaMatch.Proofs.Value.Instance
import SchemaMatch.Proofs.Value.Rendering
import SchemaMatch.Proofs.Value.Wrapper
import SchemaMatch.Script.Function
import SchemaMatch.Value.Object
