import ParamSchema.Main
import ParamSchema.Proofs.Check.Array
import ParamSchema.Proofs.Check.Conformance
import ParamSchema.Proofs.Check.Dependence
import ParamSchema.Proofs.Check.Idempotence
import ParamSchema.Proofs.Check.KeyOrder
import ParamSchema.Proofs.Check.Relaxation
import ParamSchema.Proofs.Check.Spelling
import ParamSchema.Proofs.Command.Description
import ParamSchema.Proofs.Command.Outcome
import ParamSchema.Proofs.Context
import ParamSchema.Proofs.Registry
import ParamSchema.Proofs.Request.Replay
import ParamSchema.Proofs.Route.Doc
import ParamSchema.Proofs.Route.Loader
import ParamSchema.Proofs.RouteTable.Directory
import ParamSchema.Proofs.Rule.Builtin
import ParamSchema.Proofs.Schema.Decoding
import ParamSchema.Proofs.Schema.Documentation
import ParamSchema.Proofs.Schema.Location
import ParamSchema.Proofs.Schema.WellFormed
import ParamSchema.Proofs.Check.Object
import ParamSchema.Proofs.Schema.Depth
import ParamSchema.Proofs.Schema.Disabled
import ParamSchema.Proofs.Schema.Layout
import ParamSchema.Proofs.Schema.Positional
import ParamSchema.Proofs.RouteTable.History
import ParamSchema.Proofs.Double
import ParamSchema.Proofs.Double.Nearest
import ParamSchema.Proofs.Double.Scale
import ParamSchema.Proofs.FieldType.Integer
import ParamSchema.Proofs.Pattern
import ParamSchema.Proofs.Pattern.Simplify
import ParamSchema.Proofs.Rule.Numeric
import ParamSchema.Proofs.Rule.Equality
import ParamSchema.Proofs.Rule.Length
import ParamSchema.Proofs.FieldType.Number
import ParamSchema.Proofs.Value.Reader
import ParamSchema.Proofs.Rule.Address
