import SchemaInference.CommandLine.Arguments
import SchemaInference.CommandLine.Run
import SchemaInference.Config.Basic
import SchemaInference.Config.Format
import SchemaInference.Config.JsonFormat
import SchemaInference.Config.Reader
import SchemaInference.Config.Setting
import SchemaInference.Config.YamlFormat
import SchemaInference.Dict
import SchemaInference.Document
import SchemaInference.Domain.Bidirectional
import SchemaInference.Domain.Disallowed
import SchemaInference.Domain.Joiner
import SchemaInference.Domain.Label
import SchemaInference.Domain.Mapping
import SchemaInference.Domain.Name
import SchemaInference.Domain.Punycode
import SchemaInference.Failure
import SchemaInference.Inference.Assembly
import SchemaInference.Inference.Builder
import SchemaInference.Inference.Merge
import SchemaInference.Inference.Unions
import SchemaInference.Inference.Validation
import SchemaInference.Json.Printer
import SchemaInference.Json.Record
import SchemaInference.Json.Token
import SchemaInference.Json.Tree
import SchemaInference.Json.Value
import SchemaInference.LogLevel
import SchemaInference.Main
import SchemaInference.Number.Basic
import SchemaInference.Number.Binary64
import SchemaInference.Number.Literal
import SchemaInference.Number.Shortest
import SchemaInference.Path
import SchemaInference.Proofs.Config
import SchemaInference.Proofs.Dict
import SchemaInference.Proofs.Document
import SchemaInference.Proofs.Inference.Assembled
import SchemaInference.Proofs.Inference.Calls
import SchemaInference.Proofs.Inference.Ceiling
import SchemaInference.Proofs.Inference.Change
import SchemaInference.Proofs.Inference.Collected
import SchemaInference.Proofs.Inference.Completeness
import SchemaInference.Proofs.Inference.Depth
import SchemaInference.Proofs.Inference.Digest
import SchemaInference.Proofs.Inference.Exact
import SchemaInference.Proofs.Inference.Extent
import SchemaInference.Proofs.Inference.Growth
import SchemaInference.Proofs.Inference.Integrity
import SchemaInference.Proofs.Inference.Located
import SchemaInference.Proofs.Inference.Recorded
import SchemaInference.Proofs.Inference.Reordered
import SchemaInference.Proofs.Inference.Requests
import SchemaInference.Proofs.Inference.Sampled
import SchemaInference.Proofs.Inference.Shape
import SchemaInference.Proofs.Inference.Steady
import SchemaInference.Proofs.Inference.Traced
import SchemaInference.Proofs.Inference.WellFormed
import SchemaInference.Proofs.Json.Canonical
import SchemaInference.Proofs.Json.Change
import SchemaInference.Proofs.Json.Drawn
import SchemaInference.Proofs.Json.Form
import SchemaInference.Proofs.Json.Merged
import SchemaInference.Proofs.Json.Nesting
import SchemaInference.Proofs.Json.Occurring
import SchemaInference.Proofs.Json.Part
import SchemaInference.Proofs.Json.Precedence
import SchemaInference.Proofs.Json.Reading
import SchemaInference.Proofs.Json.Reordered
import SchemaInference.Proofs.Json.Shape
import SchemaInference.Proofs.Json.Spelling
import SchemaInference.Proofs.Json.Steady
import SchemaInference.Proofs.Number
import SchemaInference.Proofs.Path
import SchemaInference.Proofs.Resolved
import SchemaInference.Proofs.Scalar
import SchemaInference.Proofs.Schema.Address
import SchemaInference.Proofs.Schema.Checked
import SchemaInference.Proofs.Schema.Consistent
import SchemaInference.Proofs.Schema.Continuation
import SchemaInference.Proofs.Schema.Definition
import SchemaInference.Proofs.Schema.Form
import SchemaInference.Proofs.Schema.Hook
import SchemaInference.Proofs.Schema.Reference
import SchemaInference.Proofs.Schema.Walk
import SchemaInference.Proofs.Service.Attempt
import SchemaInference.Proofs.Service.Child
import SchemaInference.Proofs.Service.Drift
import SchemaInference.Proofs.Service.Fitting
import SchemaInference.Proofs.Service.Log
import SchemaInference.Proofs.Service.Order
import SchemaInference.Proofs.Service.Punctual
import SchemaInference.Proofs.Service.Refinement
import SchemaInference.Proofs.Service.Session
import SchemaInference.Proofs.Service.Strides
import SchemaInference.Proofs.Service.Traffic
import SchemaInference.Proofs.Service.Upkeep
import SchemaInference.Proofs.Text
import SchemaInference.Record
import SchemaInference.Resolution
import SchemaInference.Scalar
import SchemaInference.Schema.Basic
import SchemaInference.Schema.Definition
import SchemaInference.Schema.Field
import SchemaInference.Schema.Form
import SchemaInference.Schema.Options
import SchemaInference.Schema.TypeRef
import SchemaInference.Service.Basic
import SchemaInference.Service.Generation
import SchemaInference.Service.Refresh
import SchemaInference.Text.Blank
import SchemaInference.Text.Cut
import SchemaInference.Text.Numeral
import SchemaInference.Unicode.CombiningClass
import SchemaInference.Unicode.Composite
import SchemaInference.Unicode.Direction
import SchemaInference.Unicode.Joining
import SchemaInference.Unicode.Mark
import SchemaInference.Unicode.Normal
import SchemaInference.Unicode.Replacement
import SchemaInference.Unicode.Table
import SchemaInference.Unicode.Uppercase
import SchemaInference.Url.Basic
import SchemaInference.Url.Fault
import SchemaInference.Url.Host
import SchemaInference.Yaml.Block
import SchemaInference.Yaml.Character
import SchemaInference.Yaml.Core
import SchemaInference.Yaml.Directive
import SchemaInference.Yaml.Document
import SchemaInference.Yaml.Fold
import SchemaInference.Yaml.Node
import SchemaInference.Yaml.Plain
import SchemaInference.Yaml.Position
import SchemaInference.Yaml.Quoted
import SchemaInference.Yaml.Scan
import SchemaInference.Yaml.Tag
import SchemaInference.Yaml.Token
