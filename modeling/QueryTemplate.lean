import QueryTemplate.Action
import QueryTemplate.Action.Grammar
import QueryTemplate.Action.Literal
import QueryTemplate.Assembly
import QueryTemplate.Error
import QueryTemplate.Json
import QueryTemplate.Json.Error
import QueryTemplate.Number
import QueryTemplate.Number.Binary64
import QueryTemplate.Number.Decimal
import QueryTemplate.Number.Digits
import QueryTemplate.Number.Rounding
import QueryTemplate.Number.Shortest
import QueryTemplate.Options
import QueryTemplate.Options.Document
import QueryTemplate.Parameter
import QueryTemplate.Parameter.Conversion
import QueryTemplate.PathTree
import QueryTemplate.Plain
import QueryTemplate.Proofs.Action.Passage
import QueryTemplate.Proofs.Assembly.Accepted
import QueryTemplate.Proofs.Outcome
import QueryTemplate.Proofs.Parameter.Part
import QueryTemplate.Proofs.Parameter.Pruned
import QueryTemplate.Proofs.PathTree.Cover
import QueryTemplate.Proofs.Render.Agreement
import QueryTemplate.Proofs.Render.Bound
import QueryTemplate.Proofs.Render.Flat
import QueryTemplate.Proofs.Render.Operand
import QueryTemplate.Proofs.Render.Placeholders
import QueryTemplate.Proofs.Render.Pruned
import QueryTemplate.Proofs.Render.Reached
import QueryTemplate.Proofs.Render.Sequence
import QueryTemplate.Proofs.Render.Shape
import QueryTemplate.Proofs.Render.Walk
import QueryTemplate.Proofs.Scope.Declared
import QueryTemplate.Proofs.Source.Passage
import QueryTemplate.Proofs.Source.Scan
import QueryTemplate.Proofs.Text.Reads
import QueryTemplate.Proofs.Value.Reduced
import QueryTemplate.Proofs.Value.Similar
import QueryTemplate.Render.Dynamic
import QueryTemplate.Render.Operand
import QueryTemplate.Render.Rendered
import QueryTemplate.Render.Static
import QueryTemplate.Scope
import QueryTemplate.Source.Item
import QueryTemplate.Syntax
import QueryTemplate.Syntax.Outline
import QueryTemplate.Syntax.Text
import QueryTemplate.Template
import QueryTemplate.Text.Alphabetic
import QueryTemplate.Text.Blank
import QueryTemplate.Text.CharRange
import QueryTemplate.Text.CodePoint
import QueryTemplate.Text.Hidden
import QueryTemplate.Text.Name
import QueryTemplate.Text.Numeric
import QueryTemplate.Text.Quoted
import QueryTemplate.Text.Reader
import QueryTemplate.Text.Utf8
import QueryTemplate.Toml
import QueryTemplate.Toml.Document
import QueryTemplate.Toml.Value
import QueryTemplate.Value
import QueryTemplate.Value.Shown
import QueryTemplate.Proofs.Source.Action
import QueryTemplate.Proofs.Source.Layout
import QueryTemplate.Proofs.Assembly.Grammar
import QueryTemplate.Proofs.Assembly.Step
import QueryTemplate.Proofs.Assembly.Derived
import QueryTemplate.Proofs.Assembly.Nesting
import QueryTemplate.Proofs.Text.Boundary
import QueryTemplate.Proofs.Text.Stop
import QueryTemplate.Proofs.Action.Stop
import QueryTemplate.Proofs.Action.Complete
import QueryTemplate.Proofs.Scope.Fault
import QueryTemplate.Proofs.Scope.Passed
import QueryTemplate.Proofs.Source.Fault
import QueryTemplate.Proofs.Source.Items
import QueryTemplate.Proofs.Assembly.Fault
import QueryTemplate.Proofs.Assembly.WellFormed
import QueryTemplate.Proofs.Bytes.Text
import QueryTemplate.Proofs.Bytes.Action
import QueryTemplate.Proofs.Bytes.Scan
import QueryTemplate.Proofs.Bytes.Parse
import QueryTemplate.Proofs.Render.WellFormed
import QueryTemplate.Proofs.Value.Recast
import QueryTemplate.Proofs.Parameter.Described
import QueryTemplate.Proofs.Render.Recast
import QueryTemplate.Proofs.Render.Json
import QueryTemplate.Proofs.Render.Refusal
import QueryTemplate.Proofs.Value.Blanked
import QueryTemplate.Proofs.Parameter.Blanked
import QueryTemplate.Proofs.Render.Paired
import QueryTemplate.Proofs.Render.Blanked
import QueryTemplate.Proofs.Render.Exposed
import QueryTemplate.Proofs.PathTree.Canonical
import QueryTemplate.Proofs.Parameter.Unneeded
import QueryTemplate.Proofs.Parameter.Normal
import QueryTemplate.Proofs.Render.Policy
import QueryTemplate.Proofs.Syntax.Redirection
import QueryTemplate.Proofs.Render.Bindings
import QueryTemplate.Proofs.Render.Redirection
import QueryTemplate.Proofs.Render.Renaming
import QueryTemplate.Proofs.Render.Writing
import QueryTemplate.Proofs.Render.InList
import QueryTemplate.Proofs.Action.Single
import QueryTemplate.Proofs.Number.Numeral
import QueryTemplate.Proofs.Action.StringLiteral
import QueryTemplate.Proofs.Number.Represented
import QueryTemplate.Proofs.Action.IntegerLiteral
import QueryTemplate.Proofs.Value.Frame
import QueryTemplate.Proofs.Parameter.Framed
import QueryTemplate.Proofs.Parameter.Integer
import QueryTemplate.Proofs.Value.Unwrapped
import QueryTemplate.Proofs.Parameter.Typed
import QueryTemplate.Proofs.Value.Replaced
import QueryTemplate.Proofs.Render.Unwrapped
import QueryTemplate.Proofs.Render.Missing
import QueryTemplate.Proofs.Json.RoundTrip
import QueryTemplate.Proofs.Assembly.Matched
import QueryTemplate.Proofs.Assembly.Chain
import QueryTemplate.Proofs.Text.Advance
import QueryTemplate.Proofs.Action.Advance
import QueryTemplate.Proofs.Text.Settled
import QueryTemplate.Proofs.Action.Settled
import QueryTemplate.Proofs.Action.ReadBack
import QueryTemplate.Proofs.Assembly.Operand
