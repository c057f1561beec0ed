import QueryTree.Bytes.Read
import QueryTree.Bytes.Write
import QueryTree.Double
import QueryTree.Equality
import QueryTree.Expr.Basic
import QueryTree.Expr.Build
import QueryTree.Expr.Datum
import QueryTree.Expr.Layout
import QueryTree.Hint
import QueryTree.Json.Decode
import QueryTree.Json.Double
import QueryTree.Json.Encode
import QueryTree.Json.Value
import QueryTree.Layout
import QueryTree.Log.Config
import QueryTree.Log.Directive
import QueryTree.Log.File
import QueryTree.Log.Filter
import QueryTree.Log.Notice
import QueryTree.Log.Noticed
import QueryTree.Log.Session
import QueryTree.Log.Severity
import QueryTree.Name
import QueryTree.NodeError
import QueryTree.NodeType
import QueryTree.Pattern.CharClass
import QueryTree.Pattern.Escape
import QueryTree.Pattern.Flags
import QueryTree.Pattern.Parts
import QueryTree.Pattern.Reading
import QueryTree.Script.Builder
import QueryTree.Script.Run
import QueryTree.Text.Alphanumeric
import QueryTree.Text.Blank
import QueryTree.Text.Invisible
import QueryTree.Text.Offset
import QueryTree.Text.Quoted
import QueryTree.Text.Ranges
import QueryTree.Version
import QueryTree.Visit.Adapter
import QueryTree.Visit.Collector
import QueryTree.Visit.Node
import QueryTree.Visit.Recorder
import QueryTree.Visit.Report
import QueryTree.Visit.Root
import QueryTree.Visit.Visitor
import QueryTree.Proofs.Bytes.Datum
import QueryTree.Proofs.Node.Inside
import QueryTree.Proofs.Node.Fit
import QueryTree.Proofs.Node.Regain
import QueryTree.Proofs.Bytes.Node
import QueryTree.Proofs.Bytes.Refusal
import QueryTree.Proofs.Bytes.Composition
import QueryTree.Proofs.Bytes.Truncation
import QueryTree.Proofs.Bytes.Nesting
import QueryTree.Proofs.Bytes.Weight
import QueryTree.Proofs.Bytes.Reach
import QueryTree.Proofs.Bytes.Injective
import QueryTree.Proofs.Visit.Outline
import QueryTree.Proofs.Visit.Script
import QueryTree.Proofs.Visit.Turns
import QueryTree.Proofs.Visit.Replay
import QueryTree.Proofs.Visit.Interruption
import QueryTree.Proofs.Visit.Traversal
import QueryTree.Proofs.Visit.Handover
import QueryTree.Proofs.Visit.Collection
import QueryTree.Proofs.Visit.Defaults
import QueryTree.Proofs.Visit.Selective
import QueryTree.Proofs.Visit.Company
import QueryTree.Proofs.Visit.Outside
import QueryTree.Proofs.Visit.Opacity
import QueryTree.Proofs.Visit.Blocks
import QueryTree.Proofs.Visit.Statements
import QueryTree.Proofs.Visit.Pruning
import QueryTree.Proofs.Visit.Notices
import QueryTree.Proofs.Json.Reading
import QueryTree.Proofs.Json.Spelling
import QueryTree.Proofs.Json.Datum
import QueryTree.Proofs.Json.Node
import QueryTree.Proofs.Json.Double
import QueryTree.Proofs.Json.Written
import QueryTree.Proofs.Json.Roundtrip
import QueryTree.Proofs.Script.Builder
import QueryTree.Proofs.Script.Made
import QueryTree.Proofs.Bytes.Equality
import QueryTree.Proofs.Json.Change
import QueryTree.Proofs.Json.Fault
import QueryTree.Proofs.Visit.Attachment
import QueryTree.Proofs.Text.Trim
import QueryTree.Proofs.Text.Cut
import QueryTree.Proofs.Text.Offset
import QueryTree.Proofs.Text.Ranges
import QueryTree.Proofs.Text.Quoted
import QueryTree.Proofs.Hint.Grammar
import QueryTree.Proofs.Hint.Rendering
import QueryTree.Proofs.Hint.Closing
import QueryTree.Proofs.Name.Dotted
import QueryTree.Proofs.Name.FullName
import QueryTree.Proofs.Pattern.Reading
import QueryTree.Proofs.Pattern.Height
import QueryTree.Proofs.Pattern.Unnested
import QueryTree.Proofs.Log.Directive
import QueryTree.Proofs.Log.Filter
import QueryTree.Proofs.Log.File
import QueryTree.Proofs.Log.Session
import QueryTree.Proofs.Log.Noticed
