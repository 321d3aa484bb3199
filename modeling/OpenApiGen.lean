import OpenApiGen.Json.Value
import OpenApiGen.Decimal.Shortest
import OpenApiGen.Json.Print
import OpenApiGen.Text.Ranges
import OpenApiGen.Text.Printable
import OpenApiGen.Text.GraphemeExtend
import OpenApiGen.Text.Debug
import OpenApiGen.Decode.Error
import OpenApiGen.Json.Scan
import OpenApiGen.Json.Read
import OpenApiGen.Decode.Value
import OpenApiGen.Schema.Node
import OpenApiGen.Schema.Category
import OpenApiGen.Error
import OpenApiGen.Component.Registry
import OpenApiGen.Schema.Convert
import OpenApiGen.Route.Template
import OpenApiGen.Route.Operation
import OpenApiGen.Route.Assemble
import OpenApiGen.Manifest.Document
import OpenApiGen.Manifest.FromJson
import OpenApiGen.Decode.Text
import OpenApiGen.Manifest.FromText
import OpenApiGen.Manifest.Lower
import OpenApiGen.Pattern.Report
import OpenApiGen.Pattern.Syntax
import OpenApiGen.Text.Blank
import OpenApiGen.Pattern.Parse
import OpenApiGen.Unicode.Table
import OpenApiGen.Unicode.Names
import OpenApiGen.Unicode.Category
import OpenApiGen.Unicode.Script
import OpenApiGen.Unicode.Binary
import OpenApiGen.Unicode.Age
import OpenApiGen.Unicode.Break
import OpenApiGen.Unicode.CaseFold
import OpenApiGen.Pattern.Class
import OpenApiGen.Pattern.Expr
import OpenApiGen.Pattern.Property
import OpenApiGen.Pattern.Translate
import OpenApiGen.Pattern.Utf8
import OpenApiGen.Pattern.Automaton
import OpenApiGen.Pattern.Check
import OpenApiGen.Docs.Template
import OpenApiGen.Docs.State
import OpenApiGen.Cli.Glob
import OpenApiGen.Cli.Store
import OpenApiGen.Cli.Expand
import OpenApiGen.Cli.Grammar
import OpenApiGen.Cli.Similar
import OpenApiGen.Cli.Request
import OpenApiGen.Cli.Parse
import OpenApiGen.Decimal.Parse
import OpenApiGen.Jq.Value
import OpenApiGen.Jq.Error
import OpenApiGen.Jq.Arith
import OpenApiGen.Jq.Access
import OpenApiGen.Jq.Syntax
import OpenApiGen.Jq.Lex
import OpenApiGen.Jq.Parse
import OpenApiGen.Jq.Stream
import OpenApiGen.Jq.Filter
import OpenApiGen.Jq.Compile
import OpenApiGen.Jq.Json
import OpenApiGen.Jq.Format
import OpenApiGen.Jq.Math
import OpenApiGen.Jq.Regex.Expr
import OpenApiGen.Jq.Regex.Parse
import OpenApiGen.Jq.Regex.Match
import OpenApiGen.Jq.TextSearch
import OpenApiGen.Calendar.Date
import OpenApiGen.Calendar.Directive
import OpenApiGen.Calendar.Write
import OpenApiGen.Calendar.Read
import OpenApiGen.Jq.Coerce
import OpenApiGen.Jq.Time
import OpenApiGen.Jq.Builtin
import OpenApiGen.Jq.Eval
import OpenApiGen.Jq.Library
import OpenApiGen.Jq.Run
import OpenApiGen.Cli.Run
import OpenApiGen.Main
import OpenApiGen.Proofs.Component.Registry
import OpenApiGen.Proofs.Json.Fields
import OpenApiGen.Proofs.Schema.Convert
import OpenApiGen.Proofs.Route.Assemble
import OpenApiGen.Proofs.Route.PathTable
import OpenApiGen.Proofs.Docs.Registration
import OpenApiGen.Proofs.Docs.Reachable
import OpenApiGen.Proofs.Json.References
import OpenApiGen.Proofs.Schema.Closure
import OpenApiGen.Proofs.Docs.Closure
import OpenApiGen.Proofs.Schema.Inline
import OpenApiGen.Proofs.Schema.Hoisting
import OpenApiGen.Proofs.Schema.Numbering
import OpenApiGen.Proofs.Docs.Template
import OpenApiGen.Proofs.Schema.Termination
import OpenApiGen.Proofs.Schema.Notes
import OpenApiGen.Proofs.Route.Parameters
import OpenApiGen.Proofs.Manifest.Lowering
import OpenApiGen.Proofs.Schema.Rename
import OpenApiGen.Proofs.Manifest.Renaming
import OpenApiGen.Proofs.Docs.Identity
import OpenApiGen.Proofs.Route.Template
import OpenApiGen.Proofs.Schema.Overflow
