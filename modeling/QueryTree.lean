import QueryTree.Binary64.Basic
import QueryTree.Binary64.Shortest
import QueryTree.Binary64.Text
import QueryTree.Command
import QueryTree.Compile.Column
import QueryTree.Compile.Compiler
import QueryTree.Compile.Error
import QueryTree.Compile.Filter
import QueryTree.Compile.Join
import QueryTree.Compile.Name
import QueryTree.Compile.OrderBy
import QueryTree.Compile.Query
import QueryTree.Compile.Step
import QueryTree.Configuration.Basic
import QueryTree.Configuration.Store
import QueryTree.Files.Basic
import QueryTree.Files.Tree
import QueryTree.Json.Basic
import QueryTree.Json.Cases
import QueryTree.Json.Decoder
import QueryTree.Json.Fault
import QueryTree.Json.Malformed
import QueryTree.Json.Mismatch
import QueryTree.Json.Printer
import QueryTree.Json.Reader
import QueryTree.Json.Record
import QueryTree.Json.Scan
import QueryTree.Json.Schema
import QueryTree.Main
import QueryTree.Node.Column
import QueryTree.Node.Decode
import QueryTree.Node.Encode
import QueryTree.Node.Filter
import QueryTree.Node.Query
import QueryTree.Node.Schema
import QueryTree.Proofs.Assembly
import QueryTree.Proofs.Binding
import QueryTree.Proofs.Blanking
import QueryTree.Proofs.Brackets
import QueryTree.Proofs.ClauseTracking
import QueryTree.Proofs.Clauses
import QueryTree.Proofs.Collecting
import QueryTree.Proofs.ColumnTracking
import QueryTree.Proofs.Composition
import QueryTree.Proofs.Dialects
import QueryTree.Proofs.Emptiness
import QueryTree.Proofs.Encoding
import QueryTree.Proofs.Entries
import QueryTree.Proofs.Fields
import QueryTree.Proofs.Filling
import QueryTree.Proofs.FilterTracking
import QueryTree.Proofs.Grammar
import QueryTree.Proofs.History
import QueryTree.Proofs.InPlace
import QueryTree.Proofs.Lossless
import QueryTree.Proofs.Meaning
import QueryTree.Proofs.Members
import QueryTree.Proofs.Misuse
import QueryTree.Proofs.Names
import QueryTree.Proofs.Nesting
import QueryTree.Proofs.NormalForm
import QueryTree.Proofs.Outcome
import QueryTree.Proofs.Paging
import QueryTree.Proofs.Paths
import QueryTree.Proofs.Places
import QueryTree.Proofs.Precedence
import QueryTree.Proofs.QueryTracking
import QueryTree.Proofs.Quotation
import QueryTree.Proofs.Reading
import QueryTree.Proofs.Rendering
import QueryTree.Proofs.RoundTrip
import QueryTree.Proofs.Scanning
import QueryTree.Proofs.Segments
import QueryTree.Proofs.SettingUp
import QueryTree.Proofs.Shape
import QueryTree.Proofs.Spelling
import QueryTree.Proofs.Streaming
import QueryTree.Proofs.Surroundings
import QueryTree.Proofs.Symbols
import QueryTree.Proofs.Synonymy
import QueryTree.Proofs.Tidiness
import QueryTree.Proofs.Tracking
import QueryTree.Proofs.Trees
import QueryTree.Proofs.Turns
import QueryTree.Proofs.Unquoting
import QueryTree.Proofs.Validation
import QueryTree.Proofs.Variants
import QueryTree.Proofs.Violations
import QueryTree.Proofs.Wording
import QueryTree.Sql.Dialect
import QueryTree.Sql.Fragment
import QueryTree.Sql.Keyword
import QueryTree.Sql.Layout
import QueryTree.Sql.Select
import QueryTree.Sql.Statement
import QueryTree.Sql.Template
import QueryTree.Sql.Token
import QueryTree.Text.Character
import QueryTree.Text.Shown
import QueryTree.Text.Utf8
