import N1qlConnector.Cluster.Exchange
import N1qlConnector.Http.Server
import N1qlConnector.Main
import N1qlConnector.Proofs.Entries
import N1qlConnector.Proofs.Json.Values
import N1qlConnector.Proofs.Json.Numbers
import N1qlConnector.Proofs.Json.Text
import N1qlConnector.Proofs.Statement.Lexeme
import N1qlConnector.Proofs.Statement.Outline
import N1qlConnector.Proofs.Nesting
import N1qlConnector.Proofs.Statement.Spelling
import N1qlConnector.Proofs.Statement.ReadBack
import N1qlConnector.Proofs.Statement.FreshName
import N1qlConnector.Proofs.Compile.Described
import N1qlConnector.Proofs.Compile.Filter
import N1qlConnector.Proofs.Compile.Meaning
import N1qlConnector.Proofs.Compile.Rows
import N1qlConnector.Proofs.Compile.Requests
import N1qlConnector.Proofs.Compile.Reached
import N1qlConnector.Proofs.Statement.Scoping
import N1qlConnector.Proofs.Compile.Capture
import N1qlConnector.Proofs.Compile.Totals
import N1qlConnector.Proofs.Compile.Support
import N1qlConnector.Proofs.Compile.Evaluation
import N1qlConnector.Proofs.Compile.Paging
import N1qlConnector.Proofs.Compile.Redaction
import N1qlConnector.Proofs.Statement.Uncommented
import N1qlConnector.Proofs.Compile.Tags
import N1qlConnector.Proofs.Statement.Quoting
import N1qlConnector.Proofs.Compile.Tables
import N1qlConnector.Proofs.Compile.Search
import N1qlConnector.Proofs.Run.Shaping
import N1qlConnector.Proofs.Run.Asking
import N1qlConnector.Proofs.Run.Queries
import N1qlConnector.Proofs.Run.Plans
import N1qlConnector.Proofs.Run.Inference
import N1qlConnector.Proofs.Schema.Columns
import N1qlConnector.Proofs.Schema.ForeignKeys
import N1qlConnector.Proofs.Run.Surfacing
import N1qlConnector.Proofs.Http.Handling
import N1qlConnector.Proofs.Format.Records
import N1qlConnector.Proofs.Http.Guarding
import N1qlConnector.Proofs.Store.IndexFailure
import N1qlConnector.Proofs.Http.StoreFailures
import N1qlConnector.Proofs.Http.Timing
import N1qlConnector.Proofs.Http.Counting
import N1qlConnector.Proofs.Cluster.Replies
import N1qlConnector.Proofs.Cluster.Statements
import N1qlConnector.Proofs.Format.Fields
import N1qlConnector.Proofs.Format.RoundTrip
import N1qlConnector.Proofs.Request.Formats
import N1qlConnector.Proofs.Request.RoundTrip
import N1qlConnector.Proofs.Config.RoundTrip
import N1qlConnector.Proofs.Response.Formats
import N1qlConnector.Proofs.Response.RoundTrip
