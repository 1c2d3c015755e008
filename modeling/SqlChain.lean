import SqlChain.Client.Pool
import SqlChain.Json.Parser
import SqlChain.Session
import SqlChain.Query.Debug
import SqlChain.Sqlite.Url
import SqlChain.Value.Amount
import SqlChain.Value.Calendar
import SqlChain.Value.Uuid
import SqlChain.Proofs.Reach
import SqlChain.Proofs.Alphabet
import SqlChain.Proofs.Placeholders
import SqlChain.Proofs.Guard
import SqlChain.Proofs.Redaction
import SqlChain.Proofs.Predicate
import SqlChain.Proofs.Verdict
import SqlChain.Proofs.Foreign
import SqlChain.Proofs.Inlined
import SqlChain.Proofs.Protocol
import SqlChain.Proofs.Rearrangement
import SqlChain.Proofs.Styles
import SqlChain.Proofs.WellFormed
import SqlChain.Proofs.ClosedForm
import SqlChain.Proofs.Extension
import SqlChain.Proofs.Clients
import SqlChain.Proofs.Reading
import SqlChain.Proofs.Meaning
import SqlChain.Proofs.Grammar
import SqlChain.Proofs.Sorting
import SqlChain.Proofs.Patterns
import SqlChain.Proofs.Charset
import SqlChain.Proofs.Records
import SqlChain.Proofs.Layout
import SqlChain.Proofs.Interchange
import SqlChain.Proofs.Rows
import SqlChain.Proofs.Joins
import SqlChain.Proofs.Spelling
import SqlChain.Proofs.Introspection
import SqlChain.Proofs.Encoding
import SqlChain.Proofs.Echo
import SqlChain.Proofs.RoundTrip
