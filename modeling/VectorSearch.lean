import VectorSearch.Activity
import VectorSearch.Api.Service
import VectorSearch.Api.Wire
import VectorSearch.Collection
import VectorSearch.Command.Line
import VectorSearch.Command.Run
import VectorSearch.Deployment
import VectorSearch.Document
import VectorSearch.Embedding.Endpoint
import VectorSearch.Filter.Json
import VectorSearch.Filter.Query
import VectorSearch.Http.Script
import VectorSearch.Json.Outline
import VectorSearch.Json.Printer
import VectorSearch.Logging.LogFilter
import VectorSearch.Main
import VectorSearch.Metrics.Exposition
import VectorSearch.Ranking
import VectorSearch.SearchRequest
import VectorSearch.Settings.Loading
import VectorSearch.Store.Memory
import VectorSearch.Store.Payload
import VectorSearch.Toml.Reader
import VectorSearch.Url.Basic
import VectorSearch.Proofs.Activity
import VectorSearch.Proofs.Api.Envelope
import VectorSearch.Proofs.Api.Form
import VectorSearch.Proofs.Api.Search
import VectorSearch.Proofs.Collection.Adding
import VectorSearch.Proofs.Collection.Calls
import VectorSearch.Proofs.Collection.InMemory
import VectorSearch.Proofs.Collection.Interleaving
import VectorSearch.Proofs.Collection.Lengths
import VectorSearch.Proofs.Collection.Loading
import VectorSearch.Proofs.Collection.Overlapping
import VectorSearch.Proofs.Collection.Posting
import VectorSearch.Proofs.Collection.Reordering
import VectorSearch.Proofs.Collection.Search
import VectorSearch.Proofs.Document
import VectorSearch.Proofs.Domain.Ascii
import VectorSearch.Proofs.Filter.Connectives
import VectorSearch.Proofs.Filter.Faults
import VectorSearch.Proofs.Filter.Items
import VectorSearch.Proofs.Filter.Legacy
import VectorSearch.Proofs.Filter.ReadBack
import VectorSearch.Proofs.Filter.Wrapped
import VectorSearch.Proofs.Json.Floats
import VectorSearch.Proofs.Json.Printing
import VectorSearch.Proofs.Json.Reading
import VectorSearch.Proofs.Json.Shapes
import VectorSearch.Proofs.Number.Codes
import VectorSearch.Proofs.Number.Digits
import VectorSearch.Proofs.Number.Numeral
import VectorSearch.Proofs.Number.Order
import VectorSearch.Proofs.Number.Overflow
import VectorSearch.Proofs.Number.Quick
import VectorSearch.Proofs.Number.Roots
import VectorSearch.Proofs.Number.Rounding
import VectorSearch.Proofs.Number.Widening
import VectorSearch.Proofs.Ranking.Failure
import VectorSearch.Proofs.Ranking.Narrowing
import VectorSearch.Proofs.Ranking.Overflow
import VectorSearch.Proofs.Ranking.Reordering
import VectorSearch.Proofs.Ranking.Scoring
import VectorSearch.Proofs.Ranking.Selection
import VectorSearch.Proofs.Ranking.Comparison
import VectorSearch.Proofs.Metrics.Counting
import VectorSearch.Proofs.Store.Measuring
import VectorSearch.Proofs.Settings.Accepted
import VectorSearch.Proofs.Settings.Address
import VectorSearch.Proofs.Settings.StartUp
import VectorSearch.Proofs.Store.Addressing
import VectorSearch.Proofs.Store.Bases
import VectorSearch.Proofs.Store.Batching
import VectorSearch.Proofs.Store.Filtered
import VectorSearch.Proofs.Store.LastWrite
import VectorSearch.Proofs.Store.RoundTrip
import VectorSearch.Proofs.Text.Utf8
import VectorSearch.Proofs.Url.Appending
import VectorSearch.Proofs.Url.Authority
import VectorSearch.Proofs.Url.Fronting
import VectorSearch.Proofs.Url.Host
import VectorSearch.Proofs.Url.Percent
import VectorSearch.Proofs.Url.Segments
import VectorSearch.Proofs.Url.Target
import VectorSearch.Proofs.Settings.Expansion
import VectorSearch.Proofs.Toml.Lexemes
import VectorSearch.Proofs.Settings.Comments
import VectorSearch.Proofs.Number.Decimal
import VectorSearch.Proofs.Number.Separation
import VectorSearch.Proofs.Filter.FloatText
import VectorSearch.Proofs.Number.Literals
import VectorSearch.Proofs.Json.Literals
import VectorSearch.Proofs.Filter.Written
import VectorSearch.Proofs.Filter.Literals
