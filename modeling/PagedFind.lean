import PagedFind.Number.Shortest
import PagedFind.Text.Basic
import PagedFind.Json.Basic
import PagedFind.Json.Printer
import PagedFind.Json.Reader
import PagedFind.Json.Shape
import PagedFind.Unicode.Category
import PagedFind.Unicode.Property
import PagedFind.Unicode.Script
import PagedFind.Unicode.Age
import PagedFind.Unicode.Segment
import PagedFind.Unicode.CaseFold
import PagedFind.Unicode.Query
import PagedFind.Regex.ClassReader
import PagedFind.Regex.Reader
import PagedFind.Regex.Match
import PagedFind.Selector.Document
import PagedFind.Selector.Matching
import PagedFind.Query.Request
import PagedFind.Find.Rounds
import PagedFind.Store.Basic
import PagedFind.Http.Backend
import PagedFind.Http.Url
import PagedFind.Toml.Reader
import PagedFind.Config.Basic
import PagedFind.CommandLine.Program
import PagedFind.Http.Message
import PagedFind.Main
import PagedFind.Proofs.Json.Order
import PagedFind.Proofs.Store.Bookmark
import PagedFind.Proofs.Store.Sorting
import PagedFind.Proofs.Find.Results
import PagedFind.Proofs.Find.Requests
import PagedFind.Proofs.Selector.Meaning
import PagedFind.Proofs.Store.Paging
import PagedFind.Proofs.Find.Stopping
import PagedFind.Proofs.Store.Resumption
import PagedFind.Proofs.Json.Alike
import PagedFind.Proofs.Selector.Congruence
import PagedFind.Proofs.Selector.FieldNames
import PagedFind.Proofs.Selector.Grammar
import PagedFind.Proofs.Find.Positions
import PagedFind.Proofs.Store.History
import PagedFind.Proofs.Store.Indexes
import PagedFind.Proofs.Store.Creation
import PagedFind.Proofs.Store.Calls
import PagedFind.Proofs.Store.Isolation
import PagedFind.Proofs.Store.Insertion
import PagedFind.Proofs.Selector.Faults
import PagedFind.Proofs.Json.Projection
import PagedFind.Proofs.Store.Bounds
import PagedFind.Proofs.Selector.Grouping
import PagedFind.Proofs.Selector.Refiltering
import PagedFind.Proofs.Json.Integers
import PagedFind.Proofs.Store.Continuation
import PagedFind.Proofs.Selector.Ranges
import PagedFind.Proofs.Find.Progress
import PagedFind.Proofs.Json.Reading
import PagedFind.Proofs.Text.Split
import PagedFind.Proofs.CommandLine.Patterns
import PagedFind.Proofs.Http.Encoding
import PagedFind.Proofs.Http.Targets
import PagedFind.Proofs.Lists.First
import PagedFind.Proofs.Text.Trim
import PagedFind.Proofs.Config.Fields
import PagedFind.Proofs.Config.Overrides
import PagedFind.Proofs.CommandLine.Layers
import PagedFind.Proofs.Query.Options
import PagedFind.Proofs.Store.Hints
import PagedFind.Proofs.Find.Log
import PagedFind.Proofs.Store.DefaultNames
