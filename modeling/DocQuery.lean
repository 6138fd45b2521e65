import DocQuery.Collection.Operation
import DocQuery.Operator.Call
import DocQuery.Report
import DocQuery.Proofs.Filter.Reading
import DocQuery.Proofs.Operator.Node
import DocQuery.Proofs.Assignment
import DocQuery.Proofs.Selector.Assembly
import DocQuery.Proofs.Filter.Subfilters
import DocQuery.Proofs.Selector.Keys
import DocQuery.Proofs.Selector.Meaning
import DocQuery.Proofs.Filter.Routes
import DocQuery.Proofs.Selector.Strictness
import DocQuery.Proofs.Selector.Grammar
import DocQuery.Proofs.Connection.Lifecycle
import DocQuery.Proofs.Client.Runs
import DocQuery.Proofs.Collection.Opening
import DocQuery.Proofs.Value.ObjectId
import DocQuery.Proofs.Collection.ById
import DocQuery.Proofs.Client.Failure
import DocQuery.Proofs.Collection.Failure
import DocQuery.Proofs.Number.Same
import DocQuery.Proofs.Value.Keys
import DocQuery.Proofs.Collection.Listings
import DocQuery.Proofs.Selector.Leniency
import DocQuery.Proofs.Selector.Branches
import DocQuery.Proofs.Page.Count
import DocQuery.Proofs.Page.Walk
import DocQuery.Proofs.Document.RoundTrip
import DocQuery.Proofs.Document.Stored
import DocQuery.Proofs.Document.Reload
import DocQuery.Proofs.Collection.FailedWrites
import DocQuery.Proofs.Collection.Addressing
import DocQuery.Proofs.Selector.Refusal
import DocQuery.Proofs.Client.Causes
import DocQuery.Proofs.Collection.Arguments
import DocQuery.Proofs.Text.WholeInteger
import DocQuery.Proofs.Number.IntegerPart
import DocQuery.Proofs.Page.Numbers
import DocQuery.Proofs.Collection.PageArgument
import DocQuery.Proofs.Collection.Settings
import DocQuery.Proofs.Collection.Window
import DocQuery.Proofs.Selector.Padding
import DocQuery.Proofs.Selector.Deprecation
import DocQuery.Proofs.Operator.Bindings
import DocQuery.Proofs.Selector.Locality
import DocQuery.Proofs.Text.Pattern
import DocQuery.Proofs.Selector.LiteralText
import DocQuery.Proofs.Query.SortSpelling
import DocQuery.Proofs.Selector.Composition
import DocQuery.Proofs.Collection.Counting
import DocQuery.Proofs.Text.LeadingNumber
import DocQuery.Proofs.Selector.Positions
import DocQuery.Proofs.Selector.Presence
import DocQuery.Proofs.Number.Remainder
import DocQuery.Proofs.Value.Kind
