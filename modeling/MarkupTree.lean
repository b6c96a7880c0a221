import MarkupTree.Attributes
import MarkupTree.Binding
import MarkupTree.Callable
import MarkupTree.Decimal.Binary64
import MarkupTree.Decimal.Notation
import MarkupTree.Decimal.Numeral
import MarkupTree.Decimal.Shortest
import MarkupTree.Decimal.Whole
import MarkupTree.EventRoute
import MarkupTree.Factory
import MarkupTree.Fault
import MarkupTree.Json
import MarkupTree.Leaderboard
import MarkupTree.Notice
import MarkupTree.Proofs.Arrangement
import MarkupTree.Proofs.Attach
import MarkupTree.Proofs.Board
import MarkupTree.Proofs.Clicks
import MarkupTree.Proofs.Declarations
import MarkupTree.Proofs.Delivery
import MarkupTree.Proofs.Depth
import MarkupTree.Proofs.Diagnosis
import MarkupTree.Proofs.Embedding
import MarkupTree.Proofs.Entities
import MarkupTree.Proofs.Eviction
import MarkupTree.Proofs.Exchange
import MarkupTree.Proofs.Filling
import MarkupTree.Proofs.Grammar
import MarkupTree.Proofs.Grouping
import MarkupTree.Proofs.History
import MarkupTree.Proofs.Independence
import MarkupTree.Proofs.Insertion
import MarkupTree.Proofs.Invocation
import MarkupTree.Proofs.Keywords
import MarkupTree.Proofs.Lending
import MarkupTree.Proofs.Listeners
import MarkupTree.Proofs.Loading
import MarkupTree.Proofs.Marking
import MarkupTree.Proofs.Meaning
import MarkupTree.Proofs.Naming
import MarkupTree.Proofs.Omission
import MarkupTree.Proofs.Paths
import MarkupTree.Proofs.Places
import MarkupTree.Proofs.Positions
import MarkupTree.Proofs.Printing
import MarkupTree.Proofs.Reach
import MarkupTree.Proofs.Reader
import MarkupTree.Proofs.Registration
import MarkupTree.Proofs.Registry
import MarkupTree.Proofs.Responses
import MarkupTree.Proofs.Runs
import MarkupTree.Proofs.Spelling
import MarkupTree.Proofs.Structure
import MarkupTree.Proofs.Sums
import MarkupTree.Proofs.Validation
import MarkupTree.Proofs.Visit
import MarkupTree.Proofs.Visited
import MarkupTree.Proofs.Wellformed
import MarkupTree.Renderer
import MarkupTree.Selector
import MarkupTree.Selector.Cache
import MarkupTree.Session
import MarkupTree.Settings
import MarkupTree.Settings.Load
import MarkupTree.Shape
import MarkupTree.Surface
import MarkupTree.Table
import MarkupTree.Template
import MarkupTree.Text.Blank
import MarkupTree.Text.Digit
import MarkupTree.Text.Encoding
import MarkupTree.Text.Escape
import MarkupTree.Text.Half
import MarkupTree.Text.Lowercase
import MarkupTree.Text.Occurrence
import MarkupTree.Text.Printable
import MarkupTree.Text.Quoted
import MarkupTree.Toml.Document
import MarkupTree.Toml.Outline
import MarkupTree.Toml.Reader
import MarkupTree.Toml.Scalar
import MarkupTree.Value
import MarkupTree.Value.Key
import MarkupTree.Value.Part
import MarkupTree.Value.Safe
import MarkupTree.Vocabulary
