import DropFlow.Body
import DropFlow.Body.Lowering
import DropFlow.CallGraph
import DropFlow.Check
import DropFlow.Command
import DropFlow.Command.Flag
import DropFlow.Command.Hint
import DropFlow.Command.Run
import DropFlow.Config
import DropFlow.Config.Document
import DropFlow.Digraph
import DropFlow.Digraph.Closure
import DropFlow.Digraph.Component
import DropFlow.Digraph.Cycle
import DropFlow.Entries
import DropFlow.Files
import DropFlow.Finding
import DropFlow.Finding.Detection
import DropFlow.Finding.Report
import DropFlow.Flow.Analysis
import DropFlow.Flow.Bounds
import DropFlow.Flow.Dot
import DropFlow.Flow.Expansion
import DropFlow.Flow.Graph
import DropFlow.Flow.Propagation
import DropFlow.Flow.Solution
import DropFlow.Flow.Tables
import DropFlow.IdSet
import DropFlow.Location
import DropFlow.Log
import DropFlow.Main
import DropFlow.Oracle
import DropFlow.Pattern
import DropFlow.Pattern.Expression
import DropFlow.Pattern.Syntax
import DropFlow.Place
import DropFlow.Program
import DropFlow.Program.Loading
import DropFlow.Proofs.Body.Lowering
import DropFlow.Proofs.CallGraph
import DropFlow.Proofs.Check.Depth
import DropFlow.Proofs.Check.Order
import DropFlow.Proofs.Check.Report
import DropFlow.Proofs.Digraph.Circuit
import DropFlow.Proofs.Digraph.Closure
import DropFlow.Proofs.Digraph.Component
import DropFlow.Proofs.Digraph.Cycle
import DropFlow.Proofs.Digraph.Source
import DropFlow.Proofs.Digraph.Strong
import DropFlow.Proofs.Entries
import DropFlow.Proofs.Entries.Coverage
import DropFlow.Proofs.Entries.Roots
import DropFlow.Proofs.Finding.Additions
import DropFlow.Proofs.Finding.Detection
import DropFlow.Proofs.Finding.Drops
import DropFlow.Proofs.Finding.Merging
import DropFlow.Proofs.Finding.ReportOrder
import DropFlow.Proofs.Finding.Uses
import DropFlow.Proofs.Flow.Activations
import DropFlow.Proofs.Flow.Analysis
import DropFlow.Proofs.Flow.Cells
import DropFlow.Proofs.Flow.Confluence
import DropFlow.Proofs.Flow.Contexts
import DropFlow.Proofs.Flow.Contributions
import DropFlow.Proofs.Flow.Dot
import DropFlow.Proofs.Flow.Drops
import DropFlow.Proofs.Flow.Effects
import DropFlow.Proofs.Flow.Failure
import DropFlow.Proofs.Flow.Fixpoint
import DropFlow.Proofs.Flow.Guarded
import DropFlow.Proofs.Flow.Induced
import DropFlow.Proofs.Flow.Insertion
import DropFlow.Proofs.Flow.Ledger
import DropFlow.Proofs.Flow.Links
import DropFlow.Proofs.Flow.Lockstep
import DropFlow.Proofs.Flow.Operations
import DropFlow.Proofs.Flow.Renaming
import DropFlow.Proofs.Flow.Run
import DropFlow.Proofs.Flow.Step
import DropFlow.Proofs.Flow.Tables
import DropFlow.Proofs.Flow.Termination
import DropFlow.Proofs.Oracle
import DropFlow.Proofs.Oracle.Queries
import DropFlow.Proofs.Place
import DropFlow.Proofs.Place.Compact
import DropFlow.Proofs.Program.Loading
import DropFlow.Proofs.Program.Renaming
import DropFlow.Proofs.Program.Requests
import DropFlow.Proofs.Program.Store
import DropFlow.Proofs.Projection
import DropFlow.Proofs.Projection.Spelling
import DropFlow.Proofs.Resolution
import DropFlow.Proofs.Source.Document
import DropFlow.Proofs.Yaml.Decoding
import DropFlow.Proofs.Yaml.Scalar
import DropFlow.Resolution
import DropFlow.Source
import DropFlow.Source.Document
import DropFlow.Text.Binary
import DropFlow.Text.Category
import DropFlow.Text.Decimal
import DropFlow.Text.Emphasis
import DropFlow.Text.Folding
import DropFlow.Text.Json
import DropFlow.Text.Lower
import DropFlow.Text.Printable
import DropFlow.Text.Property
import DropFlow.Text.Quoted
import DropFlow.Text.Real
import DropFlow.Text.Script
import DropFlow.Text.Space
import DropFlow.Yaml.Cursor
import DropFlow.Yaml.Decoding
import DropFlow.Yaml.Library
import DropFlow.Yaml.Node
import DropFlow.Yaml.Node.Printer
import DropFlow.Yaml.Node.Reader
import DropFlow.Yaml.Scalar
import DropFlow.Yaml.Token
import DropFlow.Yaml.Token.Lexer
